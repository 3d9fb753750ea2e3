import MaskedDump.Shell.Integer

/-!
# Shell reals

The numbers that formats with a point take: a sign, a whole number below `2 ^ 53`, and a power of
two. A decimal is read as the nearest of them, and written with a number of digits from its exact
value; in both, what lies in the middle goes to the even neighbour.
-/

namespace MaskedDump.Shell

/-- The size of a real number. -/
inductive Magnitude
  /-- A whole number times a power of two. -/
  | finite (mantissa : Nat) (exponent : Int)
  | infinite
  | noNumber
  deriving DecidableEq

/-- Whether a magnitude has all the digits that magnitudes are kept with. -/
def Magnitude.isNormal : Magnitude → Bool
  | finite mantissa _ => Nat.pow 2 52 ≤ mantissa
  | _ => false

/-- A real number. -/
structure Real where
  negative : Bool
  magnitude : Magnitude
  deriving DecidableEq

namespace Real

/-- Whether a real is a number and not infinite. -/
def isFinite (r : Real) : Bool := r.magnitude matches .finite ..

/-! ## Rounding -/

/-- A quotient, rounded to the nearest whole number, and to the even one from the middle. -/
def roundDiv (n d : Nat) : Nat :=
  let q := n / d
  let twice := 2 * (n % d)
  if twice < d ∨ (twice = d ∧ q % 2 = 0) then q else q + 1

/-- The number of bits of a mantissa. -/
def precision : Nat := 53

/-- The least exponent. -/
def leastExponent : Int := -1074

/-- The greatest exponent. -/
def greatestExponent : Int := 971

/-- A power, or one where the exponent is negative. -/
def power (base : Nat) (exponent : Int) : Nat := Nat.pow base exponent.toNat

/-- The nearest magnitude to a quotient. -/
def nearest (n d : Nat) : Magnitude :=
  if n = 0 then .finite 0 0
  else
    let guess : Int := (Nat.log2 n : Int) - Nat.log2 d - precision
    let fits (e : Int) : Bool := n * power 2 (-e) < d * power 2 e * Nat.pow 2 precision
    let e := if fits guess then guess else guess + 1
    let e := if fits e then e else e + 1
    let e := max e leastExponent
    let m := roundDiv (n * power 2 (-e)) (d * power 2 e)
    let (m, e) := if m = Nat.pow 2 precision then (m / 2, e + 1) else (m, e)
    if greatestExponent < e then .infinite else .finite m e

/-- The real nearest to a whole number. -/
def ofNat (n : Nat) : Real := { negative := false, magnitude := nearest n 1 }

/-! ## Reading -/

/-- The exponent behind a letter at the head of a text, and what follows. -/
def exponent? (letter : Char) (text : Text) : Option (Int × Text) :=
  match text with
  | c :: rest =>
    let (negative, digits) : Bool × Text := match rest with
      | '-' :: digits => (true, digits)
      | '+' :: digits => (false, digits)
      | digits => (false, digits)
    let run := digits.takeWhile Char.isDigit
    if c.toLower = letter ∧ !run.isEmpty then
      let n := (digitsValue 10 ((run.dropWhile (· == '0')).take 6) : Int)
      some (if negative then -n else n, digits.drop run.length)
    else none
  | [] => none

/-- Digits of a base with or without a point among them, and what follows: the number that they make
without the point, how many stand behind it, and whether there are any. -/
def pointed (base : Nat) (text : Text) : Nat × Nat × Bool × Text :=
  let whole := text.takeWhile (isDigitOf base)
  match text.drop whole.length with
  | '.' :: rest =>
    let fraction := rest.takeWhile (isDigitOf base)
    if whole.isEmpty ∧ fraction.isEmpty then (0, 0, false, text)
    else
      (digitsValue base (whole ++ fraction), fraction.length, true, rest.drop fraction.length)
  | rest => (digitsValue base whole, 0, !whole.isEmpty, rest)

/-- The magnitude of a decimal. Where the exponent is beyond all magnitudes its power is not worked
out. -/
def ofDecimal (digits : Nat) (exponent : Int) : Magnitude :=
  let first : Int := (Nat.toDigits 10 digits).length + exponent
  if digits = 0 ∨ first < -400 then .finite 0 0
  else if 400 < first then .infinite
  else nearest (digits * power 10 exponent) (power 10 (-exponent))

/-- The magnitude of a number in base 16 with an exponent of two. -/
def ofHexadecimal (digits : Nat) (exponent : Int) : Magnitude :=
  let first : Int := Nat.log2 digits + exponent
  if digits = 0 ∨ first < -1200 then .finite 0 0
  else if 1200 < first then .infinite
  else nearest (digits * power 2 exponent) (power 2 (-exponent))

/-- Whether a text begins with a word, in any case. -/
def beginsWith (word : String) (text : Text) : Bool :=
  (text.take word.length).map Char.toLower == word.toList

/-- What follows a label in parentheses, if there is one. -/
def afterLabel (text : Text) : Text :=
  match text with
  | '(' :: rest =>
    match rest.dropWhile isNameChar with
    | ')' :: after => after
    | _ => text
  | _ => text

/-- The magnitude at the head of a text, and what follows, if there is one. The flag says whether it
is in the range of magnitudes that are kept in full. -/
def scanMagnitude? (text : Text) : Option (Magnitude × Bool × Text) :=
  let ranged (nonzero : Bool) (magnitude : Magnitude) (rest : Text) : Magnitude × Bool × Text :=
    (magnitude, magnitude.isNormal || !nonzero, rest)
  if beginsWith "infinity" text then some (.infinite, true, text.drop 8)
  else if beginsWith "inf" text then some (.infinite, true, text.drop 3)
  else if beginsWith "nan" text then some (.noNumber, true, afterLabel (text.drop 3))
  else
    let (n, places, found, rest) := pointed 10 text
    let (e, rest) := (exponent? 'e' rest).getD (0, rest)
    let decimal := if found then some (ranged (n ≠ 0) (ofDecimal n (e - places)) rest) else none
    if beginsWith "0x" text then
      let (n, places, found, rest) := pointed 16 (text.drop 2)
      let (e, rest) := (exponent? 'p' rest).getD (0, rest)
      if found then some (ranged (n ≠ 0) (ofHexadecimal n (e - 4 * places)) rest) else decimal
    else decimal

/-- A real at the head of a text. -/
structure Scanned where
  value : Real
  rest : Text
  /-- Whether it is neither too large nor too small. -/
  fits : Bool

/-- The real at the head of a text, with white space and a sign before it. -/
def scan? (text : Text) : Option Scanned :=
  let signed (negative : Bool) (text : Text) : Option Scanned :=
    (scanMagnitude? text).map fun (magnitude, fits, rest) => ⟨{ negative, magnitude }, rest, fits⟩
  match text.dropWhile isSpace with
  | '-' :: rest => signed true rest
  | '+' :: rest => signed false rest
  | rest => signed false rest

/-! ## Writing -/

/-- The digits of a number with some of them behind a point, which is also written before none if it
is asked for. -/
def withPoint (places : Nat) (point : Bool) (n : Nat) : Text :=
  let digits := Nat.toDigits 10 n
  let digits := List.replicate (places + 1 - digits.length) '0' ++ digits
  let whole := digits.take (digits.length - places)
  whole ++ (if places = 0 ∧ !point then [] else ['.']) ++ digits.drop whole.length

/-- A magnitude with a number of digits behind the point. -/
def fixedText (m : Nat) (e : Int) (places : Nat) (point : Bool) : Text :=
  withPoint places point (roundDiv (m * power 2 e * Nat.pow 10 places) (power 2 (-e)))

/-- The power of ten that a magnitude above zero begins with. -/
def leadingPower (m : Nat) (e : Int) : Int :=
  let n := m * power 2 e
  let d := power 2 (-e)
  if d ≤ n then (Nat.toDigits 10 (n / d)).length - 1
  else
    let l := (Nat.toDigits 10 (d / n)).length
    if d ≤ n * Nat.pow 10 (l - 1) then 1 - (l : Int) else -(l : Int)

/-- A magnitude as one digit, a number of digits behind the point, and a power of ten. -/
def scaled (m : Nat) (e : Int) (places : Nat) : Nat × Int :=
  if m = 0 then (0, 0)
  else
    let x := leadingPower m e
    let n := roundDiv (m * power 2 e * power 10 (places - x))
      (power 2 (-e) * power 10 (x - places))
    if n = Nat.pow 10 (places + 1) then (n / 10, x + 1) else (n, x)

/-- An exponent with its sign and a least number of digits. -/
def exponentText (least : Nat) (x : Int) : Text :=
  let digits := Nat.toDigits 10 x.natAbs
  (if x < 0 then '-' else '+') :: (List.replicate (least - digits.length) '0' ++ digits)

/-- A magnitude with an exponent of ten. -/
def scientificText (m : Nat) (e : Int) (places : Nat) (point : Bool) : Text :=
  let (n, x) := scaled m e places
  withPoint places point n ++ 'e' :: exponentText 2 x

/-- Drops the zeros behind a point, and the point if nothing else is left behind it. -/
def dropZeros (text : Text) : Text :=
  let digits := text.takeWhile (· ≠ 'e')
  let kept := if digits.contains '.' then
      match digits.reverse.dropWhile (· == '0') with
      | '.' :: rest => rest.reverse
      | rest => rest.reverse
    else digits
  kept ++ text.drop digits.length

/-- A magnitude with a number of digits, with an exponent where it is large or small. -/
def generalText (m : Nat) (e : Int) (digits : Nat) (point : Bool) : Text :=
  let digits := max 1 digits
  let (_, x) := scaled m e (digits - 1)
  let text := if -4 ≤ x ∧ x < digits then fixedText m e (digits - 1 - x).toNat point
    else scientificText m e (digits - 1) point
  if point then text else dropZeros text

/-- A magnitude in base 16 with an exponent of two, with a number of digits behind the point or as
many as it has. -/
def hexadecimalText (m : Nat) (e : Int) (places : Option Nat) (point : Bool) : Text :=
  let normal := Nat.pow 2 (precision - 1) ≤ m
  let bits := if m = 0 then 0 else if normal then e + 52 else -1022
  let full := m * Nat.pow 2 (if normal ∨ m = 0 then 0 else (e - leastExponent).toNat)
  let (n, count) := match places with
    | some p =>
      if p < 13 then (roundDiv full (Nat.pow 16 (13 - p)), p)
      else (full * Nat.pow 16 (p - 13), p)
    | none => (full, 13)
  let digits := Nat.toDigits 16 n
  let digits := List.replicate (count + 1 - digits.length) '0' ++ digits
  let fraction := digits.drop (digits.length - count)
  let fraction := if places.isSome then fraction
    else (fraction.reverse.dropWhile (· == '0')).reverse
  ['0', 'x'] ++ digits.take (digits.length - count)
    ++ (if fraction.isEmpty ∧ !point then [] else ['.']) ++ fraction ++ 'p' :: exponentText 1 bits

/-- The digits of a real under the letter of a directive: with a number of places, with an exponent,
or as either is shorter. An infinite one has none. -/
def digits (r : Real) (letter : Char) (places : Option Nat) (point : Bool) : Text :=
  match r.magnitude with
  | .infinite => ['i', 'n', 'f']
  | .noNumber => ['n', 'a', 'n']
  | .finite m e =>
    match letter with
    | 'f' => fixedText m e (places.getD 6) point
    | 'e' => scientificText m e (places.getD 6) point
    | 'g' => generalText m e (places.getD 6) point
    | _ => hexadecimalText m e places point

end Real

end MaskedDump.Shell
