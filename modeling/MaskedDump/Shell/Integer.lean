import MaskedDump.Shell.Syntax

/-!
# Shell integers

Integers are words of 64 bits. They are read off the front of a text, in a base that the text itself
may tell: a zero before the digits stands for base 8, and a letter behind it for base 16. A number
that is too large for a word is cut off at the greatest or least one.
-/

namespace MaskedDump.Shell

/-! ## Digits -/

/-- The value of a digit or letter. -/
def digitValue (c : Char) : Nat :=
  if c.isDigit then c.toNat - 48
  else if c.isAlpha then c.toLower.toNat - 87
  else 36

/-- The number that digits of a base make. -/
def digitsValue (base : Nat) (digits : Text) : Nat :=
  digits.foldl (fun n c => n * base + digitValue c) 0

/-- Whether a character is a digit of a base. -/
def isDigitOf (base : Nat) (c : Char) : Bool := digitValue c < base

/-- White space before a number. -/
def isSpace (c : Char) : Bool := c == ' ' || ('\t' ≤ c && c ≤ '\r')

/-! ## Words -/

/-- The greatest integer. -/
def greatestInteger : Int := 9223372036854775807

/-- The least integer. -/
def leastInteger : Int := -9223372036854775808

/-- The word of an integer, which wraps around. -/
def wrapped (n : Int) : Int := (Int64.ofInt n).toInt

/-! ## Reading -/

/-- An integer at the head of a text. -/
structure ScannedInteger where
  /-- The integer, however large. -/
  value : Int
  rest : Text
  /-- Whether there is one at all. -/
  found : Bool

namespace ScannedInteger

/-- Whether the integer is that of a word. -/
def fits (n : ScannedInteger) : Bool := leastInteger ≤ n.value && n.value ≤ greatestInteger

/-- The integer, cut off where it is too large for a word. -/
def clamped (n : ScannedInteger) : Int := max leastInteger (min greatestInteger n.value)

end ScannedInteger

/-- The base of some digits, and the digits without the sign of the base. -/
def baseOf (text : Text) : Nat × Text :=
  match text with
  | '0' :: x :: c :: rest =>
    if (x = 'x' ∨ x = 'X') ∧ isDigitOf 16 c then (16, c :: rest) else (8, text)
  | '0' :: _ => (8, text)
  | _ => (10, text)

/-- Scans an integer, with white space and a sign before it, in a base or in the one it tells. -/
def scanInteger (base : Option Nat) (text : Text) : ScannedInteger :=
  let unsigned (negative : Bool) (digits : Text) : ScannedInteger :=
    let (base, digits) := match base with
      | some base => (base, digits)
      | none => baseOf digits
    let run := digits.takeWhile (isDigitOf base)
    if run.isEmpty then { value := 0, rest := text, found := false }
    else
      let n := (digitsValue base run : Int)
      { value := if negative then -n else n, rest := digits.drop run.length, found := true }
  match text.dropWhile isSpace with
  | '-' :: digits => unsigned true digits
  | '+' :: digits => unsigned false digits
  | digits => unsigned false digits

/-- The integer that a whole text is, with white space around it. A blank text is zero unless a base
is given. -/
def readInteger (base : Option Nat) (text : Text) : Option Int :=
  let n := scanInteger base text
  let blank := text.all isSpace
  if (n.found && n.rest.all isSpace && n.fits) || (blank && base.isNone) then some n.value
  else none

/-- The number that a text of digits is. -/
def readNumber (text : Text) : Option Nat :=
  if !text.isEmpty && text.all Char.isDigit then some (digitsValue 10 text) else none

/-- The digits of an integer. -/
def integerText (n : Int) : Text := (toString n).toList

end MaskedDump.Shell
