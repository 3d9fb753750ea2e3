import MaskedDump.Shell.Real

/-!
# Formatted output of the shell

The texts that `echo` and `printf` write: backslash escapes, and formats with directives that take
the arguments in turn. A format is used again while arguments are left. An argument that is no
number counts for as much of one as it begins with, and is remarked on.
-/

namespace MaskedDump.Shell

/-! ## Escapes -/

/-- The value of some octal digits, modulo the size of a byte. -/
def octalValue (digits : Text) : Char :=
  Char.ofNat (digits.foldl (fun n c => n * 8 + (c.toNat - 48)) 0 % 256)

/-- Whether a character is an octal digit. -/
def isOctal (c : Char) : Bool := '0' ≤ c && c ≤ '7'

/-- The escape letters. -/
def escapeLetter : Char → Option Char
  | 'a' => some '\x07'
  | 'b' => some '\x08'
  | 'e' => some '\x1b'
  | 'f' => some '\x0c'
  | 'n' => some '\n'
  | 'r' => some '\r'
  | 't' => some '\t'
  | 'v' => some '\x0b'
  | '\\' => some '\\'
  | _ => none

/-- Reads an escape behind its backslash: up to three octal digits, or a letter. A backslash before
anything else stands for itself. -/
def readEscape (text : Text) : Char × Text :=
  let digits := (text.take 3).takeWhile isOctal
  if digits.isEmpty then
    match text with
    | [] => ('\\', [])
    | c :: rest =>
      match escapeLetter c with
      | some value => (value, rest)
      | none => ('\\', c :: rest)
  else (octalValue digits, text.drop digits.length)

theorem length_readEscape_le (text : Text) : (readEscape text).2.length ≤ text.length := by
  simp only [readEscape]
  split
  · split
    · exact Nat.le_refl _
    · split
      · exact Nat.le_succ _
      · exact Nat.le_refl _
  · simp

/-- A text with its escapes read, as in an argument: an octal escape may begin with an extra zero,
and `\c` ends all output. The flag says whether output goes on. -/
def unescape (text : Text) : Text × Bool :=
  match text with
  | [] => ([], true)
  | '\\' :: 'c' :: _ => ([], false)
  | '\\' :: '0' :: rest =>
    let digits := (rest.take 3).takeWhile isOctal
    let (more, goesOn) := unescape (rest.drop digits.length)
    (octalValue digits :: more, goesOn)
  | '\\' :: rest =>
    let (more, goesOn) := unescape (readEscape rest).2
    ((readEscape rest).1 :: more, goesOn)
  | c :: rest =>
    let (more, goesOn) := unescape rest
    (c :: more, goesOn)
termination_by text.length
decreasing_by
  · simp
    omega
  · have := length_readEscape_le rest
    simp only [List.length_cons]
    omega
  · simp

/-- What `echo` writes. -/
def echoText (args : List Text) : Text :=
  let (newline, args) : Bool × List Text :=
    match args with
    | ['-', 'n'] :: rest => (false, rest)
    | args => (true, args)
  let rec join : List Text → Text
    | [] => if newline then ['\n'] else []
    | arg :: rest =>
      match unescape arg with
      | (text, false) => text
      | (text, true) =>
        text ++ (if rest.isEmpty then [] else [' ']) ++ join rest
  join args

/-! ## Directives -/

/-- A directive of a format: its flags, width, precision and letter. -/
structure Directive where
  flags : Text
  width : Nat
  precision : Option Nat
  letter : Char

namespace Directive

/-- Whether a flag is set. -/
def has (d : Directive) (flag : Char) : Bool := d.flags.contains flag

/-- Fills a text up to the width. -/
def pad (d : Directive) (text : Text) : Text :=
  let filling := List.replicate (d.width - text.length) ' '
  if d.has '-' then text ++ filling else filling ++ text

/-- Fills a mark and digits up to the width, with zeros between them if so flagged. -/
def padNumber (d : Directive) (zeros : Bool) (mark digits : Text) : Text :=
  if zeros && d.has '0' && !d.has '-' then
    mark ++ List.replicate (d.width - mark.length - digits.length) '0' ++ digits
  else d.pad (mark ++ digits)

/-- The sign of a number. -/
def sign (d : Directive) (negative : Bool) : Text :=
  if negative then ['-'] else if d.has '+' then ['+'] else if d.has ' ' then [' '] else []

/-- A text of which only so many characters are written as the precision says. -/
def cut (d : Directive) (text : Text) : Text :=
  match d.precision with
  | some p => text.take p
  | none => text

/-- The digits of a number, as many as the precision asks for at least. -/
def digits (d : Directive) (base n : Nat) : Text :=
  let digits := if n = 0 ∧ d.precision = some 0 then [] else Nat.toDigits base n
  let digits := List.replicate (d.precision.getD 1 - digits.length) '0' ++ digits
  if base = 8 ∧ d.has '#' ∧ digits.head? ≠ some '0' then '0' :: digits else digits

/-- Writes an integer. -/
def integer (d : Directive) (n : Int) : Text :=
  let word := (Int64.ofInt n).toUInt64.toNat
  let write := d.padNumber d.precision.isNone
  let mark := if d.has '#' ∧ word ≠ 0 then ['0', d.letter] else []
  match d.letter with
  | 'o' => write [] (d.digits 8 word)
  | 'u' => write [] (d.digits 10 word)
  | 'x' => write mark (d.digits 16 word)
  | 'X' => write mark ((d.digits 16 word).map Char.toUpper)
  | _ => write (d.sign (n < 0)) (d.digits 10 n.natAbs)

/-- Writes a real. -/
def real (d : Directive) (r : Real) : Text :=
  let digits := r.digits d.letter.toLower d.precision (d.has '#')
  let (mark, digits) := if d.letter.toLower = 'a' ∧ r.isFinite then
      (digits.take 2, digits.drop 2)
    else ([], digits)
  let text := d.padNumber r.isFinite (d.sign r.negative ++ mark) digits
  if d.letter.isUpper then text.map Char.toUpper else text

end Directive

/-! ## Arguments -/

/-- A value that an argument gives, what is remarked on it, and the arguments left. -/
structure Given (α : Type) where
  value : α
  remarks : List Text
  left : List Text

/-- The code of the character that is quoted in an argument. -/
def quotedCode? : Text → Option Nat
  | '\x27' :: rest | '\x22' :: rest => some ((rest.head?.map Char.toNat).getD 0)
  | _ => none

/-- What is remarked on an argument that a number was read from. -/
def remarks (arg rest : Text) (fits : Bool) : List Text :=
  if rest.isEmpty then
    if fits then [] else [arg ++ Text.ofString ": Numerical result out of range"]
  else if rest.length = arg.length then [arg ++ Text.ofString ": expected numeric value"]
  else [arg ++ Text.ofString ": not completely converted"]

/-- Takes an integer from the arguments, cut off where it is too large for a word. -/
def takeInteger (signed : Bool) : List Text → Given Int
  | [] => ⟨0, [], []⟩
  | arg :: left =>
    match quotedCode? arg with
    | some code => ⟨code, [], left⟩
    | none =>
      let n := scanInteger none arg
      if signed then ⟨n.clamped, remarks arg n.rest n.fits, left⟩
      else
        let fits := decide (n.value.natAbs < UInt64.size)
        ⟨if fits then n.value else -1, remarks arg n.rest fits, left⟩

/-- Takes a real from the arguments. -/
def takeReal : List Text → Given Real
  | [] => ⟨Real.ofNat 0, [], []⟩
  | arg :: left =>
    match quotedCode? arg with
    | some code => ⟨Real.ofNat code, [], left⟩
    | none =>
      match Real.scan? arg with
      | some scanned => ⟨scanned.value, remarks arg scanned.rest scanned.fits, left⟩
      | none => ⟨Real.ofNat 0, remarks arg arg true, left⟩

/-! ## Formats -/

/-- How the use of a format ends. -/
inductive Ending
  | finished
  /-- An argument says that nothing more is written. -/
  | stopped
  | refused (message : Text)

/-- What the use of a format comes to. -/
structure Printed where
  text : Text := []
  /-- What is said about the arguments. -/
  remarks : List Text := []
  left : List Text
  ending : Ending := .finished

/-- A width or precision, given as digits or taken from the arguments, and the format behind it. -/
def readSize (format : Text) (args : List Text) : Option Int × Text × Given Unit :=
  match format with
  | '*' :: rest =>
    let n := takeInteger true args
    (some n.value, rest, ⟨(), n.remarks, n.left⟩)
  | _ =>
    let digits := format.takeWhile Char.isDigit
    (readNumber digits, format.drop digits.length, ⟨(), [], args⟩)

/-- Reads a directive behind its percent sign, and what follows its letter. -/
def readDirective (format : Text) (args : List Text) : Option (Directive × Text) × Given Unit :=
  let isFlag (c : Char) : Bool := c == '#' || c == '-' || c == '+' || c == ' ' || c == '0'
  let flags := format.takeWhile isFlag
  let (width, rest, first) := readSize (format.drop flags.length) args
  let (precision, rest, second) := match rest with
    | '.' :: rest =>
      let (precision, rest, given) := readSize rest first.left
      (some (precision.getD 0), rest, given)
    | rest => (none, rest, ⟨(), [], first.left⟩)
  let width := width.getD 0
  let directive := rest.head?.map fun letter =>
    ({ flags := if width < 0 then '-' :: flags else flags
       width := width.natAbs
       precision := precision.bind fun p => if p < 0 then none else some p.toNat
       letter }, rest.tail)
  (directive, ⟨(), first.remarks ++ second.remarks, second.left⟩)

/-- Writes what an argument gives under a directive, if there is one of its letter. -/
def Directive.write (d : Directive) (args : List Text) : Option Printed :=
  let arg := args.headD []
  match d.letter with
  | 's' => some { text := d.pad (d.cut arg), left := args.tail }
  | 'c' => some { text := d.pad [arg.headD '\x00'], left := args.tail }
  | 'b' =>
    let (text, goesOn) := unescape arg
    some { text := d.pad (d.cut text), left := args.tail
           ending := if goesOn then .finished else .stopped }
  | letter =>
    if ['d', 'i', 'o', 'u', 'x', 'X'].contains letter then
      let n := takeInteger (letter == 'd' || letter == 'i') args
      some { text := d.integer n.value, remarks := n.remarks, left := n.left }
    else if ['a', 'e', 'f', 'g'].contains letter.toLower then
      let r := takeReal args
      some { text := d.real r.value, remarks := r.remarks, left := r.left }
    else none

/-- Puts what was written before other things that are. -/
def Printed.before (first more : Printed) : Printed :=
  { more with text := first.text ++ more.text, remarks := first.remarks ++ more.remarks }

/-- Uses a format once; the fuel is its length. -/
def formatOnce : Nat → Text → List Text → Printed
  | 0, _, args => { left := args }
  | _, [], args => { left := args }
  | fuel + 1, '\\' :: rest, args =>
    let (c, rest) := readEscape rest
    let p := formatOnce fuel rest args
    { p with text := c :: p.text }
  | fuel + 1, '%' :: '%' :: rest, args =>
    let p := formatOnce fuel rest args
    { p with text := '%' :: p.text }
  | fuel + 1, '%' :: format, args =>
    let (directive, given) := readDirective format args
    match directive with
    | none =>
      { left := given.left, remarks := given.remarks
        ending := .refused (Text.ofString "missing format character") }
    | some (d, rest) =>
      match d.write given.left with
      | none =>
        { left := given.left, remarks := given.remarks
          ending := .refused ('%' :: format.take (format.length - rest.length)
            ++ Text.ofString ": invalid directive") }
      | some written =>
        let written := { written with remarks := given.remarks ++ written.remarks }
        match written.ending with
        | .finished => written.before (formatOnce fuel rest written.left)
        | _ => written
  | fuel + 1, c :: rest, args =>
    let p := formatOnce fuel rest args
    { p with text := c :: p.text }

/-- Uses a format until the arguments are used up; the fuel is their number. -/
def formatAll : Nat → Text → List Text → Printed
  | 0, format, args => formatOnce format.length format args
  | fuel + 1, format, args =>
    let p := formatOnce format.length format args
    match p.ending with
    | .finished =>
      if p.left.isEmpty || p.left.length == args.length then p
      else p.before (formatAll fuel format p.left)
    | _ => p

end MaskedDump.Shell
