import MaskedDump.Shell.Integer
import MaskedDump.Shell.State

/-!
# Commands of the shell

What the commands that the shell itself provides have in common: how they take options and numbers
from their arguments, and how they write.
-/

namespace MaskedDump.Shell.Builtin

open Act (write complain finish fail)

/-! ## Arguments -/

/-- An option of a command, with its argument if it takes one. -/
abbrev Given := Char × Text

/-- Takes the options behind one dash. The result says whether the argument of the last one is still
to come. -/
def optionLettersOf (plain taking : List Char) : Text → Act (List Given × Option Char)
  | [] => return ([], none)
  | c :: rest => do
    if taking.contains c then
      return if rest.isEmpty then ([], some c) else ([(c, rest)], none)
    else if plain.contains c then
      let (more, missing) ← optionLettersOf plain taking rest
      return ((c, []) :: more, missing)
    else fail (Text.ofString "Illegal option -" ++ [c])

/-- Takes the options that a command knows, plain ones and ones that take an argument, and leaves
the operands. Two dashes end the options. -/
def takeOptions (plain taking : List Char) : List Text → Act (List Given × List Text)
  | ('-' :: c :: letters) :: rest => do
    if c = '-' ∧ letters.isEmpty then return ([], rest)
    let (given, missing) ← optionLettersOf plain taking (c :: letters)
    match missing, rest with
    | none, rest => do
      let (more, operands) ← takeOptions plain taking rest
      return (given ++ more, operands)
    | some letter, arg :: rest => do
      let (more, operands) ← takeOptions plain taking rest
      return (given ++ (letter, arg) :: more, operands)
    | some letter, [] => fail (Text.ofString "No arg for -" ++ letter :: Text.ofString " option")
  | args => return ([], args)

/-- The operands of a command that knows no options. -/
def operands (args : List Text) : Act (List Text) := do return (← takeOptions [] [] args).2

/-- The number that an operand is. -/
def number (text : Text) : Act Nat := do
  match readInteger (some 10) text with
  | some n =>
    if 0 ≤ n ∧ n < 2147483648 then return n.toNat
    else fail (Text.ofString "Illegal number: " ++ text)
  | none => fail (Text.ofString "Illegal number: " ++ text)

/-- The name and the value of an argument such as `name=value`. -/
def assignmentOf (arg : Text) : Text × Option Text :=
  (arg.takeWhile (· ≠ '='), (arg.dropWhile (· ≠ '=')).tail?)

/-- Fails unless a text is a name. -/
def requireName (name : Text) : Act Unit := do
  if !isName name then fail (name ++ Text.ofString ": bad variable name")

/-! ## Output -/

/-- The rest of a text between quotes, single ones or double ones. Single quotes stand between
double ones and all else between single ones. -/
def quotedRest (single : Bool) : Text → Text
  | [] => [if single then '\x27' else '\x22']
  | c :: rest =>
    if (c == '\x27') != single then c :: quotedRest single rest
    else (if single then ['\x27', '\x22'] else ['\x22', '\x27']) ++ c :: quotedRest (!single) rest

/-- A text between quotes, such that it is read back as it is. -/
def quotedText (text : Text) : Text := '\x27' :: quotedRest true text

/-- Writes a text to standard output, and sets the status unless that failed. -/
def sayWith (status : Nat) (text : Text) : Act Unit := do
  if ← write 1 text then finish status
  else
    complain ((← get).speaker.getD [] ++ Text.ofString ": I/O error")
    finish (max 1 status)

/-- Writes a text to standard output. -/
def say (text : Text) : Act Unit := sayWith 0 text

/-- Writes a text to standard error. -/
def warn (text : Text) : Act Unit := do
  let _ ← write 2 text

/-- The lines that some texts make. -/
def linesOf (texts : List Text) : Text := (texts.map (· ++ ['\n'])).flatten

/-- Sorts names in the order of their bytes. -/
def sorted {α : Type} (name : α → Text) (items : List α) : List α :=
  items.mergeSort fun a b => !List.lex (name b) (name a) fun c d => Nat.blt c.toNat d.toNat

end MaskedDump.Shell.Builtin
