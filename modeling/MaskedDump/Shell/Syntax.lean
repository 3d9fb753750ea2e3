import MaskedDump.Bytes

/-!
# Shell scripts: the syntax tree

The client tools of a rehearsal are shell scripts. A script is a list of commands, a command has
words, and a word is made of parts that are expanded when the command runs. Shell text is handled
one character for each byte, whatever the encoding.
-/

namespace MaskedDump.Shell

/-- Shell text: one character, below 256, for each byte. -/
abbrev Text := List Char

/-- The shell text of a byte string. -/
def Text.ofBytes (bs : Bytes) : Text := bs.map fun b => Char.ofNat b.toNat

/-- The bytes of a shell text. -/
def Text.toBytes (t : Text) : Bytes := t.map fun c => UInt8.ofNat c.toNat

/-- The shell text of an ASCII string. -/
def Text.ofString (s : String) : Text := Text.ofBytes (Bytes.ofString s)

mutual

/-- A part of a word. A quoted part is neither split into fields nor read as a pattern. -/
inductive Part
  | text (quoted : Bool) (text : Text)
  | parameter (quoted : Bool) (name : Text) (use : Use)
  | output (quoted : Bool) (body : List Command)
  | arithmetic (quoted : Bool) (expression : List Part)

/-- What is made of the value of a parameter. The forms with a word come in two kinds: those that
treat an empty value as a missing one, and those that do not. -/
inductive Use
  | value
  | length
  | orElse (emptyToo : Bool) (word : List Part)
  | orAssign (emptyToo : Bool) (word : List Part)
  | orFail (emptyToo : Bool) (word : List Part)
  | ifGiven (emptyToo : Bool) (word : List Part)
  | cutFront (longest : Bool) (pattern : List Part)
  | cutBack (longest : Bool) (pattern : List Part)
  /-- Something that the shell does not know. It fails when it is expanded. -/
  | unknown

/-- A redirection of one of the numbered outlets. -/
inductive Redirect
  | fromFile (outlet : Nat) (path : List Part)
  /-- Opens a file for reading and writing, from its beginning on. -/
  | withFile (outlet : Nat) (path : List Part)
  /-- A file that is there is not replaced if the shell is told so, unless `force` is set. -/
  | toFile (outlet : Nat) (force : Bool) (path : List Part)
  | ontoFile (outlet : Nat) (path : List Part)
  | toOutlet (outlet : Nat) (other : List Part)
  /-- A text that follows the command, by its number in the table of such texts. -/
  | held (outlet : Nat) (number : Nat)

/-- One arm of a choice: its patterns and what it does. -/
inductive Arm
  | mk (patterns : List (List Part)) (body : List Command)

/-- A command. Some keep the number of the line on which they begin. -/
inductive Command
  | simple (line : Nat) (assignments : List (Text × List Part)) (words : List (List Part))
      (redirects : List Redirect)
  | group (body : List Command)
  | subshell (line : Nat) (body : List Command)
  | background (body : Command)
  | conditional (test yes no : List Command)
  | loop (whileTrue : Bool) (test body : List Command)
  | each (line : Nat) (name : Text) (words : List (List Part)) (body : List Command)
  | choice (line : Nat) (subject : List Part) (arms : List Arm)
  | chain (onSuccess : Bool) (first second : Command)
  | negation (body : Command)
  | piped (commands : List Command)
  | redirected (line : Nat) (body : Command) (redirects : List Redirect)
  | definition (name : Text) (body : Command)

end

instance : Inhabited Command := ⟨.group []⟩

/-- A word is a list of parts. -/
abbrev Word := List Part

/-- A script is a list of commands. -/
abbrev Script := List Command

/-! ## Characters -/

/-- Characters that begin a name. -/
def isNameStart (c : Char) : Bool := c.isAlpha || c == '_'

/-- Characters of a name. -/
def isNameChar (c : Char) : Bool := c.isAlphanum || c == '_'

/-- Parameters that are spelled by one character. -/
def isSpecialParameter (c : Char) : Bool :=
  c == '@' || c == '*' || c == '#' || c == '?' || c == '$' || c == '!' || c == '-' || c.isDigit

/-- Whether a text is a name. -/
def isName (text : Text) : Bool := text.head?.any isNameStart && text.all isNameChar

/-- Blanks between words. -/
def isBlank (c : Char) : Bool := c == ' ' || c == '\t'

/-- Characters that end an unquoted word. -/
def endsWord (c : Char) : Bool :=
  isBlank c || c == '\n' || c == ';' || c == '&' || c == '|' || c == '<' || c == '>' || c == '('
    || c == ')'

/-! ## Names -/

/-- The commands of the shell that belong to its language. An error in one of them ends a script,
and values that are set before one outlive it. -/
def specialCommands : List String :=
  [ ".", ":", "break", "continue", "eval", "exec", "exit", "export", "local", "readonly", "return",
    "set", "shift", "times", "trap", "unset" ]

/-- The commands of the shell that set variables. A word for one of them that looks like an
assignment is expanded like one. -/
def declaringCommands : List String := ["alias", "export", "local", "readonly"]

/-- The words that have a meaning of their own where a command begins. -/
def keywords : List String :=
  [ "!", "case", "do", "done", "elif", "else", "esac", "fi", "for", "if", "in", "then", "until",
    "while", "\x7b", "\x7d" ]

/-! ## Words -/

/-- The text of a word that is nothing but an unquoted text. -/
def plain? : Word → Option Text
  | [] => some []
  | [.text false text] => some text
  | _ => none

/-- The name and the value of a word that begins with a name and an equals sign. -/
def assignment? : Word → Option (Text × Word)
  | .text false text :: rest =>
    match text.dropWhile isNameChar with
    | '=' :: value =>
      let name := text.takeWhile isNameChar
      if isName name then some (name, if value.isEmpty then rest else .text false value :: rest)
      else none
    | _ => none
  | _ => none

end MaskedDump.Shell
