import MaskedDump.Shell.Syntax

/-!
# Shell scripts: tokens

A script is read from its text one complete command at a time. This module holds the state of a
reading and the tokens that text is made of, apart from words: blanks, comments, operators, and the
texts that follow a command on lines of their own. A backslash before a line feed joins two lines
everywhere but between single quotes.
-/

namespace MaskedDump.Shell

/-! ## Tokens -/

/-- What a redirection does with its outlet. -/
inductive RedirectOperator
  | fromFile | withFile | toFile | force | ontoFile | toOutlet
  /-- Takes a text that follows; the flag says whether tabs that begin its lines are dropped. -/
  | held (strips : Bool)
  deriving DecidableEq, Repr

/-- A token of a script. -/
inductive Token
  | finish | newline | semicolon | ampersand | both | either | bar | opening | closing | armEnd
  | redirect (outlet : Nat) (operator : RedirectOperator)
  | word (word : Word)
  | keyword (text : String)

namespace Token

/-- How a token is named in a refusal. -/
def label : Token → String
  | finish => "end of file"
  | newline => "newline"
  | redirect .. => "redirection"
  | word _ => "word"
  | semicolon => "\";\""
  | ampersand => "\"&\""
  | both => "\"&&\""
  | either => "\"||\""
  | bar => "\"|\""
  | opening => "\"(\""
  | closing => "\")\""
  | armEnd => "\";;\""
  | keyword text => "\"" ++ text ++ "\""

/-- Whether a list of commands ends before a token. -/
def endsList : Token → Bool
  | finish | closing | armEnd => true
  | keyword text => ["do", "done", "elif", "else", "esac", "fi", "then", "\x7d"].contains text
  | _ => false

/-- A word that is spelled like a keyword as one. -/
def recognized : Token → Token
  | word w =>
    match plain? w with
    | some text => if keywords.contains (String.ofList text) then keyword (String.ofList text)
      else word w
    | none => word w
  | token => token

end Token

/-! ## The state of a reading -/

/-- Why a script is refused, and on which line. -/
structure Refusal where
  line : Nat
  message : String

/-- A text that has been announced and has not come yet. -/
structure Awaited where
  number : Nat
  /-- The line that ends the text. -/
  mark : Text
  strips : Bool
  /-- Whether the text has expansions. -/
  expands : Bool

/-- The state of a reading. -/
structure Source where
  rest : Text
  line : Nat := 1
  /-- A token that was read and put back. -/
  pending : Option Token := none
  awaited : List Awaited := []
  /-- The texts that follow commands, by their numbers. -/
  texts : Array Word := #[]
  aliases : List (Text × Text) := []
  /-- The aliases that the text at hand comes from, with the length of what is left behind each. -/
  expanding : List (Text × Nat) := []

/-- A reader takes what it reads off the front of the text, or refuses the text. -/
abbrev Reader (α : Type) := StateT Source (Except Refusal) α

namespace Reader

/-- Refuses the text. -/
def refuse {α : Type} (message : String) : Reader α := do throw ⟨(← get).line, message⟩

/-- Refuses a token, where another one is expected or not. -/
def unexpected {α : Type} (token : Token) (expected : Option Token) : Reader α :=
  refuse <| token.label ++ " unexpected" ++
    match expected with
    | some other => " (expecting " ++ other.label ++ ")"
    | none => ""

/-- Puts a token back. -/
def putBack (token : Token) : Reader Unit := modify ({ · with pending := some token })

/-! ## Characters -/

/-- The number of line feeds in a text. -/
def lineFeeds (text : Text) : Nat := text.foldl (fun n c => if c = '\n' then n + 1 else n) 0

/-- Skips joined lines; the number counts them. -/
def afterJoins (joins : Nat) : Text → Nat × Text
  | '\\' :: '\n' :: rest => afterJoins (joins + 1) rest
  | text => (joins, text)

/-- The text at hand, behind joined lines. -/
def text : Reader Text := do
  let s ← get
  let (joins, rest) := afterJoins 0 s.rest
  set { s with rest, line := s.line + joins }
  return rest

/-- Takes a number of characters. -/
def take (n : Nat) : Reader Text := do
  let s ← get
  let taken := s.rest.take n
  set { s with rest := s.rest.drop n, line := s.line + lineFeeds taken }
  return taken

/-- Takes the longest run of characters of a class. -/
def takeRun (p : Char → Bool) : Reader Text := do
  let s ← get
  take (s.rest.takeWhile p).length

/-- Takes a character if it comes next. Says whether it did. -/
def takeIf (c : Char) : Reader Bool := do
  match ← text with
  | d :: _ =>
    if c = d then
      let _ ← take 1
      return true
    else return false
  | [] => return false

/-- Takes a character that counts as no line, even if it is a line feed. -/
def takeUncounted : Reader Unit := modify fun s => { s with rest := s.rest.tail }

/-- Reads a text of its own, whose lines are counted from a given one on, and leaves the one at hand
as it is. -/
def apart {α : Type} (line : Nat) (own : Text) (reader : Reader α) : Reader α := do
  let outer ← get
  set { outer with rest := own, line, pending := none, awaited := [], expanding := [] }
  let value ← reader
  modify fun inner => { outer with texts := inner.texts }
  return value

/-! ## Operators -/

/-- What follows blanks, joined lines and a comment. The line feed behind a comment stays. -/
def afterBlanks (joins : Nat) : Text → Nat × Text
  | '\\' :: '\n' :: rest => afterBlanks (joins + 1) rest
  | c :: rest =>
    if isBlank c then afterBlanks joins rest
    else if c = '#' then (joins, rest.dropWhile (· ≠ '\n'))
    else (joins, c :: rest)
  | [] => (joins, [])

/-- Takes an operator that redirects, from behind its outlet. -/
def redirectOperator : Reader RedirectOperator := do
  if ← takeIf '>' then
    if ← takeIf '>' then return .ontoFile
    else if ← takeIf '|' then return .force
    else if ← takeIf '&' then return .toOutlet
    else return .toFile
  else
    let _ ← takeIf '<'
    if ← takeIf '<' then return .held (← takeIf '-')
    else if ← takeIf '&' then return .toOutlet
    else if ← takeIf '>' then return .withFile
    else return .fromFile

/-- Takes a token that is no word, if one comes next. -/
def operator? : Reader (Option Token) := do
  modify fun s =>
    let (joins, rest) := afterBlanks 0 s.rest
    { s with rest, line := s.line + joins }
  match (← get).rest with
  | [] => return some .finish
  | c :: rest =>
    let single (token : Token) : Reader (Option Token) := do
      let _ ← take 1
      return some token
    let double (token doubled : Token) : Reader (Option Token) := do
      let _ ← take 1
      return some (if ← takeIf c then doubled else token)
    if c = '\n' then single .newline
    else if c = '&' then double .ampersand .both
    else if c = '|' then double .bar .either
    else if c = ';' then double .semicolon .armEnd
    else if c = '(' then single .opening
    else if c = ')' then single .closing
    else if c = '>' then return some (.redirect 1 (← redirectOperator))
    else if c = '<' then return some (.redirect 0 (← redirectOperator))
    else
      match rest.head? with
      | some d =>
        if c.isDigit && (d == '<' || d == '>') then
          let _ ← take 1
          return some (.redirect (c.toNat - 48) (← redirectOperator))
        else return none
      | none => return none

/-! ## Texts that follow -/

/-- Whether the last line feed of a line is joined: an odd number of backslashes stands before it.
-/
def joinsNext (line : Text) : Bool := (line.reverse.takeWhile (· == '\\')).length % 2 == 1

/-- The lines of a text up to the one that ends it, and what follows that. The flag says whether a
line begins that may end the text; the fuel bounds the lines. -/
def linesUpTo (awaited : Awaited) : Nat → Bool → Text → Text × Text
  | 0, _, text => ([], text)
  | _, _, [] => ([], [])
  | fuel + 1, begins, text =>
    let text := if begins && awaited.strips then text.dropWhile (· == '\t') else text
    let line := text.takeWhile (· ≠ '\n')
    let rest := text.drop line.length
    if begins && line == awaited.mark then ([], rest.tail)
    else
      let (more, after) := linesUpTo awaited fuel (!(awaited.expands && joinsNext line)) rest.tail
      (line ++ rest.take 1 ++ more, after)

/-- Takes a text that has been announced. -/
def heldText (awaited : Awaited) : Reader Text := do
  let s ← get
  let (held, rest) := linesUpTo awaited (s.rest.length + 1) true s.rest
  let _ ← take (s.rest.length - rest.length)
  return held

end Reader

end MaskedDump.Shell
