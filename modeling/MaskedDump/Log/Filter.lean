import MaskedDump.Log
import MaskedDump.Log.Pattern
import MaskedDump.Text.Alphanumeric
import MaskedDump.Text.Utf8

/-!
# Filters of the log

A filter, read from a text of directives, selects the entries that are shown: of the directives that
cover an entry the most specific decides, and an entry that none covers is not shown. A directive is
a level, the beginning of a path, or both around an equals sign; behind the path, brackets may ask
for a span of work and for a field. A text with a malformed directive is no filter at all.
-/

namespace MaskedDump.Log

/-- What a directive covers, and the rank up to which it lets entries through. -/
structure Directive where
  rank : Nat
  /-- What the speaker's path begins with. -/
  path : String := ""
  /-- The field that an entry must have. -/
  field : Option String := none
  /-- Whether the directive waits for a span of work or for the value of a field. This program opens
  no spans and its entries have no such values. -/
  waits : Bool := false
  deriving DecidableEq, Repr

/-- A filter is a list of directives. -/
abbrev Filter := List Directive

/-! ## Reading -/

/-- Reads a rank: a level's name in any case, `off`, or a number up to five. -/
def rank? (s : String) : Option Nat :=
  let digits := if s.startsWith "+" then s.toList.tail else s.toList
  if !digits.isEmpty && digits.all Char.isDigit then
    let n := digits.foldl (fun n c => n * 10 + (c.toNat - 48)) 0
    if n ≤ 5 then some n else none
  else [("off", 0), ("error", 1), ("warn", 2), ("info", 3), ("debug", 4), ("trace", 5)].lookup
    (String.ofList (s.toList.map Char.toLower))

/-- A directive as it is read: all of its bytes, and the characters that it is made of without the
blanks around them. Parts are found among the characters, but cut out of the bytes, so blanks in
front shift every part. -/
structure Source where
  whole : Bytes
  inner : List Char

namespace Source

/-- The number of bytes of some characters. -/
def width (cs : List Char) : Nat := (String.ofList cs).utf8ByteSize

/-- The bytes before a number of characters from the end. -/
def offset (s : Source) (rest : List Char) : Nat := width s.inner - width rest

/-- The part between the places at which two rests begin. -/
def part? (s : Source) (fromRest toRest : List Char) : Option String :=
  Utf8.decode? ((s.whole.drop (s.offset fromRest)).take (s.offset toRest - s.offset fromRest))

/-- The part from the place at which a rest begins, with the blanks at the end. -/
def tail? (s : Source) (rest : List Char) : Option String :=
  Utf8.decode? (s.whole.drop (s.offset rest))

/-- Adds to a directive the field that a text asks for, alone or with a pattern for its value. -/
def withField? (d : Directive) (text : String) : Option Directive :=
  match text.splitOn "=" with
  | [""] => none
  | name :: pattern :: _ =>
    if Pattern.isWellFormed pattern then some { d with field := some name, waits := true } else none
  | names => some { d with field := names.head? }

/-- Reads what stands in brackets, from behind the opening one: the name of a span, and a field in
braces. Also gives what follows the closing bracket. -/
def scope? (s : Source) (d : Directive) (inside : List Char) :
    Option (Directive × List Char) := do
  match inside.dropWhile fun c => c ≠ ']' && c ≠ '{' with
  | ']' :: rest => return ({ d with waits := true }, rest)
  | '{' :: braced =>
    match braced.dropWhile (· ≠ '}') with
    | '}' :: ']' :: rest =>
      let span ← s.part? inside ('{' :: braced)
      let text ← s.part? braced ('}' :: ']' :: rest)
      let d ← withField? d text
      return ({ d with waits := d.waits || !span.isEmpty }, rest)
    | _ => none
  | _ => none

/-- Reads what follows a path or brackets: nothing, or an equals sign with or without a level. -/
def level? (s : Source) (d : Directive) : List Char → Option Directive
  | [] => some d
  | '=' :: level => do
    let text ← s.tail? level
    if text.isEmpty then return d else return { d with rank := ← rank? text }
  | _ => none

/-- Whether a directive may begin with a character. -/
def begins (c : Char) : Bool := ['-', ':', '_', '['].contains c || Text.isWordChar c

/-- Reads a directive. Where no level is named, everything is let through. -/
def directive? (s : Source) : Option Directive := do
  if !(s.inner.head?.any begins) then none
  match s.inner.dropWhile fun c => c ≠ '=' && c ≠ '[' with
  | [] =>
    let text ← s.tail? s.inner
    match rank? text with
    | some rank => return { rank }
    | none => return { rank := Level.trace.rank, path := text }
  | '[' :: inside =>
    let path ← s.part? s.inner ('[' :: inside)
    let (d, rest) ← s.scope? { rank := Level.trace.rank, path } inside
    s.level? d rest
  | rest =>
    let path ← s.part? s.inner rest
    s.level? { rank := Level.trace.rank, path } rest

end Source

/-- Reads one directive. -/
def Directive.ofText? (s : String) : Option Directive :=
  Source.directive? ⟨Bytes.ofString s, (Text.trim s).toList⟩

namespace Filter

/-- Reads a filter: directives between commas. A text without any lets errors through. -/
def ofText? (s : String) : Option Filter :=
  match (s.splitOn ",").filter (!·.isEmpty) |>.mapM Directive.ofText? with
  | some [] => some [{ rank := Level.error.rank }]
  | other => other

/-- The filter of a run without a filter text. -/
def byDefault (verbose : Bool) : Filter :=
  [{ rank := if verbose then Level.info.rank else Level.warn.rank }]

/-! ## Selecting -/

/-- The fields of an entry. -/
def fields : List String := ["message"]

/-- Whether a directive covers an entry. -/
def covers (d : Directive) (e : Entry) : Bool :=
  !d.waits && e.speaker.path.startsWith d.path && d.field.all fields.contains

/-- Whether a directive is at least as specific as another: the longer path decides, and then a
field. -/
def isAsSpecific (d other : Directive) : Bool :=
  other.path.utf8ByteSize < d.path.utf8ByteSize
    || (other.path.utf8ByteSize == d.path.utf8ByteSize && (d.field.isSome || other.field.isNone))

/-- The most specific directive, of equal ones the last. -/
def mostSpecific? (filter : Filter) : Option Directive :=
  filter.foldl
    (fun best d => match best with
      | some other => if isAsSpecific d other then some d else some other
      | none => some d)
    none

/-- Whether an entry is shown. -/
def shows (filter : Filter) (e : Entry) : Bool :=
  match mostSpecific? (filter.filter (covers · e)) with
  | some d => e.level.rank ≤ d.rank
  | none => false

end Filter

end MaskedDump.Log
