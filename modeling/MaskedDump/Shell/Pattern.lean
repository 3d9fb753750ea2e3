import MaskedDump.Shell.Syntax

/-!
# Shell patterns

A pattern is matched against a whole text. Quoted characters stand for themselves; unquoted, `*`
stands for any text, `?` for one character, and brackets for one character of a class. All
beginnings of a text that a pattern matches are found in one pass, in which every place of the
pattern that the text may have come to is kept.
-/

namespace MaskedDump.Shell

/-- A character of an expanded word, and whether it was quoted. -/
structure Cell where
  char : Char
  quoted : Bool
  deriving DecidableEq

/-- One step of a pattern. -/
inductive Step
  | anyText
  | anyChar
  | one (c : Char)
  | among (negated : Bool) (ranges : List (Char × Char))
  deriving DecidableEq

namespace Step

/-- The classes of characters that have a name, as ranges. -/
def namedClasses : List (String × List (Char × Char)) :=
  [("alpha", [('a', 'z'), ('A', 'Z')]), ("digit", [('0', '9')]),
    ("alnum", [('a', 'z'), ('A', 'Z'), ('0', '9')]), ("upper", [('A', 'Z')]),
    ("lower", [('a', 'z')]), ("xdigit", [('a', 'f'), ('A', 'F'), ('0', '9')]),
    ("space", [('\t', '\r'), (' ', ' ')]), ("blank", [('\t', '\t'), (' ', ' ')]),
    ("cntrl", [('\x00', '\x1f'), ('\x7f', '\x7f')]), ("print", [(' ', '~')]),
    ("graph", [('!', '~')]), ("punct", [('!', '/'), (':', '@'), ('[', '\x60'), ('\x7b', '~')])]

/-- The class whose name stands between colons behind a bracket, and what follows it. -/
def namedClass? (cells : List Cell) : Option (List (Char × Char) × List Cell) :=
  match cells.map Cell.char with
  | '[' :: ':' :: text =>
    let name := text.takeWhile Char.isAlpha
    match text.drop name.length with
    | ':' :: ']' :: _ =>
      (namedClasses.lookup (String.ofList name)).map fun ranges =>
        (ranges, cells.drop (name.length + 4))
    | _ => none
  | _ => none

/-- The range at the head of a class, a character alone or two around a dash, and what follows. -/
def range (c : Cell) (rest : List Cell) : (Char × Char) × List Cell :=
  match rest with
  | dash :: last :: after =>
    if dash.char = '-' ∧ !dash.quoted ∧ ¬(last.char = ']' ∧ !last.quoted) then
      ((c.char, last.char), after)
    else ((c.char, c.char), rest)
  | _ => ((c.char, c.char), rest)

/-- The ranges of a class up to its closing bracket, and what follows. A bracket in the first place
stands for itself; the fuel is the number of cells. -/
def ranges : Nat → Bool → List Cell → Option (List (Char × Char) × List Cell)
  | 0, _, _ => none
  | _, _, [] => none
  | fuel + 1, first, c :: rest =>
    if c.char = ']' ∧ !c.quoted ∧ !first then some ([], rest)
    else
      let (found, rest) := match namedClass? (c :: rest) with
        | some named => named
        | none =>
          let (lone, rest) := range c rest
          ([lone], rest)
      (ranges fuel false rest).map fun (more, after) => (found ++ more, after)

/-- A class behind its opening bracket, and what follows. -/
def class? (cells : List Cell) : Option (Step × List Cell) :=
  match cells with
  | c :: rest =>
    if c.char = '!' ∧ !c.quoted then
      (ranges cells.length true rest).map fun (rs, after) => (.among true rs, after)
    else (ranges cells.length true cells).map fun (rs, after) => (.among false rs, after)
  | [] => none

/-- The pattern that an expanded word spells; the fuel is its length. -/
def compile : Nat → List Cell → List Step
  | 0, _ => []
  | _, [] => []
  | fuel + 1, c :: rest =>
    if c.quoted then .one c.char :: compile fuel rest
    else match c.char with
      | '*' => .anyText :: compile fuel rest
      | '?' => .anyChar :: compile fuel rest
      | '[' =>
        match class? rest with
        | some (step, after) => step :: compile fuel after
        | none => .one '[' :: compile fuel rest
      | '\\' =>
        match rest with
        | d :: after => .one d.char :: compile fuel after
        | [] => [.one '\\']
      | d => .one d :: compile fuel rest

/-- Whether one character is let through. -/
def admits (c : Char) : Step → Bool
  | anyText => false
  | anyChar => true
  | one d => c == d
  | among negated rs => rs.any (fun (lo, hi) => lo ≤ c && c ≤ hi) != negated

end Step

/-! ## Matching -/

/-- A place in a pattern is what is left of it. -/
abbrev PatternPlace := List Step

namespace PatternPlace

/-- The places that a pattern is at, at one of its places: where any text may stand, none may. -/
def reached : PatternPlace → List PatternPlace
  | .anyText :: steps => (.anyText :: steps) :: reached steps
  | steps => [steps]

/-- The places behind one more character. -/
def next (c : Char) : PatternPlace → List PatternPlace
  | .anyText :: steps => reached (.anyText :: steps)
  | step :: steps => if step.admits c then reached steps else []
  | [] => []

/-- The places that a text comes to from some places, behind each of its beginnings whose number of
characters is added to `count`: the numbers at which the pattern may end, the greatest one first. -/
def ends : Nat → List Nat → List PatternPlace → Text → List Nat
  | count, found, places, text =>
    let found := if places.any List.isEmpty then count :: found else found
    match text with
    | [] => found
    | c :: rest =>
      if places.isEmpty then found
      else ends (count + 1) found (places.flatMap (next c)).eraseDups rest

end PatternPlace

/-- The lengths of the beginnings of a text that a pattern matches, the greatest one first. -/
def matchLengths (steps : List Step) (text : Text) : List Nat :=
  PatternPlace.ends 0 [] (PatternPlace.reached steps) text

/-- Whether an expanded word matches a whole text. -/
def matchesWord (cells : List Cell) (text : Text) : Bool :=
  (matchLengths (Step.compile cells.length cells) text).head? == some text.length

/-- A text without the beginning that a pattern matches, the longest or the shortest. -/
def cutFront (longest : Bool) (cells : List Cell) (text : Text) : Text :=
  let lengths := matchLengths (Step.compile cells.length cells) text
  text.drop ((if longest then lengths.head? else lengths.getLast?).getD 0)

/-- A text without the end that a pattern matches, the longest or the shortest. -/
def cutBack (longest : Bool) (cells : List Cell) (text : Text) : Text :=
  let lengths := matchLengths (Step.compile cells.length cells).reverse text.reverse
  text.take (text.length - (if longest then lengths.head? else lengths.getLast?).getD 0)

end MaskedDump.Shell
