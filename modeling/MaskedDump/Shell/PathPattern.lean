import MaskedDump.FileSystem
import MaskedDump.Shell.Pattern

/-!
# Path patterns

A field with an unquoted wildcard stands for the paths that it matches, in the order of their bytes,
or for itself when it matches none. A pattern is matched name by name, and a name that begins with a
dot only where the pattern does.
-/

namespace MaskedDump.Shell.PathPattern

/-- Whether cells hold a wildcard. -/
def isWild (cells : List Cell) : Bool :=
  cells.any fun c => !c.quoted && (c.char == '*' || c.char == '?' || c.char == '[')

/-- The parts between separators. -/
def components : List Cell → List (List Cell)
  | [] => [[]]
  | c :: rest =>
    if c.char = '/' then [] :: components rest
    else match components rest with
      | part :: more => (c :: part) :: more
      | [] => [[c]]

/-- The names in a directory, with the two dot names. -/
def namesIn (fs : FileSystem) (directory : Place) : List Text :=
  ([FileSystem.here, FileSystem.above] ++ fs.entries.filterMap fun (place, _) =>
    if place.dropLast = directory then place.getLast? else none).map Text.ofBytes

/-- The names in a directory that a part of a pattern matches. -/
def matching (fs : FileSystem) (directory : Text) (part : List Cell) : List Text :=
  match fs.find (Text.toBytes (if directory.isEmpty then ['.'] else directory)) with
  | .ok (place, .directory) =>
    let dotted := part.head?.any (·.char == '.')
    (namesIn fs place).filter fun name =>
      (name.head? = some '.') == dotted && matchesWord part name
  | _ => []

/-- Whether a path leads to something. -/
def leads (fs : FileSystem) (path : Text) : Bool := (fs.find (Text.toBytes path)).toOption.isSome

/-- The paths behind a beginning that the parts of a pattern match. -/
def paths (fs : FileSystem) : Text → List (List Cell) → List Text
  | beginning, [] => [beginning]
  | beginning, [part] =>
    if isWild part then (matching fs beginning part).map (beginning ++ ·)
    else [beginning ++ part.map Cell.char].filter (leads fs)
  | beginning, part :: more =>
    let names := if isWild part then matching fs beginning part else [part.map Cell.char]
    names.flatMap fun name => paths fs (beginning ++ name ++ ['/']) more

/-- The texts that a field stands for. -/
def expand (fs : FileSystem) (cells : List Cell) : List Text :=
  let found := if isWild cells then paths fs [] (components cells) else []
  if found.isEmpty then [cells.map Cell.char]
  else found.mergeSort fun a b => !List.lex b a fun c d => Nat.blt c.toNat d.toNat

end MaskedDump.Shell.PathPattern
