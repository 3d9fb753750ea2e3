import MaskedDump.Failure

/-!
# A file system

Directories, files and a few devices, held as a list from places to entries. A place is the list of
names on the way from the root. Paths are resolved one name at a time, so a `..` behind a name that
is missing, or that is no directory, is refused. Some names are links, which lead to another place.

Results:
* `get?_put`: what is put at a place is found there;
* `overwrite_length`: what is written at the end of a content is appended to it.
-/

namespace MaskedDump

/-- The names on the way from the root to an entry. -/
abbrev Place := List Bytes

/-- Devices that a dump can be written to. -/
inductive Device
  /-- Takes everything and keeps nothing. -/
  | discard
  /-- Has no space left. -/
  | full
  /-- The standard output of the process. -/
  | standardOutput
  /-- The standard error of the process. -/
  | standardError
  /-- The terminal that controls the process, which has none. -/
  | terminal
  deriving DecidableEq, Repr

/-- What stands at a place. -/
inductive Entry
  | directory
  | file (content : Bytes) (executable : Bool)
  | device (kind : Device)
  deriving DecidableEq, Repr

/-- A file system as a process sees it that works in `workPlace`. -/
structure FileSystem where
  entries : List (Place × Entry)
  /-- The names that are links, with the places that they lead to. -/
  links : List (Place × Place) := []
  /-- The directories in which nothing can be made, and why. -/
  closed : List (Place × SystemError) := []
  workPlace : Place
  deriving Repr

namespace FileSystem

/-! ## Entries -/

/-- What stands at a place, if anything does. -/
def get? (fs : FileSystem) (place : Place) : Option Entry := fs.entries.lookup place

/-- Whether a place holds a program. -/
def isProgram (fs : FileSystem) (place : Place) : Bool :=
  match fs.get? place with
  | some (.file _ executable) => executable
  | _ => false

/-- Replaces the entry of a place in a list, or adds it at the end. -/
def putIn (place : Place) (entry : Entry) : List (Place × Entry) → List (Place × Entry)
  | [] => [(place, entry)]
  | (p, e) :: rest =>
    if p = place then (place, entry) :: rest else (p, e) :: putIn place entry rest

/-- Puts an entry at a place. -/
def put (fs : FileSystem) (place : Place) (entry : Entry) : FileSystem :=
  { fs with entries := putIn place entry fs.entries }

/-- What is put at a place is found there, and all other places keep what they hold. -/
theorem get?_put (fs : FileSystem) (place other : Place) (entry : Entry) :
    (fs.put place entry).get? other = if other = place then some entry else fs.get? other := by
  simp only [put, get?]
  induction fs.entries with
  | nil =>
    by_cases h : other = place
    · simp [putIn, h]
    · simp [putIn, List.lookup_cons, h, beq_eq_false_iff_ne.2 h]
  | cons head rest ih =>
    obtain ⟨p, e⟩ := head
    by_cases h : other = p
    · subst h
      by_cases hp : other = place <;> simp [putIn, hp]
    · by_cases hp : p = place
      · subst hp
        simp [putIn, List.lookup_cons, h, beq_eq_false_iff_ne.2 h]
      · simp [putIn, List.lookup_cons, hp, beq_eq_false_iff_ne.2 h, ih]

/-! ## Paths -/

/-- The longest name, in bytes. -/
def longestName : Nat := 255

/-- The longest path, in bytes. -/
def longestPath : Nat := 4095

/-- The byte between the names of a path. -/
def separator : UInt8 := 47

/-- The names of a path. -/
def names (path : Bytes) : List Bytes :=
  (path.splitOn separator).filter (!·.isEmpty)

/-- The name of the same directory. -/
def here : Bytes := [46]

/-- The name of the directory above. -/
def above : Bytes := [46, 46]

/-- The place that a link leads to, or the place itself. -/
def follow (fs : FileSystem) (place : Place) : Place := (fs.links.lookup place).getD place

/-- Goes from a directory to what one name leads to. -/
def stepTo (fs : FileSystem) (place : Place) (name : Bytes) : Except SystemError Place :=
  match fs.get? place with
  | none => .error .notFound
  | some .directory =>
    if name = here then .ok place
    else if name = above then .ok place.dropLast
    else if longestName < name.length then .error .nameTooLong
    else .ok (fs.follow (place ++ [name]))
  | some _ => .error .notADirectory

/-- Where the names of a path lead, or those among them that `chosen` leaves. The place at the end
need not hold anything. -/
def resolveWith (chosen : List Bytes → List Bytes) (fs : FileSystem) (path : Bytes) :
    Except SystemError Place :=
  if path.isEmpty then .error .notFound
  else if longestPath < path.length then .error .nameTooLong
  else
    (chosen (names path)).foldlM fs.stepTo
      (if path.head? = some separator then [] else fs.workPlace)

/-- Where the names of a path lead. The place at the end need not hold anything. -/
def resolve (fs : FileSystem) (path : Bytes) : Except SystemError Place := fs.resolveWith id path

/-- What stands where a path leads. A path that ends in a separator is that of a directory. -/
def find (fs : FileSystem) (path : Bytes) : Except SystemError (Place × Entry) := do
  let place ← fs.resolve path
  match fs.get? place with
  | none => throw .notFound
  | some .directory => return (place, .directory)
  | some entry =>
    if path.getLast? = some separator then throw .notADirectory
    return (place, entry)

/-! ## Writing -/

/-- What takes the bytes that are written to an opened path. -/
inductive Opened
  | file (place : Place)
  | device (kind : Device)
  deriving DecidableEq, Repr

/-- Why nothing can be made at a place, if that is so. -/
def refusal? (fs : FileSystem) (place : Place) : Option SystemError :=
  (fs.closed.find? fun (directory, _) => directory.isPrefixOf place).map Prod.snd

/-- Opens a path for writing. A missing file is created, and one that is there keeps of its content
what is asked for. A path that ends in a separator or a dot name is that of a directory, whatever
that name may be. -/
def openWith (kept : Bytes → Bytes) (fs : FileSystem) (path : Bytes) :
    Except SystemError (Opened × FileSystem) := do
  if path.contains 0 then throw .nulInPath
  let directory ← fs.resolveWith List.dropLast path
  match fs.get? directory with
  | none => throw .notFound
  | some .directory => pure ()
  | some _ => throw .notADirectory
  let name ← match (names path).getLast? with
    | none => throw .isADirectory
    | some name =>
      if name = here ∨ name = above ∨ path.getLast? = some separator then throw .isADirectory
      else pure name
  let place ← fs.stepTo directory name
  match fs.get? place with
  | some .directory => throw .isADirectory
  | some (.device .terminal) => throw .noSuchDevice
  | some (.device kind) => return (.device kind, fs)
  | some (.file content executable) =>
    return (.file place, fs.put place (.file (kept content) executable))
  | none =>
    match fs.refusal? place with
    | some error => throw error
    | none => return (.file place, fs.put place (.file [] false))

/-- Opens a path for writing. A file there loses its content. -/
def create (fs : FileSystem) (path : Bytes) : Except SystemError (Opened × FileSystem) :=
  fs.openWith (fun _ => []) path

/-- Opens a path for writing. A file there keeps its content. -/
def extend (fs : FileSystem) (path : Bytes) : Except SystemError (Opened × FileSystem) :=
  fs.openWith id path

/-- Bytes with others written over them from an offset on. A gap before the offset is filled with
NUL bytes; where nothing is written nothing changes. -/
def overwrite (content : Bytes) (offset : Nat) (bs : Bytes) : Bytes :=
  if bs.isEmpty then content
  else
    content.take offset ++ List.replicate (offset - content.length) 0 ++ bs
      ++ content.drop (offset + bs.length)

theorem overwrite_length (content bs : Bytes) :
    overwrite content content.length bs = content ++ bs := by
  unfold overwrite
  split <;> simp_all

/-- The size of a file, or nothing where no file stands. -/
def size (fs : FileSystem) (place : Place) : Nat :=
  match fs.get? place with
  | some (.file content _) => content.length
  | _ => 0

/-- Writes to a file from an offset on. -/
def writeAt (fs : FileSystem) (place : Place) (offset : Nat) (bs : Bytes) : FileSystem :=
  match fs.get? place with
  | some (.file content executable) => fs.put place (.file (overwrite content offset bs) executable)
  | _ => fs

/-! ## Building -/

/-- Makes a directory and the ones above it. -/
def makeDirectory (fs : FileSystem) (place : Place) : FileSystem :=
  (List.range (place.length + 1)).foldl
    (fun fs n => if (fs.get? (place.take n)).isNone then fs.put (place.take n) .directory else fs)
    fs

/-- Makes a file, with the directories above it. -/
def makeFile (fs : FileSystem) (place : Place) (content : Bytes) (executable : Bool) : FileSystem :=
  (fs.makeDirectory place.dropLast).put place (.file content executable)

/-- The files below a directory, named from it. -/
def filesBelow (fs : FileSystem) (directory : Place) : List (Bytes × Bytes) :=
  fs.entries.filterMap fun (place, entry) =>
    match entry, directory.isPrefixOf place with
    | .file content _, true =>
      some ([separator].intercalate (place.drop directory.length), content)
    | _, _ => none

/-- What stands in a file system and did not stand so in an earlier one. -/
def changedSince (fs earlier : FileSystem) : List (Place × Entry) :=
  fs.entries.filter fun (place, entry) => earlier.get? place ≠ some entry

/-- Puts a device at a place, with the directories above it. -/
def makeDevice (fs : FileSystem) (place : Place) (kind : Device) : FileSystem :=
  (fs.makeDirectory place.dropLast).put place (.device kind)

end FileSystem

end MaskedDump
