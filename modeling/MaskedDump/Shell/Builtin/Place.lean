import MaskedDump.Shell.Builtin.Basic

/-!
# Commands of the shell on directories

The shell keeps the path by which it came to its directory. A `..` takes the last name off that path
before anything is looked up.
-/

namespace MaskedDump.Shell.Builtin

open Act (finish fail)

/-! ## Directories -/

/-- The path that names make from the root. -/
def pathOf (names : List Text) : Text := '/' :: ['/'].intercalate names

/-- The names of a path. -/
def namesOf (path : Text) : List Text :=
  (FileSystem.names (Text.toBytes path)).map Text.ofBytes

/-- The names that a path leads to, from the names of the directory that it starts from. -/
def joinedNames (start : List Text) (path : Text) : List Text :=
  (namesOf path).foldl
    (fun names name =>
      if name = ['.'] then names else if name = ['.', '.'] then names.dropLast else names ++ [name])
    (if path.head? = some '/' then [] else start)

/-- The place of the directory that a path leads to, if there is one. -/
def directoryAt (files : FileSystem) (path : Text) : Option Place :=
  match files.find (Text.toBytes path) with
  | .ok (place, .directory) => some place
  | _ => none

/-- Sets an exported variable. -/
def assignExported (name : String) (value : Text) : Act Unit := do
  let name := Text.ofString name
  Act.assign name value
  modify fun s =>
    s.restore name (((s.known? name).map fun v => { v with exported := true }))

/-- Goes to a directory. Says whether that was possible. -/
def enter (physical : Bool) (path : Text) : Act Bool := do
  let s ← get
  let names := joinedNames s.directory path
  match directoryAt s.files (if physical then path else pathOf names) with
  | none => return false
  | some place =>
    let names := if physical then place.map Text.ofBytes else names
    assignExported "OLDPWD" (pathOf s.directory)
    assignExported "PWD" (pathOf names)
    modify fun s => { s with directory := names, files := { s.files with workPlace := place } }
    return true

/-- The directories in which a path is looked up that does not tell where it starts, with the path
in each of them, and whether it is shown. -/
def candidates (s : State) (path : Text) : List (Bool × Text) :=
  let starts := (namesOf path).head?
  if path.head? = some '/' ∨ starts = some ['.'] ∨ starts = some ['.', '.'] then []
  else match s.value? (Text.ofString "CDPATH") with
    | none => []
    | some text =>
      (text.splitOn ':').map fun directory =>
        (!directory.isEmpty,
          if directory.isEmpty then path else directory ++ '/' :: path)

/-- Goes to a directory: the one that is named, the one before, or that of the operator. -/
def changeDirectory (args : List Text) : Act Unit := do
  let (given, args) ← takeOptions ['L', 'P'] [] args
  let physical := (given.getLast?.map Prod.fst) == some 'P'
  let s ← get
  let (shown, path) := match args with
    | [] => (false, (s.value? (Text.ofString "HOME")).getD [])
    | ['-'] :: _ => (true, (s.value? (Text.ofString "OLDPWD")).getD [])
    | path :: _ => (false, path)
  let found := (candidates s (if path.isEmpty then ['.'] else path)).find? fun (_, path) =>
    (directoryAt s.files path).isSome
  let (shown, target) := match found with
    | some (other, path) => (shown || other, path)
    | none => (shown, path)
  if ← enter physical (if target.isEmpty then ['.'] else target) then
    if shown then say (linesOf [pathOf (← get).directory]) else finish 0
  else fail (Text.ofString "can't cd to " ++ path)

/-- Writes the path of the directory in which the script is. -/
def printDirectory (args : List Text) : Act Unit := do
  let (given, _) ← takeOptions ['L', 'P'] [] args
  let s ← get
  say (linesOf [pathOf (if (given.getLast?.map Prod.fst) == some 'P' then
    s.files.workPlace.map Text.ofBytes else s.directory)])

/-! ## Rights -/

/-- The rights that a mask leaves to a kind of user, as letters. -/
def rightsText (mask shift : Nat) : Text :=
  let left := 7 - mask / Nat.pow 8 shift % 8
  (if left / 4 = 1 then ['r'] else []) ++ (if left / 2 % 2 = 1 then ['w'] else [])
    ++ (if left % 2 = 1 then ['x'] else [])

/-- The rights that letters stand for. -/
def rightsOf (letters : Text) : Nat :=
  letters.foldl
    (fun rights c => if c = 'r' then rights ||| 4 else if c = 'w' then rights ||| 2 else rights ||| 1)
    0

/-- A mask after one change, such as `go-w`, if it can be read. -/
def changedMask? (mask : Nat) (change : Text) : Option Nat :=
  let users := change.takeWhile (['u', 'g', 'o', 'a'].contains)
  match change.drop users.length with
  | sign :: letters =>
    if !(['=', '+', '-'].contains sign) || !letters.all (['r', 'w', 'x'].contains) then none
    else
      let given := rightsOf letters
      some <| [('u', 2), ('g', 1), ('o', 0)].foldl
        (fun mask (user, shift) =>
          if !(users.isEmpty || users.contains user || users.contains 'a') then mask
          else
            let old := mask / Nat.pow 8 shift % 8
            let new := if sign = '=' then 7 - given
              else if sign = '+' then old &&& (7 - given)
              else old ||| given
            mask - old * Nat.pow 8 shift + new * Nat.pow 8 shift)
        mask
  | [] => none

/-- Shows or sets the rights that new files do not have. -/
def setMask (args : List Text) : Act Unit := do
  let (given, args) ← takeOptions ['S'] [] args
  let mask := (← get).mask
  match args with
  | [] =>
    let digits := Nat.toDigits 8 mask
    say (linesOf [
      if given.isEmpty then List.replicate (4 - digits.length) '0' ++ digits
      else Text.ofString "u=" ++ rightsText mask 2 ++ Text.ofString ",g=" ++ rightsText mask 1
        ++ Text.ofString ",o=" ++ rightsText mask 0])
  | arg :: _ =>
    let mask? := if arg.head?.any Char.isDigit then
        if arg.all (isDigitOf 8) then some (digitsValue 8 arg % 512) else none
      else (arg.splitOn ',').foldlM changedMask? mask
    match mask? with
    | some mask => modify ({ · with mask, status := 0 })
    | none =>
      fail (Text.ofString (if arg.head?.any Char.isDigit then "Illegal number: " else
        "Illegal mode: ") ++ arg)

end MaskedDump.Shell.Builtin
