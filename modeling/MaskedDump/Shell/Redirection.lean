import MaskedDump.FileSystem.System
import MaskedDump.Shell.Integer
import MaskedDump.Shell.State

/-!
# Redirections

What a redirection leads an outlet to once its words are expanded, and how that is opened. The files
that stand for the outlets of a process lead where these lead.
-/

namespace MaskedDump.Shell

/-- Where a redirection leads. -/
inductive Target
  | fromFile (path : Text)
  | withFile (path : Text)
  | toFile (force : Bool) (path : Text)
  | ontoFile (path : Text)
  | toOutlet (other : Nat)
  | closed
  /-- A text that is read, whose words are expanded when the outlet is led to it. -/
  | held (word : Word)

namespace Target

/-- The outlet that a path stands for. -/
def outletAt? (files : FileSystem) (path : Text) : Option Nat :=
  match files.resolve (Text.toBytes path) with
  | .ok place =>
    if place.dropLast = FileSystem.System.placeOf "proc/self/fd" then
      place.getLast?.bind fun name => readNumber (Text.ofBytes name)
    else none
  | .error _ => none

/-- What is said when a file cannot be opened, for a script that asks for a file that is there or
for one that may be made. -/
def refusal (creates : Bool) (path : Text) (error : SystemError) : Text :=
  let missing := error = .notFound ∨ error = .notADirectory
  Text.ofString (if creates then "cannot create " else "cannot open ") ++ path
    ++ Text.ofString (": " ++
      if missing then (if creates then "Directory nonexistent" else "No such file")
      else error.description)

/-- Whether a path leads to a file that must not be replaced. -/
def isKept (s : State) (force : Bool) (path : Text) : Bool :=
  !force && s.options.contains 'C' &&
    match s.files.find (Text.toBytes path) with
    | .ok (_, .file ..) => true
    | _ => false

/-- How a file is opened for writing. -/
structure Opening where
  /-- What is kept of its content. -/
  keeps : Bool
  /-- Whether all is written at its end. -/
  appends : Bool

/-- Leads an outlet to a path for writing, or says why that is not possible. -/
def write (s : State) (outlet : Nat) (opening : Opening) (path : Text) :
    Except SystemError State :=
  let opened (place : Place) (files : FileSystem) : State :=
    ({ s with files } : State).leadTo outlet (.file place opening.appends 0)
  let kept (content : Bytes) : Bytes := if opening.keeps then content else []
  let direct : Except SystemError State := do
    match ← s.files.openWith kept (Text.toBytes path) with
    | (.file place, files) => return opened place files
    | (.device .full, _) => return s.lead outlet .full
    | (.device _, _) => return s.lead outlet .nowhere
  match outletAt? s.files path with
  | none => direct
  | some n =>
    match s.outlet? n with
    | none => .error .notFound
    | some (.stream number) =>
      match s.streams[number]? with
      | some (.file place ..) =>
        match s.files.get? place with
        | some (.file content executable) =>
          .ok (opened place (s.files.put place (.file (kept content) executable)))
        | _ => .error .notFound
      | _ => .ok (s.lead outlet (.stream number))
    | some other => .ok (s.lead outlet other)

/-- Leads an outlet to a path for reading, or says why that is not possible. -/
def read (s : State) (outlet : Nat) (path : Text) : Except SystemError State :=
  match outletAt? s.files path with
  | none => do
    match ← s.files.find (Text.toBytes path) with
    | (place, .file ..) => return s.leadTo outlet (.file place false 0)
    | (_, .device .terminal) => throw .noSuchDevice
    | _ => return s.lead outlet .nowhere
  | some n =>
    match s.outlet? n with
    | none => .error .notFound
    | some (.stream number) =>
      match s.streams[number]? with
      | some (.file place ..) => .ok (s.leadTo outlet (.file place false 0))
      | _ => .ok (s.lead outlet (.stream number))
    | some other => .ok (s.lead outlet other)

/-- Leads an outlet to what other outlets or the file system hold, or says why that is not possible.
An outlet that is led to itself stays as it is. -/
def lead (s : State) (outlet : Nat) : Target → Except Text State
  | fromFile path => (read s outlet path).mapError (refusal false path)
  | withFile path => (write s outlet ⟨true, false⟩ path).mapError (refusal true path)
  | ontoFile path => (write s outlet ⟨true, true⟩ path).mapError (refusal true path)
  | toFile force path =>
    if isKept s force path then
      .error (Text.ofString "cannot create " ++ path ++ Text.ofString ": File exists")
    else (write s outlet ⟨false, false⟩ path).mapError (refusal true path)
  | toOutlet other =>
    if other = outlet then .ok s
    else match s.outlet? other with
      | some found => .ok (s.lead outlet found)
      | none => .error (Nat.toDigits 10 other ++ Text.ofString ": Bad file descriptor")
  | closed | held _ => .ok (s.close outlet)

/-- Leads outlets where they are told, one after the other. The flag says whether they are led back
afterwards: then an outlet is free before it is led to another one. -/
def leadAll (textOf : Word → Act Text) (goesBack : Bool) : List (Nat × Target) → Act Unit
  | [] => return ()
  | (outlet, target) :: rest => do
    match target with
    | .held word => do
      let text ← textOf word
      modify (·.leadTo outlet (.held text))
    | target =>
      match lead (← get) outlet target with
      | .ok s => set s
      | .error message => do
        if goesBack && target matches .toOutlet _ then modify (·.close outlet)
        Act.fail message
    leadAll textOf goesBack rest

end Target

end MaskedDump.Shell
