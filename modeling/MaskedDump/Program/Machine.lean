import MaskedDump.Program.Outcome
import MaskedDump.Shell.Evaluator

/-!
# A machine that runs tools

Programs are shell scripts in a file system, and the shell. They are looked up by name in the
directories of a search path, and a name with a separator is a path. Nothing else is run. What a
script writes to files is found there after the call.
-/

namespace MaskedDump.Program

/-- Where a machine looks for programs, and the variables that it hands to them. -/
structure Machine where
  searchPath : List Place
  environment : List (String × String) := []

namespace Machine

/-! ## Looking up programs -/

/-- A program that was found: its path and its place. -/
structure Found where
  path : Bytes
  place : Place

/-- What a path leads to, if that is a program. -/
def programAt (fs : FileSystem) (path : Bytes) (place : Place) : Except SystemError Found :=
  match fs.get? place with
  | none => .error .notFound
  | some _ => if fs.isProgram place then .ok { path, place } else .error .permissionDenied

/-- The first program that some attempts come to. Where a program is missing the next attempt is
made; otherwise, that something could not be executed counts more than what became of the last
attempt. -/
def firstOf (attempts : List (Except SystemError Found)) : Except SystemError Found :=
  go attempts .notFound
where
  go : List (Except SystemError Found) → SystemError → Except SystemError Found
    | [], verdict => .error verdict
    | .ok found :: _, _ => .ok found
    | .error e :: rest, verdict =>
      if e = .notFound ∨ e = .notADirectory ∨ e = .permissionDenied then
        go rest (if verdict = .permissionDenied then verdict else e)
      else .error e

/-- Finds a program, which is looked up in directories unless its name is a path. -/
def find (fs : FileSystem) (directories : List Bytes) (program : Bytes) :
    Except SystemError Found :=
  if program.isEmpty then .error .notFound
  else if program.contains FileSystem.separator then do
    let (place, _) ← fs.find program
    programAt fs program place
  else if FileSystem.longestName < program.length then .error .nameTooLong
  else firstOf <| directories.map fun directory => do
    let start ← fs.resolve (if directory.isEmpty then FileSystem.here else directory)
    let place ← fs.stepTo start program
    programAt fs
      (if directory.isEmpty then program else directory ++ FileSystem.separator :: program) place

/-- The path of a place. -/
def pathOf (place : Place) : Bytes := place.flatMap (FileSystem.separator :: ·)

/-- The directories in which a call looks up its program: a call that sets `PATH` looks there. -/
def directoriesOf (m : Machine) (call : Invocation) : List Bytes :=
  match call.environment.reverse.lookup "PATH" with
  | none => m.searchPath.map pathOf
  | some text => (text.splitOn ":").map Bytes.ofString

/-! ## Starting programs -/

/-- The texts that a call hands to a program beside those of the environment of the caller. -/
def texts (call : Invocation) : List Bytes :=
  Bytes.ofString call.program :: call.args
    ++ call.environment.map fun (name, value) => Bytes.ofString (name ++ "=" ++ value)

/-- The longest text that can be handed to a program, in bytes. -/
def longestText : Nat := 131071

/-- The room for all texts together, in bytes. -/
def roomForTexts : Nat := 2097152

/-- The bytes that a text takes beside its own: its end, and a reference to it. -/
def textOverhead : Nat := 9

/-- Whether the texts of a call can be handed to a program. -/
def fits (call : Invocation) : Bool :=
  (texts call).all (·.length ≤ longestText)
    && (texts call).foldl (fun total text => total + text.length + textOverhead) 0 ≤ roomForTexts

/-- Prepares a call: finds the program, and checks that it can be started. -/
def prepare (m : Machine) (fs : FileSystem) (call : Invocation) :
    Except SystemError (Shell.Program × Bytes) := do
  if (texts call).any (·.contains 0) then throw .nulInArgument
  let found ← find fs (m.directoriesOf call) (Bytes.ofString call.program)
  if !fits call then throw .argumentsTooLong
  return (← Shell.Program.atPlace fs found.place, found.path)

/-! ## Running -/

/-- The variables of a caller and of a call, by name in the order of their bytes. The last value
that is given to a name counts. -/
def handed (m : Machine) (call : Invocation) : List (Shell.Text × Shell.Text) :=
  let path := (Shell.Text.ofString "PATH",
    [':'].intercalate ((m.searchPath.map pathOf).map Shell.Text.ofBytes))
  let given := path :: (m.environment ++ call.environment).map fun (name, value) =>
    (Shell.Text.ofString name, Shell.Text.ofString value)
  let last := given.foldl (fun kept v => v :: kept.filter (·.1 ≠ v.1)) []
  last.mergeSort fun a b => !List.lex b.1 a.1 fun c d => Nat.blt c.toNat d.toNat

/-- The variables that a shell makes of what it is handed. What is no name sets none, and a name
ends at the first equals sign. -/
def variablesOf (given : List (Shell.Text × Shell.Text)) : List (Shell.Text × Shell.Variable) :=
  given.foldl
    (fun set (name, value) =>
      let text := name ++ '=' :: value
      let name := text.takeWhile Shell.isNameChar
      match text.drop name.length with
      | '=' :: value =>
        if Shell.isName name then
          (name, { value := some value, exported := true }) :: set.filter (·.1 ≠ name)
        else set
      | _ => set)
    []

/-- The output that a program can leave behind before anybody takes it, in bytes. -/
def pipeCapacity : Nat := 65536

/-- Runs a program whose output goes where there is only some room, if that is bounded. Output
beyond it is never taken, so a script that writes more is stopped there. -/
def interpret (m : Machine) (room : Option Nat) (call : Invocation) (program : Shell.Program)
    (path : Bytes) (fs : FileSystem) : Outcome × FileSystem :=
  let start : Shell.State :=
    { files := fs
      horizon := room.map (· + pipeCapacity)
      directory := fs.workPlace.map Shell.Text.ofBytes
      bindings := variablesOf (m.handed call) }
  let (status, s) := Shell.run program (Shell.Text.ofString call.program)
    (Shell.Text.ofBytes path) (call.args.map Shell.Text.ofBytes) start
  (.ended (Shell.Text.toBytes (Shell.State.collected s.output))
      (Shell.Text.toBytes (Shell.State.collected s.diagnostics)) (status.map Int.ofNat),
    { s.files with workPlace := fs.workPlace })

/-- Makes calls. -/
def invoke (m : Machine) : Launcher := fun room call fs =>
  match m.prepare fs call with
  | .error error => (.notStarted error, fs)
  | .ok (program, path) => m.interpret room call program path fs

end Machine

end MaskedDump.Program
