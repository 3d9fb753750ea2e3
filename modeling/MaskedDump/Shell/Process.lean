import MaskedDump.Shell.Reader
import MaskedDump.Shell.Lookup

/-!
# Processes

A part of a script that runs apart is a process: it begins with a copy of what the script has of its
own, may leave only itself, and runs what it traps at its end. A program that a script runs begins
with the exported variables alone. A process beside the script has a clock of its own.
-/

namespace MaskedDump.Shell

namespace Act

/-! ## Parts in a surrounding -/

/-- Runs a part with something changed, which is put back afterwards, also where the part leaves.
-/
def around (change : State → State) (putBack : State → State → State) (part : Act Unit) :
    Act Unit := fun s =>
  let (result, after) := part (change s)
  (result, putBack s after)

/-- Runs a part whose status is asked for, or is not. -/
def asking (asked : Bool) : Act Unit → Act Unit :=
  around ({ · with asked }) fun before after => { after with asked := before.asked }

/-- Runs a part in the name of a command. -/
def speaking (name : Text) : Act Unit → Act Unit :=
  around ({ · with speaker := some name }) fun before after => { after with speaker := before.speaker }

/-- Runs a part in one more loop. -/
def looping : Act Unit → Act Unit :=
  around (fun s => { s with loops := s.loops + 1 }) fun before after =>
    { after with loops := before.loops }

/-- Runs a part up to where it fails. -/
def upToFailure (part : Act Unit) : Act Unit := fun s =>
  match part s with
  | (.error .failure, after) => (.ok (), after)
  | result => result

/-- Runs a part up to where it returns. -/
def upToReturn (part : Act Unit) : Act Unit := fun s =>
  match part s with
  | (.error .returning, after) => (.ok (), after)
  | result => result

/-- Ends the script after a part that failed unasked, where the options say so. -/
def checking (part : Act Unit) : Act Unit := do
  part
  let s ← get
  if s.options.contains 'e' && !s.asked && s.status != 0 then throw (.exit true)

/-- Runs one round of a loop. Says whether the loop goes on. -/
def round (part : Act Unit) : Act Bool := fun s =>
  match part s with
  | (.ok (), s) => (.ok true, s)
  | (.error (.breaking n), s) => (if n ≤ 1 then .ok false else .error (.breaking (n - 1)), s)
  | (.error (.continuing n), s) => (if n ≤ 1 then .ok true else .error (.continuing (n - 1)), s)
  | (.error leave, s) => (.error leave, s)

end Act

/-! ## Clocks -/

/-- The time that it takes to begin a process. -/
def timeToBegin : Nat := 150

/-- The time after which a process beside the script has surely done its work. -/
def timeToSettle : Nat := 300

/-- The time that a script is given. -/
def timeLimit : Nat := 3000000

/-! ## Beginning and ending -/

namespace State

/-- The state in which a part begins that runs apart. Only the signals that are ignored stay so. -/
def forked (s : State) : State :=
  { s with
    number := s.processes + 1
    processes := s.processes + 1
    time := s.time + timeToBegin
    traps := s.traps.filter (·.2.isEmpty)
    beside := [] }

/-- The variables that every shell begins with, whatever it is given. -/
def ownVariables : List (String × String) := [("IFS", " \t\n"), ("OPTIND", "1"), ("PPID", "1")]

/-- The variables that a shell begins with unless it is given others. -/
def usualVariables : List (String × String) := [("PS1", "# "), ("PS2", "> "), ("PS4", "+ ")]

/-- The variables of a shell that is given some. The directory is one of them. -/
def firstVariables (given : List (Text × Variable)) (directory : Text) : List (Text × Variable) :=
  let named (values : List (String × String)) : List (Text × Variable) :=
    values.map fun (name, value) => (Text.ofString name, { value := some (Text.ofString value) })
  let path := Text.ofString "PWD"
  let own := named ownVariables ++
    [(path, { value := some directory, exported := (given.lookup path).isSome })]
  let given := given.filter fun (name, _) => (own.lookup name).isNone
  own ++ given ++ (named usualVariables).filter fun (name, _) => (given.lookup name).isNone

/-- The state in which a program begins, as a process apart. -/
def begun (s : State) (name : Text) (parameters : List Text) : State :=
  let s := s.forked
  let given := (s.bindings.filter (·.2.exported)).map fun (name, v) =>
    (name, { v with readOnly := false })
  { s with
    toProcess :=
      { number := s.number, script := s.number, name, outlets := s.outlets
        directory := s.directory, mask := s.mask, parameters, traps := s.traps
        bindings := firstVariables given ('/' :: ['/'].intercalate s.directory) }
    status := 0 }

end State

/-- Runs the work of a process, and what it traps at its end. That counts for the status only if it
chooses one or fails. -/
def wholeProcess (runText : Text → Act Unit) (part : Act Unit) : Act Unit := fun s =>
  match part s with
  | (.error .outOfTime, s) => (.error .outOfTime, s)
  | (.error .outputClosed, s) => (.error .outputClosed, { s with status := 141 })
  | (.error .killed, s) => (.error .killed, s)
  | (_, s) =>
    match s.traps.lookup 0 with
    | none => (.ok (), { s with status := s.status % 256 })
    | some action =>
      let start := { s with
        traps := s.traps.filter (·.1 ≠ 0), speaker := none, asked := false, loops := 0 }
      match runText action start with
      | (.error .outOfTime, after) => (.error .outOfTime, after)
      | (.error .outputClosed, after) => (.error .outputClosed, { after with status := 141 })
      | (.error .killed, after) => (.error .killed, after)
      | (.error (.exit true), after) | (.error .failure, after) =>
        (.ok (), { after with status := after.status % 256 })
      | (_, after) => (.ok (), { after with status := s.status % 256 })

/-- Goes on after a process: the script itself is only left when there is no time left. -/
def afterProcess (process : Act Unit) (putBack : State → State) : Act Unit := fun s =>
  match process s with
  | (.error .outOfTime, after) => (.error .outOfTime, putBack after)
  | (_, after) => (.ok (), putBack after)

/-! ## Starting the shell -/

/-- Where the shell takes its commands from. -/
inductive Origin
  | text (text : Text)
  | file (path : Text)
  | input

/-- How the shell is started. -/
structure Start where
  origin : Origin
  name : Text
  parameters : List Text
  options : List Char

namespace Start

/-- The options of the shell that its arguments set, whether commands are given as a text, and the
arguments that are left; the fuel is the number of arguments. -/
def optionsOf : Nat → List Text → Except String (List Char × Bool × List Text)
  | 0, args => .ok ([], false, args)
  | _, [] => .ok ([], false, [])
  | _, ['-'] :: rest => .ok ([], false, rest)
  | _, ['-', '-'] :: rest => .ok ([], false, rest)
  | fuel + 1, (sign :: letters) :: rest =>
    if sign ≠ '-' ∧ sign ≠ '+' then .ok ([], false, (sign :: letters) :: rest)
    else do
      let known (c : Char) : Bool := c == 'c' || c == 'l' || State.optionLetters.contains c
      match letters.find? fun c => !known c with
      | some c => .error ("Illegal option -" ++ String.ofList [c])
      | none => do
        let (options, asText, rest) ← optionsOf fuel rest
        let own := letters.filter State.optionLetters.contains
        return (if sign = '-' then own ++ options else options, asText || letters.contains 'c', rest)
  | _, args => .ok ([], false, args)

/-- How the shell is started with some arguments under a name. -/
def ofArgs (name : Text) (args : List Text) : Except String Start := do
  let (options, asText, rest) ← optionsOf args.length args
  match asText, rest with
  | true, [] => .error "-c requires an argument"
  | true, [text] => .ok { origin := .text text, name, parameters := [], options }
  | true, text :: name :: parameters => .ok { origin := .text text, name, parameters, options }
  | false, [] => .ok { origin := .input, name, parameters := [], options }
  | false, path :: parameters =>
    if options.contains 's' then .ok { origin := .input, name, parameters := rest, options }
    else .ok { origin := .file path, name := path, parameters, options }

end Start

end MaskedDump.Shell
