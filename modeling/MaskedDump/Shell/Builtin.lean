import MaskedDump.Shell.Builtin.Parameter
import MaskedDump.Shell.Builtin.Place
import MaskedDump.Shell.Builtin.Signal
import MaskedDump.Shell.Condition
import MaskedDump.Shell.Format
import MaskedDump.Shell.Lookup

/-!
# The commands that the shell itself provides

Those of them that run no other command, by their names.
-/

namespace MaskedDump.Shell.Builtin

open Act (finish fail)

/-! ## Output -/

/-- Writes its arguments. -/
def echo (args : List Text) : Act Unit := say (echoText args)

/-- Writes its arguments under a format. What is remarked on them is said first. -/
def printf (args : List Text) : Act Unit := do
  match ← operands args with
  | [] => fail (Text.ofString "usage: printf format [arg ...]")
  | format :: args => do
    let printed := formatAll args.length format args
    printed.remarks.forM Act.complain
    match printed.ending with
    | .refused message => do
      Act.complain message
      say printed.text
      finish 2
      throw .failure
    | _ => sayWith (if printed.remarks.isEmpty then 0 else 1) printed.text

/-! ## Conditions -/

/-- Sets the status that a condition asks for. -/
def test (args : List Text) : Act Unit := do
  match Condition.evaluate (← get).files args with
  | .ok value => finish (if value then 0 else 1)
  | .error message => fail message

/-- A condition between brackets. -/
def bracket (args : List Text) : Act Unit := do
  if args.getLast? = some [']'] then test args.dropLast
  else fail (Text.ofString "missing ]")

/-! ## Control -/

/-- Leaves loops, as many as there are at most. -/
def leaveLoops (leave : Nat → Leave) (args : List Text) : Act Unit := do
  let levels ← match args with
    | arg :: _ => do
      let n ← number arg
      if n = 0 then fail (Text.ofString "Illegal number: " ++ arg) else pure n
    | [] => pure 1
  finish 0
  let levels := min levels (← get).loops
  if 0 < levels then throw (leave levels)

/-- Leaves with the status that is given, or with that of the last command. -/
def leaveWith (leave : Bool → Leave) (args : List Text) : Act Unit := do
  match args with
  | [] => throw (leave false)
  | arg :: _ => do
    finish (← number arg)
    throw (leave true)

/-! ## Names -/

/-- What is said about a name. -/
def describe (s : State) (name : Text) : Text :=
  name ++ match s.meaning s.searchPath name with
    | .keyword => Text.ofString " is a shell keyword"
    | .alias value => Text.ofString " is an alias for " ++ value
    | .function _ => Text.ofString " is a shell function"
    | .special => Text.ofString " is a special shell builtin"
    | .regular => Text.ofString " is a shell builtin"
    | .program path => Text.ofString " is " ++ path
    | .unknown _ => Text.ofString ": not found"

/-- Whether a name stands for something. -/
def isKnown (s : State) (name : Text) : Bool :=
  match s.meaning s.searchPath name with
  | .unknown _ => false
  | _ => true

/-- Says what names stand for. -/
def describeAll (names : List Text) : Act Unit := do
  let s ← get
  sayWith (if names.all (isKnown s) then 0 else 127) (linesOf (names.map (describe s)))

/-- Shows what would be run under a name. -/
def showCommand (name : Text) : Act Unit := do
  let s ← get
  match s.meaning s.searchPath name with
  | .unknown _ => finish 127
  | .alias value => say (linesOf [Text.ofString "alias " ++ aliasLine name value])
  | .program path => say (linesOf [path])
  | _ => say (linesOf [name])

/-- Looks up programs. -/
def lookUp (args : List Text) : Act Unit := do
  let (given, names) ← takeOptions ['r'] [] args
  finish 0
  if given.isEmpty then
    for name in names do
      let s ← get
      match s.commandMeaning true s.searchPath name with
      | .unknown e =>
        Act.complain (name ++ [':', ' '] ++ programRefusal e)
        finish 1
      | _ => pure ()

/-! ## All commands -/

/-- The command of a given name, if it runs no other one. -/
def find? (name : String) : Option (List Text → Act Unit) :=
  match name with
  | ":" | "true" => some fun _ => finish 0
  | "false" => some fun _ => finish 1
  | "[" => some bracket
  | "alias" => some setAliases
  | "bg" | "fg" => some fun _ => fail (Text.ofString "No current job")
  | "break" => some (leaveLoops .breaking)
  | "cd" | "chdir" => some changeDirectory
  | "continue" => some (leaveLoops .continuing)
  | "echo" => some echo
  | "exit" => some (leaveWith .exit)
  | "export" => some exporting
  | "getopts" => some takeNextOption
  | "hash" => some lookUp
  | "jobs" => some fun args => do
    let _ ← takeOptions ['l', 'p'] [] args
    finish 0
  | "kill" => some kill
  | "local" => some declareLocal
  | "printf" => some printf
  | "pwd" => some printDirectory
  | "read" => some readInput
  | "readonly" => some protecting
  | "return" => some (leaveWith fun _ => .returning)
  | "set" => some set
  | "shift" => some shift
  | "test" => some test
  | "times" => some fun _ =>
    let line := Text.ofString "0m0.000000s 0m0.000000s"
    say (linesOf [line, line])
  | "trap" => some trap
  | "type" => some describeAll
  | "ulimit" => some fun args =>
    if (args.filter (·.head? ≠ some '-')).isEmpty then say (Text.ofString "unlimited\n")
    else finish 0
  | "umask" => some setMask
  | "unalias" => some forgetAliases
  | "unset" => some unset
  | _ => none

end MaskedDump.Shell.Builtin
