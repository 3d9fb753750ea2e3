import MaskedDump.Shell.Builtin.Basic

/-!
# Commands of the shell on signals

A signal is known by its number or its name; number 0 stands for the end of the script. A script may
say what is run when a signal comes, and may send signals to itself and to what it began.
-/

namespace MaskedDump.Shell.Builtin

open Act (finish fail)

/-! ## Names -/

/-- The names of the signals up to the ones that only have numbers. -/
def commonSignals : List String :=
  ["EXIT", "HUP", "INT", "QUIT", "ILL", "TRAP", "ABRT", "BUS", "FPE", "KILL", "USR1", "SEGV",
    "USR2", "PIPE", "ALRM", "TERM", "16", "CHLD", "CONT", "STOP", "TSTP", "TTIN", "TTOU", "URG",
    "XCPU", "XFSZ", "VTALRM", "PROF", "WINCH", "IO", "PWR", "SYS", "32", "33"]

/-- The names of all signals, by their numbers. -/
def signalNames : List String :=
  commonSignals ++ ["RTMIN"] ++ (List.range 15).map (fun n => "RTMIN+" ++ toString (n + 1))
    ++ (List.range 14).map (fun n => "RTMAX-" ++ toString (14 - n)) ++ ["RTMAX"]

/-- The number of a signal, given as such or by its name in any case. -/
def signal? (text : Text) : Option Nat :=
  match readNumber text with
  | some n => if n < signalNames.length then some n else none
  | none => signalNames.findIdx? fun name => name.toList == text.map Char.toUpper

/-- The name of a signal. -/
def signalName (number : Nat) : Text := Text.ofString (signalNames[number]?.getD "")

/-! ## Traps -/

/-- Sets what is run when some signals come; nothing is the usual. -/
def setTraps (action : Option Text) : List Text → Act Unit
  | [] => finish 0
  | text :: rest => do
    match signal? text with
    | none =>
      warn (linesOf [Text.ofString "trap: " ++ text ++ Text.ofString ": bad trap"])
      finish 1
    | some number =>
      modify fun s =>
        let others := s.traps.filter (·.1 ≠ number)
        { s with traps := match action with
            | some action => (number, action) :: others
            | none => others }
      setTraps action rest

/-- Shows or sets what is run when signals come. -/
def trap (args : List Text) : Act Unit := do
  match ← operands args with
  | [] =>
    let traps := (← get).traps.mergeSort fun a b => Nat.ble a.1 b.1
    say (linesOf (traps.map fun (number, action) =>
      Text.ofString "trap -- " ++ quotedText action ++ ' ' :: signalName number))
  | [signal] => setTraps none [signal]
  | action :: signals =>
    if (readNumber action).isSome && (signal? action).isSome then setTraps none (action :: signals)
    else setTraps (if action = ['-'] then none else some action) signals

/-! ## Sending -/

/-- Sends a signal to a process. Says whether there is one. -/
def sendTo (signal number : Nat) : Act Bool := do
  let s ← get
  if s.jobs.any (·.number == number) then
    if signal ≠ 0 then
      set { s with
        jobs := s.jobs.filter (·.number ≠ number)
        ended := (number, s.time, 128 + signal) :: s.ended }
    return true
  else if number = s.script then
    if signal ≠ 0 then set { s with sent := (number, signal) :: s.sent }
    return true
  else return s.ended.any (·.1 == number)

/-- How `kill` is used. -/
def killUsage : Text :=
  Text.ofString ("Usage: kill [-s sigspec | -signum | -sigspec] [pid | job]... or\n" ++
    "kill -l [exitstatus]")

/-- Sends a signal to processes. -/
def sendAll (signal : Nat) (targets : List Text) : Act Unit := do
  if targets.isEmpty then fail killUsage
  finish 0
  for target in targets do
    let process ← number target
    if !(← sendTo signal process) then
      Act.complain (Text.ofString "No such process\n")
      finish 1

/-- Shows the names of signals: of all, or of the one that a status tells. -/
def listSignals : List Text → Act Unit
  | [] => say (linesOf (['0'] :: signalNames.tail.map Text.ofString))
  | text :: _ => do
    let n ← number text
    let signal := if 128 < n then n - 128 else n
    if 0 < signal ∧ signal < signalNames.length then say (linesOf [signalName signal])
    else fail (Text.ofString "invalid signal number or exit status: " ++ text)

/-- Sends a signal, or shows the names of signals. -/
def kill (args : List Text) : Act Unit := do
  match args with
  | [] => fail killUsage
  | ('-' :: name) :: rest =>
    match signal? name with
    | some signal => sendAll signal rest
    | none => do
      let (given, rest) ← takeOptions ['l'] ['s'] args
      if given.any (·.1 == 'l') then listSignals rest
      else match given.getLast? with
        | none => sendAll 15 rest
        | some (_, name) =>
          match signal? name with
          | some signal => sendAll signal rest
          | none => fail (Text.ofString "invalid signal number or name: " ++ name)
  | targets => sendAll 15 targets

end MaskedDump.Shell.Builtin
