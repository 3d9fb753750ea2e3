import MaskedDump.FileSystem
import MaskedDump.Shell.Field

/-!
# The state of a running script

A state has two halves. What a process has of its own, such as its variables, is copied for every
part of the script that runs apart; the files, and whatever is written, are common to all. Numbered
outlets lead to what they read from or write to. A file that was opened once has one offset, which
all outlets that lead to it move on.

Parts of a script may run beside it. All that is written carries the time of writing, counted in
commands, and is put in order at the end. Whoever takes the output may stop taking it; a script that
writes on is then ended.
-/

namespace MaskedDump.Shell

/-! ## Streams -/

/-- Where an outlet leads. -/
inductive Outlet
  | output | diagnostics | nowhere
  /-- Takes nothing. -/
  | full
  /-- A stream, by its number. -/
  | stream (number : Nat)
  deriving DecidableEq

/-- A text and the time at which it was written. -/
abbrev Piece := Nat × Text

/-- What was opened once. -/
inductive Stream
  /-- A file: whether all is written at its end, and where it is read and written otherwise. -/
  | file (place : Place) (appends : Bool) (offset : Nat)
  /-- What has been written for a reader, the last piece first, and how much more is taken, if that
  is bounded. -/
  | pipe (pieces : List Piece) (room : Option Nat)
  /-- A text that is read. -/
  | held (rest : Text)

/-! ## Processes -/

/-- A variable; it may be known without a value. -/
structure Variable where
  value : Option Text := none
  exported : Bool := false
  readOnly : Bool := false

/-- What a process has of its own. -/
structure Process where
  number : Nat := 1
  /-- The process in which the script began. -/
  script : Nat := 1
  /-- The name under which it speaks to the operator. -/
  name : Text := []
  outlets : List (Nat × Outlet) := [(0, .nowhere), (1, .output), (2, .diagnostics)]
  /-- The names of the directory in which it works, as it came there. -/
  directory : List Text := []
  /-- The rights that new files do not have. -/
  mask : Nat := 18
  bindings : List (Text × Variable) := []
  /-- For every call that runs, the variables that it hides. -/
  hidden : List (List (Text × Option Variable)) := []
  parameters : List Text := []
  functions : List (Text × Command) := []
  aliases : List (Text × Text) := []
  /-- What is run when a signal comes, by its number; 0 stands for the end. -/
  traps : List (Nat × Text) := []
  /-- The options that are turned on, by their letters. -/
  options : List Char := []
  /-- Whether the status of the running command is asked for, so that it may fail. -/
  asked : Bool := false
  /-- Whether a function runs. -/
  inFunction : Bool := false
  /-- The number of loops around the running command. -/
  loops : Nat := 0
  /-- The line of the running command, and the one up to which the script has been read. -/
  line : Nat := 1
  lineRead : Nat := 1
  /-- The command of the shell that runs. -/
  speaker : Option Text := none
  /-- The status of the last command whose output was taken. -/
  taken : Nat := 0
  /-- The parameter that options are taken from next, and where in the one before. -/
  optionIndex : Nat := 1
  optionOffset : Option Nat := none
  /-- The processes that were begun beside it, and the last one that is known of. -/
  beside : List Nat := []
  lastBeside : Option Nat := none

/-- A command that was begun beside the script and has not run yet. -/
structure Job where
  number : Nat
  /-- The process that began it. -/
  owner : Nat
  /-- When it was begun. -/
  time : Nat
  body : Command
  process : Process

/-- What is common to all processes. -/
structure Common where
  /-- The pieces of output, the last one first. -/
  output : List Piece := []
  /-- The number of characters of output. -/
  written : Nat := 0
  /-- How much output is taken, if that is bounded. -/
  horizon : Option Nat := none
  diagnostics : List Piece := []
  files : FileSystem
  streams : Array Stream := #[]
  /-- The texts that follow commands. -/
  texts : Array Word := #[]
  time : Nat := 0
  /-- How many processes there have been. -/
  processes : Nat := 1
  jobs : List Job := []
  /-- The signals that have been sent and have not come yet, with the processes to which they go, the
  last one first. -/
  sent : List (Nat × Nat) := []
  /-- The processes beside the script that have ended: their numbers, when, and with what status. -/
  ended : List (Nat × Nat × Nat) := []

/-- The state of a running script. -/
structure State extends Common, Process where
  status : Nat := 0

/-- Why a script leaves the normal order of its commands. -/
inductive Leave
  /-- The script ends. The flag says whether it chose its status itself. -/
  | exit (chosen : Bool)
  /-- Something failed that ends the script, unless a command stands around it that may fail. -/
  | failure
  | breaking (levels : Nat)
  | continuing (levels : Nat)
  | returning
  /-- The output is not taken any more. -/
  | outputClosed
  /-- The script ran out of the time that it is given. -/
  | outOfTime
  /-- A signal ended the process. -/
  | killed
  deriving DecidableEq

/-- A step of a script. -/
abbrev Act (α : Type) := ExceptT Leave (StateM State) α

namespace State

/-! ## Variables -/

/-- What is known of a variable. -/
def known? (s : State) (name : Text) : Option Variable := s.bindings.lookup name

/-- The value of a variable. -/
def value? (s : State) (name : Text) : Option Text := (s.known? name).bind Variable.value

/-- Puts a variable in, or takes it out. -/
def restore (s : State) (name : Text) (v : Option Variable) : State :=
  let others := s.bindings.filter (·.1 ≠ name)
  { s with bindings := match v with
      | some v => (name, v) :: others
      | none => others }

/-- Makes a variable one of the call that runs. -/
def hide (s : State) (name : Text) : State :=
  match s.hidden with
  | [] => s
  | names :: outer => { s with hidden := ((name, s.known? name) :: names) :: outer }

/-- Begins a call. -/
def beginCall (s : State) : State := { s with hidden := [] :: s.hidden }

/-- Ends a call: the variables that it hid are there again. -/
def endCall (s : State) : State :=
  match s.hidden with
  | [] => s
  | names :: outer =>
    names.foldl (fun s (name, v) => s.restore name v) { s with hidden := outer }

/-- Sets a variable, whatever is known of it. -/
def assign (s : State) (name value : Text) : State :=
  let v := (s.known? name).getD {}
  let s := s.restore name (some
    { v with value := some value, exported := v.exported || s.options.contains 'a' })
  if name = "OPTIND".toList then
    { s with
      optionIndex := max 1 (value.foldl (fun n c => n * 10 + (c.toNat - 48)) 0)
      optionOffset := none }
  else s

/-- The characters at which unquoted expansions are split into fields. -/
def separators (s : State) : Text := (s.value? "IFS".toList).getD defaultSeparators

/-- The letters of the options, in the order in which they are listed. -/
def optionLetters : List Char :=
  ['e', 'f', 'I', 'i', 'm', 'n', 's', 'x', 'v', 'V', 'E', 'C', 'a', 'b', 'u', 'p']

/-- The value of a parameter; positional ones are numbered from one. -/
def parameter? (s : State) (name : Text) : Option Text :=
  match name with
  | ['#'] => some (Nat.toDigits 10 s.parameters.length)
  | ['?'] => some (Nat.toDigits 10 s.status)
  | ['$'] => some (Nat.toDigits 10 s.script)
  | ['!'] => s.lastBeside.map (Nat.toDigits 10)
  | ['-'] => some (optionLetters.reverse.filter s.options.contains)
  | c :: _ =>
    if c.isDigit then
      let n := name.foldl (fun n c => n * 10 + (c.toNat - 48)) 0
      if n = 0 then some s.name else s.parameters[n - 1]?
    else s.value? name
  | [] => none

/-! ## Outlets -/

/-- Where an outlet leads, if it is open. -/
def outlet? (s : State) (n : Nat) : Option Outlet := s.outlets.lookup n

/-- Leads an outlet elsewhere. -/
def lead (s : State) (n : Nat) (outlet : Outlet) : State :=
  { s with outlets := (n, outlet) :: s.outlets.filter (·.1 ≠ n) }

/-- Closes an outlet. -/
def close (s : State) (n : Nat) : State := { s with outlets := s.outlets.filter (·.1 ≠ n) }

/-- Leads an outlet to something new. -/
def leadTo (s : State) (n : Nat) (stream : Stream) : State :=
  { s with streams := s.streams.push stream }.lead n (.stream s.streams.size)

/-- The text that pieces make up in the order of time. -/
def collected (pieces : List Piece) : Text :=
  let ordered := pieces.reverse
  let inOrder := (ordered.foldl (fun (fine, last) (time, _) => (fine && last ≤ time, time))
    (true, 0)).1
  let ordered := if inOrder then ordered else ordered.mergeSort fun a b => Nat.ble a.1 b.1
  (ordered.map Prod.snd).flatten

/-- What an outlet can be read for, up to its end. -/
def readable (s : State) (n : Nat) : Text :=
  match s.outlet? n with
  | some (.stream number) =>
    match s.streams[number]? with
    | some (.held rest) => rest
    | some (.file place _ offset) =>
      match s.files.get? place with
      | some (.file content _) => Text.ofBytes (content.drop offset)
      | _ => []
    | _ => []
  | _ => []

/-- Moves an outlet on behind some characters that were read. -/
def consume (s : State) (n count : Nat) : State :=
  match s.outlet? n with
  | some (.stream number) =>
    let after : Option Stream := match s.streams[number]? with
      | some (.held rest) => some (.held (rest.drop count))
      | some (.file place appends offset) => some (.file place appends (offset + count))
      | other => other
    match after with
    | some stream => { s with streams := s.streams.setIfInBounds number stream }
    | none => s
  | _ => s

/-- Leads outlets where they led in an earlier state. -/
def leadBack (s before : State) (numbers : List Nat) : State :=
  numbers.foldl
    (fun s n => match before.outlet? n with
      | some outlet => s.lead n outlet
      | none => s.close n)
    s

/-! ## Parts that run apart -/

/-- What a process keeps of the state in which another one ended. -/
def rejoin (before after : State) : State :=
  { before with
    toCommon := { after.toCommon with
      files := { after.files with workPlace := before.files.workPlace } }
    status := after.status }

end State

namespace Act

/-- Writes a text to an outlet. The flag says whether all was taken. -/
def write (n : Nat) (text : Text) : Act Bool := do
  let s ← get
  match s.outlet? n with
  | some .output =>
    set { s with output := (s.time, text) :: s.output, written := s.written + text.length }
    match s.horizon with
    | some horizon => if horizon < s.written + text.length then throw .outputClosed
    | none => pure ()
    return true
  | some .diagnostics =>
    set { s with diagnostics := (s.time, text) :: s.diagnostics }
    return true
  | some .nowhere => return true
  | some .full => return text.isEmpty
  | some (.stream number) =>
    match s.streams[number]? with
    | some (.file place appends offset) =>
      let bytes := Text.toBytes text
      let offset := if appends then s.files.size place else offset
      set { s with
        files := s.files.writeAt place offset bytes
        streams := s.streams.setIfInBounds number (.file place appends (offset + bytes.length)) }
      return true
    | some (.pipe pieces room) =>
      let pipe := .pipe ((s.time, text) :: pieces) (room.map (· - text.length))
      set { s with streams := s.streams.setIfInBounds number pipe }
      match room with
      | some room => if room < text.length then throw .outputClosed
      | none => pure ()
      return true
    | _ => return text.isEmpty
  | none => return text.isEmpty

/-- Tells the operator something about the running command. -/
def complain (message : Text) : Act Unit := do
  let s ← get
  let line := Nat.toDigits 10 s.line
  let speaker := match s.speaker with
    | some name => name ++ [':', ' ']
    | none => []
  let _ ← write 2 (s.name ++ [':', ' '] ++ line ++ [':', ' '] ++ speaker ++ message ++ ['\n'])

/-- Sets the status of the last command. -/
def finish (status : Nat) : Act Unit := modify ({ · with status })

/-- Fails with a message and a status. -/
def failWith {α : Type} (status : Nat) (message : Text) : Act α := do
  complain message
  finish status
  throw .failure

/-- Fails with a message. -/
def fail {α : Type} (message : Text) : Act α := failWith 2 message

/-- Sets a variable, unless it may not be changed. -/
def assign (name value : Text) : Act Unit := do
  if ((← get).known? name).any Variable.readOnly then
    fail (name ++ Text.ofString ": is read only")
  modify (·.assign name value)

/-- Repeats a step while it gives something to go on with, at most a given number of times. -/
def iterate {α : Type} : Nat → (α → Act (Option α)) → α → Act Unit
  | 0, _, _ => throw .outOfTime
  | rounds + 1, step, a => fun s =>
    match step a s with
    | (.ok (some next), s) => iterate rounds step next s
    | (.ok none, s) => (.ok (), s)
    | (.error leave, s) => (.error leave, s)

end Act

end MaskedDump.Shell
