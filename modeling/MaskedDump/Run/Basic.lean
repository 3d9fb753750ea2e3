import MaskedDump.FileSystem
import MaskedDump.Log
import MaskedDump.Run.Sink

/-!
# Runs

A run is work that asks two collaborators, a query tool and an export tool, writes to a sink, and
may fail at any point. The collaborators have a state of their own, see the same files as the run,
and may answer or fail as they like. The world of a run keeps a record of every call that was made
and of the answer to it, so that statements can speak of the order of calls and of what they led to.
-/

namespace MaskedDump

/-- A call to a collaborator. -/
inductive Call
  /-- A statement whose result is asked for. -/
  | query (sql : Bytes)
  /-- A statement whose rows are streamed to the sink. -/
  | copyOut (sql : Bytes)
  /-- An export that is asked for as a whole. -/
  | dump (args : List Bytes)
  /-- An export that is streamed to the sink. -/
  | dumpInto (args : List Bytes)
  deriving DecidableEq, Repr

/-- The answer of a collaborator to a call whose result is asked for. -/
structure Reply where
  log : List Log.Entry := []
  result : Except Failure Bytes

/-- What a collaborator streams: the bytes, and how the call ends when the sink has taken them all.
When the sink refuses, the call ends with the refusal under the causes of `refusal`; a call that
settles asks the sink to settle before it ends. -/
structure Delivery where
  log : List Log.Entry := []
  bytes : Bytes
  ending : Except Failure Unit
  refusal : List Cause := []
  settles : Bool := false

/-- A call to a collaborator with the answer to it. -/
inductive Exchange
  /-- A statement and its result. -/
  | query (sql : Bytes) (result : Except Failure Bytes)
  /-- A statement and the rows that were streamed. -/
  | copyOut (sql : Bytes) (rows : Delivery)
  /-- An export and its text. -/
  | dump (args : List Bytes) (result : Except Failure Bytes)
  /-- An export and the text that was streamed. -/
  | dumpInto (args : List Bytes) (text : Delivery)

/-- The call of an exchange. -/
def Exchange.call : Exchange → Call
  | query sql _ => .query sql
  | copyOut sql _ => .copyOut sql
  | dump args _ => .dump args
  | dumpInto args _ => .dumpInto args

/-- What answers calls, with a state of its own. -/
structure Responder (τ : Type) where
  query : Bytes → τ → Reply × τ
  copyOut : Bytes → τ → Delivery × τ
  dump : List Bytes → τ → Reply × τ
  dumpInto : List Bytes → τ → Delivery × τ

/-- What a run and its collaborators have in common: the state of the collaborators, and the files.
-/
structure Surroundings (σ : Type) where
  tools : σ
  files : FileSystem

/-- The two collaborators of a run. -/
abbrev Collaborators (σ : Type) := Responder (Surroundings σ)

namespace Responder

variable {σ : Type}

/-- Collaborators that touch no files. -/
def amongTools (r : Responder σ) : Collaborators σ :=
  let amid {α : Type} (call : σ → α × σ) (s : Surroundings σ) : α × Surroundings σ :=
    let (answer, tools) := call s.tools
    (answer, { s with tools })
  { query := fun sql => amid (r.query sql)
    copyOut := fun sql => amid (r.copyOut sql)
    dump := fun args => amid (r.dump args)
    dumpInto := fun args => amid (r.dumpInto args) }

/-- Collaborators that keep all that they know in files. -/
def amongFiles (r : Responder FileSystem) : Collaborators σ :=
  let amid {α : Type} (call : FileSystem → α × FileSystem) (s : Surroundings σ) :
      α × Surroundings σ :=
    let (answer, files) := call s.files
    (answer, { s with files })
  { query := fun sql => amid (r.query sql)
    copyOut := fun sql => amid (r.copyOut sql)
    dump := fun args => amid (r.dump args)
    dumpInto := fun args => amid (r.dumpInto args) }

end Responder

/-- The world of a run. -/
structure World (σ : Type) extends Surroundings σ where
  sink : Sink := {}
  standardOutput : Bytes := []
  standardError : Bytes := []
  log : List Log.Entry := []
  exchanges : List Exchange := []

/-- The calls that were made. -/
def World.calls {σ : Type} (w : World σ) : List Call := w.exchanges.map Exchange.call

/-- Puts bytes that the sink hands over where its outlet leads. -/
def World.handOver {σ : Type} (w : World σ) (bs : Bytes) : World σ :=
  match w.sink.backing with
  | .memory _ => w
  | .opened b =>
    match b.outlet with
    | .file place => { w with files := w.files.writeAt place b.passed bs }
    | .device .standardOutput => { w with standardOutput := w.standardOutput ++ bs }
    | .device .standardError => { w with standardError := w.standardError ++ bs }
    | .device _ => w

@[simp] theorem World.exchanges_handOver {σ : Type} (w : World σ) (bs : Bytes) :
    (w.handOver bs).exchanges = w.exchanges := by
  unfold handOver
  split
  · rfl
  · split <;> rfl

/-- Work in a world, which may fail and then leaves the world as it is at that point. -/
abbrev Run (σ α : Type) := ExceptT Failure (StateM (World σ)) α

namespace Run

variable {σ α : Type}

/-- Adds an entry to the log. -/
def say (level : Log.Level) (speaker : Log.Speaker) (message : String) : Run σ Unit :=
  modify fun w => { w with log := w.log ++ [⟨level, speaker, message⟩] }

/-- Puts a cause on top of any failure of some work. -/
def under (cause : Cause) (work : Run σ α) : Run σ α := fun w =>
  match work w with
  | (.ok a, w) => (.ok a, w)
  | (.error failure, w) => (.error (failure.under cause), w)

/-- Says which step any failure of some work belongs to. -/
def during (step : Activity) (work : Run σ α) : Run σ α := under (.activity step) work

/-- Makes a request to the sink. -/
def request (ask : Sink → Sink.Reaction) : Run σ Unit := fun w =>
  let reaction := ask w.sink
  (reaction.result.mapError Failure.ofSystem,
    { w.handOver reaction.handed with sink := reaction.sink })

/-- Writes bytes to the sink. -/
def write (bs : Bytes) : Run σ Unit := request (·.write bs)

/-- Asks the sink to settle. -/
def settle : Run σ Unit := request Sink.settle

/-- Takes in a delivery, and counts its bytes. -/
def receive (d : Delivery) : Run σ Nat := fun w =>
  let refused (failure : Failure) : Except Failure Nat :=
    .error (failure.underAll d.refusal)
  match write d.bytes w with
  | (.error failure, w) => (refused failure, w)
  | (.ok (), w) =>
    match (if d.settles then settle w else (.ok (), w) : Except Failure Unit × World σ) with
    | (.error failure, w) => (refused failure, w)
    | (.ok (), w) => (d.ending.map fun () => d.bytes.length, w)

/-! ## Calls -/

/-- Makes a call whose result is asked for. -/
def ask (exchange : Except Failure Bytes → Exchange)
    (answer : Surroundings σ → Reply × Surroundings σ) : Run σ Bytes := fun w =>
  let (reply, around) := answer w.toSurroundings
  (reply.result,
    { w with
      toSurroundings := around
      log := w.log ++ reply.log
      exchanges := w.exchanges ++ [exchange reply.result] })

/-- Makes a call that streams to the sink, and counts the bytes. -/
def stream (exchange : Delivery → Exchange)
    (answer : Surroundings σ → Delivery × Surroundings σ) : Run σ Nat := fun w =>
  let (d, around) := answer w.toSurroundings
  receive d
    { w with
      toSurroundings := around
      log := w.log ++ d.log
      exchanges := w.exchanges ++ [exchange d] }

/-- Asks for the result of a statement. -/
def query (c : Collaborators σ) (sql : Bytes) : Run σ Bytes :=
  ask (.query sql) (c.query sql)

/-- Asks for an export as a whole. -/
def dump (c : Collaborators σ) (args : List Bytes) : Run σ Bytes :=
  ask (.dump args) (c.dump args)

/-- Streams the rows of a statement to the sink, and counts their bytes. -/
def copyOut (c : Collaborators σ) (sql : Bytes) : Run σ Nat :=
  stream (.copyOut sql) (c.copyOut sql)

/-- Streams an export to the sink, and counts its bytes. -/
def dumpInto (c : Collaborators σ) (args : List Bytes) : Run σ Nat :=
  stream (.dumpInto args) (c.dumpInto args)

end Run

end MaskedDump
