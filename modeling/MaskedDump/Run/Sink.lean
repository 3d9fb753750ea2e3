import MaskedDump.FileSystem

/-!
# Sinks

Where a script is written to. A sink in memory takes bytes up to its limit and refuses the first
byte beyond, so it always holds a beginning of what was written. The sink of an opened path holds
bytes back in a buffer and hands them over in lots. A device without space takes a lot all the same;
it refuses the next one, or the request to settle.

Results:
* `content_write`: a sink takes a beginning of what is written, and all of it if it does not refuse;
* `write_unlimited`: a sink in memory without a limit takes everything;
* `flatten_lots`: the lots that a write hands over and what is held back after it are what was held
  back before it and the bytes written.
-/

namespace MaskedDump

open FileSystem (Opened)

/-! ## Buffers -/

/-- A buffer in front of an opened path. -/
structure Buffer where
  outlet : Opened
  /-- What is held back. -/
  held : Bytes := []
  /-- How many bytes were handed over. -/
  passed : Nat := 0
  /-- Whether the outlet has refused a lot and not said so yet. -/
  refused : Bool := false
  deriving DecidableEq, Repr

namespace Buffer

/-- The bytes that are held back at most. -/
def capacity : Nat := 8192

/-- The lots that are handed over when bytes are written, and what is then held back. What does not
fit beside the bytes held back makes them go first; a lot as large as the buffer is not held back.
-/
def lots (b : Buffer) (bs : Bytes) : List Bytes × Bytes :=
  if bs.isEmpty then ([], b.held)
  else if capacity ≤ bs.length then ([b.held, bs], [])
  else if capacity < b.held.length + bs.length then ([b.held], bs)
  else ([], b.held ++ bs)

theorem flatten_lots (b : Buffer) (bs : Bytes) :
    (b.lots bs).1.flatten ++ (b.lots bs).2 = b.held ++ bs := by
  unfold lots
  split
  · simp_all
  · split
    · simp
    · split <;> simp

/-- The most bytes that an outlet takes at once. -/
def largestLot : Nat := 2097152

/-- How many times an outlet has to take something of a lot. -/
def takings (lot : Bytes) : Nat := (lot.length + largestLot - 1) / largestLot

/-- What the outlet says to lots that are handed over: whether there is a refusal that it has not
reported. -/
def offer (b : Buffer) (lots : List Bytes) : Except SystemError Bool :=
  if b.outlet = .device .full then
    (lots.flatMap fun lot => List.replicate (takings lot) ()).foldlM
      (fun refused () => if refused then throw .noSpaceLeft else return true) b.refused
  else return false

/-- The buffer after lots were handed over and others are held back. -/
def pass (b : Buffer) (lots : List Bytes) (held : Bytes) (refused : Bool) : Buffer :=
  { b with held, passed := b.passed + lots.flatten.length, refused }

end Buffer

/-! ## Sinks -/

/-- What takes the bytes of a sink. -/
inductive Backing
  /-- Memory, with a limit on the bytes in all, if there is one. -/
  | memory (limit : Option Nat)
  /-- An opened path. -/
  | opened (buffer : Buffer)
  deriving DecidableEq, Repr

/-- A sink with the bytes that it has taken. -/
structure Sink where
  content : Bytes := []
  backing : Backing := .memory none
  deriving DecidableEq, Repr

namespace Sink

/-- What becomes of a request: whether it is granted, the sink after it, and the bytes that are
handed over to its outlet. -/
structure Reaction where
  result : Except SystemError Unit
  sink : Sink
  handed : Bytes := []

/-- The sink of an opened path. -/
def ofOpened (outlet : Opened) : Sink := { backing := .opened { outlet } }

/-- Writes bytes. -/
def write (s : Sink) (bs : Bytes) : Reaction :=
  match s.backing with
  | .memory none => ⟨.ok (), { s with content := s.content ++ bs }, []⟩
  | .memory (some limit) =>
    let room := limit - s.content.length
    if bs.length ≤ room then ⟨.ok (), { s with content := s.content ++ bs }, []⟩
    else ⟨.error .sinkFull, { s with content := s.content ++ bs.take room }, []⟩
  | .opened b =>
    let (lots, held) := b.lots bs
    match b.offer lots with
    | .ok refused =>
      ⟨.ok (), { content := s.content ++ bs, backing := .opened (b.pass lots held refused) },
        lots.flatten⟩
    | .error e => ⟨.error e, { s with backing := .opened (b.pass [] [] false) }, []⟩

/-- Hands over what is held back, and waits until it has been taken. -/
def settle (s : Sink) : Reaction :=
  match s.backing with
  | .memory _ => ⟨.ok (), s, []⟩
  | .opened b =>
    match b.offer [b.held] with
    | .ok false => ⟨.ok (), { s with backing := .opened (b.pass [b.held] [] false) }, b.held⟩
    | _ => ⟨.error .noSpaceLeft, { s with backing := .opened (b.pass [] [] false) }, []⟩

/-- How many bytes the sink takes in all, if that is bounded. -/
def limit? (s : Sink) : Option Nat :=
  match s.backing with
  | .memory limit => limit
  | .opened _ => none

/-- No sink takes anything but what is written, from its beginning on, and one that does not refuse
takes all of it. -/
theorem content_write (s : Sink) (bs : Bytes) :
    ∃ part, part <+: bs ∧ (s.write bs).sink.content = s.content ++ part ∧
      ((s.write bs).result = .ok () → part = bs) := by
  unfold write
  split
  · exact ⟨bs, List.prefix_rfl, rfl, fun _ => rfl⟩
  · rename_i limit _
    dsimp only
    split
    · exact ⟨bs, List.prefix_rfl, rfl, fun _ => rfl⟩
    · exact ⟨bs.take (limit - s.content.length), List.take_prefix _ _, rfl, nofun⟩
  · rename_i b _
    dsimp only
    cases b.offer (b.lots bs).1 with
    | ok refused => exact ⟨bs, List.prefix_rfl, rfl, fun _ => rfl⟩
    | error e => exact ⟨[], List.nil_prefix, (List.append_nil _).symm, nofun⟩

@[simp] theorem content_settle (s : Sink) : s.settle.sink.content = s.content := by
  unfold settle
  split
  · rfl
  · split <;> rfl

theorem write_unlimited {s : Sink} (h : s.backing = .memory none) (bs : Bytes) :
    s.write bs = ⟨.ok (), { s with content := s.content ++ bs }, []⟩ := by
  simp [write, h]

end Sink

end MaskedDump
