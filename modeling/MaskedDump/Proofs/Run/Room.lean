import MaskedDump.Proofs.Run.Course

/-!
# Sinks with room

A sink that is asked to take some bytes and to settle then does both just if it has room. Memory has
room up to its limit, and an outlet always has, unless it is the device without space. That one has
room for nothing, but says so late: a refusal that it owes comes with the next lot, or when the sink
settles.

Results:
* `Sink.verdict_of_hasRoom`, `Sink.verdict_of_not_hasRoom`: what a sink says to some bytes;
* `Run.receive_settling`: a delivery that settles ends as the collaborator has it unless the sink
  refuses, and a refusal counts more than any end;
* `Run.content_receive`: a sink takes of a delivery what it takes of its bytes.
-/

namespace MaskedDump

variable {σ : Type}

/-! ## Outlets -/

namespace Buffer

theorem offer_of_ne {b : Buffer} (h : b.outlet ≠ .device .full) (lots : List Bytes) :
    b.offer lots = .ok false := by
  rw [offer, if_neg h]
  rfl

theorem takings_eq_zero_iff {lot : Bytes} : takings lot = 0 ↔ lot = [] := by
  rw [takings, largestLot, Nat.div_eq_zero_iff, ← List.length_eq_zero_iff]
  omega

theorem takings_eq_nil_iff {lots : List Bytes} :
    (lots.flatMap fun lot => List.replicate (takings lot) ()) = [] ↔ lots.flatten = [] := by
  simp only [List.flatMap_eq_nil_iff, List.replicate_eq_nil_iff, takings_eq_zero_iff,
    List.flatten_eq_nil_iff]

/-- Lots without bytes are no reason for a refusal. -/
theorem offer_vacant {b : Buffer} {lots : List Bytes} (howed : b.refused = false)
    (hlots : lots.flatten = []) : b.offer lots = .ok false := by
  rw [offer, takings_eq_nil_iff.mpr hlots, howed]
  split <;> rfl

/-- The device without space refuses some lots, or owes a refusal after them, if it owed one before
them or there is something in them. -/
theorem offer_full {b : Buffer} {lots : List Bytes} (hfull : b.outlet = .device .full)
    (hlots : b.refused = false → lots.flatten ≠ []) :
    b.offer lots = .ok true ∨ b.offer lots = .error .noSpaceLeft := by
  rw [offer, if_pos hfull]
  cases hunits : lots.flatMap fun lot => List.replicate (takings lot) () with
  | nil =>
    cases howed : b.refused with
    | true => exact .inl rfl
    | false => exact absurd (takings_eq_nil_iff.mp hunits) (hlots howed)
  | cons u rest =>
    cases b.refused with
    | true => exact .inr rfl
    | false =>
      -- the first one is taken all the same
      cases rest with
      | nil => exact .inl rfl
      | cons v rest => exact .inr rfl

end Buffer

/-! ## Sinks -/

namespace Sink

/-- Whether a sink takes some bytes and settles then: memory up to its limit, and any outlet with
space. On the device without space nothing may be held back, and no refusal be owed. -/
def HasRoom (s : Sink) (bs : Bytes) : Prop :=
  match s.backing with
  | .memory none => True
  | .memory (some limit) => bs.length ≤ limit - s.content.length
  | .opened b => b.outlet = .device .full → b.refused = false ∧ b.held ++ bs = []

theorem hasRoom_memory {s : Sink} {limit : Nat} (h : s.backing = .memory (some limit))
    {bs : Bytes} : s.HasRoom bs ↔ bs.length ≤ limit - s.content.length := by
  rw [HasRoom, h]

theorem hasRoom_opened {s : Sink} {b : Buffer} (h : s.backing = .opened b) {bs : Bytes} :
    s.HasRoom bs ↔ (b.outlet = .device .full → b.refused = false ∧ b.held ++ bs = []) := by
  rw [HasRoom, h]

/-- What a sink without room says. -/
def refusal (s : Sink) : SystemError :=
  match s.backing with
  | .memory _ => .sinkFull
  | .opened _ => .noSpaceLeft

/-- What a sink says to some bytes that are written to it, and behind which it is to settle. -/
def verdict (s : Sink) (bs : Bytes) : Except SystemError Unit :=
  (s.write bs).result.bind fun () => (s.write bs).sink.settle.result

theorem verdict_memory {s : Sink} {limit : Option Nat} (h : s.backing = .memory limit)
    (bs : Bytes) : s.verdict bs = (s.write bs).result := by
  have hbacking : (s.write bs).sink.backing = .memory limit := by
    cases limit with
    | none => simp only [write, h]
    | some limit =>
      simp only [write, h]
      split <;> rfl
  have hsettle : (s.write bs).sink.settle.result = .ok () := by rw [settle, hbacking]
  rw [verdict, hsettle]
  cases (s.write bs).result <;> rfl

theorem settle_opened {s : Sink} {b : Buffer} (h : s.backing = .opened b) :
    s.settle.result = if b.offer [b.held] = .ok false then .ok () else .error .noSpaceLeft := by
  rw [settle, h]
  dsimp only
  split
  · rename_i hoffer
    rw [if_pos hoffer]
  · rename_i hoffer
    rw [if_neg hoffer]

/-- An outlet is offered the lots of a write first, and then what is still held back. -/
theorem verdict_opened {s : Sink} {b : Buffer} {bs : Bytes} {owed : Bool}
    (h : s.backing = .opened b) (hoffer : b.offer (b.lots bs).1 = .ok owed) :
    s.verdict bs =
      if (b.pass (b.lots bs).1 (b.lots bs).2 owed).offer [(b.lots bs).2] = .ok false then .ok ()
      else .error .noSpaceLeft := by
  have hwrite : s.write bs =
      ⟨.ok (), ⟨s.content ++ bs, .opened (b.pass (b.lots bs).1 (b.lots bs).2 owed)⟩,
        (b.lots bs).1.flatten⟩ := by
    simp only [write, h, hoffer]
  rw [verdict, hwrite]
  exact settle_opened rfl

theorem verdict_of_hasRoom {s : Sink} {bs : Bytes} (h : s.HasRoom bs) :
    s.verdict bs = .ok () := by
  cases hbacking : s.backing with
  | memory limit =>
    rw [verdict_memory hbacking, write, hbacking]
    cases limit with
    | none => rfl
    | some limit => exact congrArg Reaction.result (if_pos ((hasRoom_memory hbacking).mp h))
  | opened b =>
    by_cases hfull : b.outlet = .device .full
    · obtain ⟨howed, hnothing⟩ := (hasRoom_opened hbacking).mp h hfull
      rw [← b.flatten_lots bs, List.append_eq_nil_iff] at hnothing
      obtain ⟨hlots, hheld⟩ := hnothing
      rw [verdict_opened hbacking (Buffer.offer_vacant howed hlots)]
      exact if_pos (Buffer.offer_vacant rfl (by rw [List.flatten_singleton, hheld]))
    · have hpassed := Buffer.offer_of_ne (b := b.pass (b.lots bs).1 (b.lots bs).2 false) hfull
      rw [verdict_opened hbacking (Buffer.offer_of_ne hfull _)]
      exact if_pos (hpassed _)

/-- The device without space does not let a sink settle that it owes a refusal, or that still holds
something back. -/
theorem verdict_of_owed {s : Sink} {b : Buffer} {bs : Bytes} {owed : Bool}
    (hbacking : s.backing = .opened b) (hfull : b.outlet = .device .full)
    (hoffer : b.offer (b.lots bs).1 = .ok owed) (hheld : owed = false → (b.lots bs).2 ≠ []) :
    s.verdict bs = .error .noSpaceLeft := by
  have hlots : owed = false → [(b.lots bs).2].flatten ≠ [] := by
    rwa [List.flatten_singleton]
  have hsettled := Buffer.offer_full (b := b.pass (b.lots bs).1 (b.lots bs).2 owed) hfull hlots
  rw [verdict_opened hbacking hoffer]
  refine if_neg fun hgranted => ?_
  rw [hgranted] at hsettled
  simp at hsettled

theorem verdict_of_not_hasRoom {s : Sink} {bs : Bytes} (h : ¬ s.HasRoom bs) :
    s.verdict bs = .error s.refusal := by
  cases hbacking : s.backing with
  | memory limit =>
    rw [verdict_memory hbacking, write, refusal, hbacking]
    cases limit with
    | none =>
      refine absurd ?_ h
      rw [HasRoom, hbacking]
      trivial
    | some limit => exact congrArg Reaction.result (if_neg (mt (hasRoom_memory hbacking).mpr h))
  | opened b =>
    obtain ⟨hfull, hsomething⟩ := Classical.not_imp.mp (mt (hasRoom_opened hbacking).mpr h)
    rw [← b.flatten_lots bs, List.append_eq_nil_iff] at hsomething
    rw [refusal, hbacking]
    by_cases hlots : b.refused = false ∧ (b.lots bs).1.flatten = []
    · -- nothing goes to the device before the sink settles
      obtain ⟨howed, hlots⟩ := hlots
      exact verdict_of_owed hbacking hfull (Buffer.offer_vacant howed hlots)
        fun _ hheld => hsomething ⟨howed, hlots, hheld⟩
    · have hoffered := Buffer.offer_full hfull fun howed hnil => hlots ⟨howed, hnil⟩
      rcases hoffered with howed | hrefused
      · exact verdict_of_owed hbacking hfull howed fun hnone => absurd hnone (by decide)
      · have hwrite : (s.write bs).result = .error .noSpaceLeft := by
          rw [write, hbacking]
          dsimp only
          rw [hrefused]
        rw [verdict, hwrite]
        rfl

/-- No sink refuses to take nothing. -/
theorem write_nil (s : Sink) :
    (s.write []).result = .ok () ∧ (s.write []).sink.content = s.content := by
  have hoffer : ∀ b : Buffer, ∃ owed, b.offer (b.lots []).1 = .ok owed := by
    intro b
    show ∃ owed, b.offer [] = .ok owed
    by_cases hfull : b.outlet = .device .full
    · exact ⟨b.refused, by rw [Buffer.offer, if_pos hfull]; rfl⟩
    · exact ⟨false, Buffer.offer_of_ne hfull _⟩
  have hresult : (s.write []).result = .ok () := by
    cases hbacking : s.backing with
    | memory limit => cases limit <;> simp [write, hbacking]
    | opened b =>
      obtain ⟨owed, howed⟩ := hoffer b
      rw [write, hbacking]
      dsimp only
      rw [howed]
  obtain ⟨part, hpart, hcontent, -⟩ := s.content_write []
  rw [hcontent, List.prefix_nil.mp hpart, List.append_nil]
  exact ⟨hresult, rfl⟩

/-- What a sink with room takes. -/
theorem content_of_hasRoom {s : Sink} {bs : Bytes} (h : s.HasRoom bs) :
    (s.write bs).sink.content = s.content ++ bs := by
  obtain ⟨part, -, hcontent, hall⟩ := s.content_write bs
  have hgranted := verdict_of_hasRoom h
  rw [verdict] at hgranted
  cases hresult : (s.write bs).result with
  | ok u => rw [hcontent, hall hresult]
  | error e =>
    rw [hresult] at hgranted
    cases hgranted

/-- Memory without room takes the bytes up to its limit. -/
theorem content_of_not_hasRoom {s : Sink} {bs : Bytes} {limit : Nat}
    (hbacking : s.backing = .memory (some limit)) (h : ¬ s.HasRoom bs) :
    (s.write bs).sink.content = s.content ++ bs.take (limit - s.content.length) := by
  have hroom : ¬ bs.length ≤ limit - s.content.length := mt (hasRoom_memory hbacking).mpr h
  simp only [write, hbacking, if_neg hroom]

end Sink

/-! ## Deliveries -/

namespace Run

/-- A delivery that settles ends with the refusal of the sink, if there is one, whatever end the
collaborator has for it. -/
theorem receive_settling {d : Delivery} (hsettles : d.settles = true) (w : World σ) :
    (receive d w).1 =
      match w.sink.verdict d.bytes with
      | .ok () => d.ending.map fun () => d.bytes.length
      | .error e => .error ((Failure.ofSystem e).underAll d.refusal) := by
  simp only [receive, write, settle, request, hsettles, if_true, Sink.verdict]
  cases (w.sink.write d.bytes).result with
  | error e => rfl
  | ok u =>
    simp only [mapError_ok, Except.bind]
    cases (w.sink.write d.bytes).sink.settle.result <;> rfl

theorem content_receive (d : Delivery) (w : World σ) :
    (receive d w).2.sink.content = (w.sink.write d.bytes).sink.content := by
  simp only [receive, write, settle, request]
  cases (w.sink.write d.bytes).result with
  | error e => rfl
  | ok u =>
    cases d.settles with
    | false => rfl
    | true =>
      simp only [mapError_ok, if_true]
      cases (w.sink.write d.bytes).sink.settle.result <;> simp

/-- A delivery of nothing ends as the collaborator has it. -/
theorem receive_nothing {d : Delivery} (hbytes : d.bytes = []) (hsettles : d.settles = false)
    (w : World σ) : (receive d w).1 = d.ending.map fun () => 0 := by
  have hwrite : (write d.bytes w).1 = .ok () := by
    rw [hbytes, write, request, (Sink.write_nil w.sink).1]
    rfl
  unfold receive
  generalize write d.bytes w = written at hwrite ⊢
  obtain ⟨result, after⟩ := written
  obtain rfl : result = .ok () := hwrite
  rw [hsettles, hbytes]
  rfl

end Run

end MaskedDump
