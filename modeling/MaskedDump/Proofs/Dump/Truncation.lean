import MaskedDump.Proofs.Dump.Coupled

/-!
# Dumps to a limited sink

A sink that takes so many bytes in all and refuses the next one cuts a dump off there, and does
nothing else to it. The dump goes on side by side with one to a sink without a limit until the sink
refuses. It ends there with the refusal at its root, and asks its collaborators nothing more, while
the other dump only adds to what it has written and asked.

Results:
* `truncation`: the coupling of worlds that differ in the limits of their sinks;
* `Script.write_cuts`: a dump to a limited sink is the beginning of a dump.
-/

namespace MaskedDump

variable {σ : Type}

/-! ## Coupled sinks -/

/-- Worlds that differ in the limits of their sinks, and the limit is not exceeded. -/
structure Within (limit : Nat) (w v : World σ) : Prop where
  around : v.toSurroundings = w.toSurroundings
  exchanges : v.exchanges = w.exchanges
  content : v.sink.content = w.sink.content
  unlimited : w.sink.backing = .memory none
  limited : v.sink.backing = .memory (some limit)
  fits : w.sink.content.length ≤ limit

/-- What is true once the limited sink has refused: it holds the bytes up to the limit, and no call
was made that was not made with the unlimited one. -/
structure CutOff (limit : Nat) (w : World σ) (cause : Cause) (v : World σ) : Prop where
  refused : cause = .system .sinkFull
  unlimited : w.sink.backing = .memory none
  exceeds : limit < w.sink.content.length
  content : v.sink.content = w.sink.content.take limit
  exchanges : v.exchanges <+: w.exchanges

/-- Runs whose sinks differ in the limit alone. -/
def truncation (limit : Nat) : Coupling σ where
  worlds := Within limit
  causes := Eq
  lost := CutOff limit
  worlds_log _ _ h := ⟨h.around, h.exchanges, h.content, h.unlimited, h.limited, h.fits⟩
  lost_log _ h := ⟨h.refused, h.unlimited, h.exceeds, h.content, h.exchanges⟩
  causes_refl _ := rfl

namespace truncation

open Coupling

variable {limit : Nat}

/-- The unlimited sink takes more once the limited one has refused. -/
theorem lost_write {w v : World σ} {cause : Cause} (h : CutOff limit w cause v) (bs : Bytes) :
    CutOff limit (Run.write bs w).2 cause v := by
  rw [Run.write_unlimited h.unlimited]
  refine ⟨h.refused, h.unlimited, ?_, ?_, h.exchanges⟩
  · have hexceeds := h.exceeds
    simp only [List.length_append]
    omega
  · rw [h.content, List.take_append_of_le_length (Nat.le_of_lt h.exceeds)]

theorem write_couples (bs : Bytes) :
    (truncation (σ := σ) limit).Couples id (Run.write bs) (Run.write bs) where
  ends := by
    intro w v h
    rw [Run.write_unlimited h.unlimited]
    have hfits := h.fits
    by_cases hroom : bs.length ≤ limit - v.sink.content.length
    · have hlength : (w.sink.content ++ bs).length ≤ limit := by
        rw [h.content] at hroom
        rw [List.length_append]
        omega
      have hcontent : v.sink.content ++ bs = w.sink.content ++ bs := by rw [h.content]
      rw [Run.write_fitting h.limited hroom]
      exact .done ⟨h.around, h.exchanges, hcontent, h.unlimited, h.limited, hlength⟩
    · have hlength : limit < (w.sink.content ++ bs).length := by
        rw [h.content] at hroom
        rw [List.length_append]
        omega
      have hcontent : v.sink.content ++ bs.take (limit - v.sink.content.length) =
          (w.sink.content ++ bs).take limit := by
        rw [h.content, List.take_append, List.take_of_length_le hfits]
      rw [Run.write_exceeding h.limited hroom]
      exact .lost ⟨rfl, h.unlimited, hlength, hcontent, h.exchanges ▸ List.prefix_rfl⟩
  keeps _ _ _ h := lost_write h bs

theorem settle_couples :
    (truncation (σ := σ) limit).Couples id Run.settle Run.settle where
  ends := by
    intro w v h
    rw [Run.settle_memory h.unlimited, Run.settle_memory h.limited]
    exact .done (a := ()) h
  keeps := by
    intro w cause v h
    rw [Run.settle_memory h.unlimited]
    exact h

/-- Collaborators know nothing of the sink. -/
theorem agrees {α : Type} (call : Surroundings σ → α × Surroundings σ) :
    (truncation limit).Agrees call := by
  intro w v h
  have hexchanges : ∀ e, v.exchanges ++ [e] = w.exchanges ++ [e] := by simp [h.exchanges]
  rw [h.around]
  exact ⟨rfl, fun e => ⟨rfl, hexchanges e, h.content, h.unlimited, h.limited, h.fits⟩⟩

theorem translates (c : Collaborators σ) :
    (truncation limit).Translates .identity c c := by
  refine .of_agrees write_couples settle_couples ?_ (fun _ => agrees _) (fun _ => agrees _)
    (fun _ => agrees _) (fun _ => agrees _)
  intro w cause v h around e
  exact ⟨h.refused, h.unlimited, h.exceeds, h.content, h.exchanges.trans (List.prefix_append _ _)⟩

end truncation

/-! ## Whole dumps -/

/-- Whether a run to a limited sink is what a run to an unlimited one becomes there. -/
structure Cuts {α : Type} (limit : Nat) (whole cut : Except Failure α × World σ) : Prop where
  /-- Within the limit nothing changes. -/
  fits : whole.2.sink.content.length ≤ limit →
    cut.1 = whole.1 ∧ cut.2.exchanges = whole.2.exchanges ∧
      cut.2.sink.content = whole.2.sink.content
  /-- Beyond it the run fails with the refusal at its root, the sink is full of the first bytes, and
  no call was made but those that the other run made first. -/
  exceeds : limit < whole.2.sink.content.length →
    (∃ failure, cut.1 = .error failure ∧ failure.root = .system .sinkFull) ∧
      cut.2.sink.content = whole.2.sink.content.take limit ∧
      cut.2.exchanges <+: whole.2.exchanges

theorem truncation.cuts {α : Type} {limit : Nat} {whole cut : Except Failure α × World σ}
    (h : (truncation limit).Ends id whole cut) : Cuts limit whole cut := by
  rcases h.same rfl with ⟨hresult, hworlds⟩ | ⟨failure, hfailed, hlost⟩
  · exact ⟨fun _ => ⟨hresult, hworlds.exchanges, hworlds.content⟩,
      fun hlong => absurd hlong (Nat.not_lt.mpr hworlds.fits)⟩
  · exact ⟨fun hshort => absurd hlost.exceeds (Nat.not_lt.mpr hshort),
      fun _ => ⟨⟨failure, hfailed, hlost.refused⟩, hlost.content, hlost.exchanges⟩⟩

namespace Script

/-- What a dump to a sink that takes `limit` bytes becomes of the dump to one without a limit. -/
theorem write_cuts (c : Collaborators σ) (options : ExportOptions) (version : String)
    (limit : Nat) (w : World σ) :
    Cuts limit (write c options version { w with sink := {} })
      (write c options version { w with sink := { backing := .memory (some limit) } }) := by
  have htranslates : (truncation limit).Translates .identity c c := truncation.translates c
  have hcouples := write_couples_identity htranslates options version
  have hstart : Within limit { w with sink := {} }
      { w with sink := { backing := .memory (some limit) } } :=
    ⟨rfl, rfl, rfl, rfl, rfl, Nat.zero_le limit⟩
  exact truncation.cuts (hcouples.ends _ _ hstart)

end Script

end MaskedDump
