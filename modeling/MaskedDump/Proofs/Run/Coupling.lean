import MaskedDump.Proofs.Run.Course
import Mathlib.Data.List.Forall2

/-!
# Runs in pairs

Two runs of one piece of work go on side by side, in worlds that answer to each other: their sinks
differ, say, or their collaborators speak in different encodings. A coupling says which worlds and
which causes of failures answer to each other. Coupled work keeps worlds that answer to each other
so, and ends alike in both.

The second run may be stopped for a reason that the first one does not have. The first one goes on
alone then. A coupling says what remains true of the pair, whatever the first run still does.

Results:
* `Couples.bind`, `Couples.under`: work made of coupled parts is coupled;
* `Couples.receive`: taking in a delivery is coupled if writing and settling are;
* `Couples.ask`, `Couples.stream`: a call is coupled if its answers answer to each other.
-/

namespace MaskedDump

variable {σ α β γ δ : Type}

/-- Which worlds and causes answer to each other. -/
structure Coupling (σ : Type) where
  worlds : World σ → World σ → Prop
  causes : Cause → Cause → Prop
  /-- What is true once the second run was stopped for a cause: of the world of the first run, the
  cause, and the world that the second run has left. -/
  lost : World σ → Cause → World σ → Prop
  worlds_log : ∀ {w v} (log log'), worlds w v → worlds { w with log } { v with log := log' }
  lost_log : ∀ {w cause v} (log), lost w cause v → lost { w with log } cause v
  causes_refl : ∀ cause, causes cause cause

namespace Coupling

variable (C : Coupling σ)

/-- Ends of two runs: the second result is given by the first one, or both runs fail for causes that
answer to each other, or the second run was stopped. -/
inductive Ends (g : α → β) : Except Failure α × World σ → Except Failure β × World σ → Prop
  | done {a : α} {w v : World σ} : C.worlds w v → Ends g (.ok a, w) (.ok (g a), v)
  | failed {failure other : Failure} {w v : World σ} :
      List.Forall₂ C.causes failure.chain other.chain → C.worlds w v →
      Ends g (.error failure, w) (.error other, v)
  | lost {result : Except Failure α} {failure : Failure} {w v : World σ} :
      C.lost w failure.root v → Ends g (result, w) (.error failure, v)

/-- Whether two pieces of work are coupled: from worlds that answer to each other they end alike,
and the first one loses nothing when it goes on alone. -/
structure Couples (g : α → β) (work : Run σ α) (other : Run σ β) : Prop where
  ends : ∀ w v, C.worlds w v → C.Ends g (work w) (other v)
  keeps : ∀ w cause v, C.lost w cause v → C.lost (work w).2 cause v

variable {C}

/-! ## Ends -/

theorem Ends.under {g : α → β} {cause cause' : Cause} (hcause : C.causes cause cause')
    {work : Except Failure α × World σ} {other : Except Failure β × World σ}
    (h : C.Ends g work other) :
    C.Ends g (work.1.mapError (Failure.under cause), work.2)
      (other.1.mapError (Failure.under cause'), other.2) := by
  cases h with
  | done hworlds => exact .done hworlds
  | failed hchain hworlds => exact .failed (.cons hcause hchain) hworlds
  | lost hlost => exact .lost hlost

/-- Where causes answer to themselves alone, the results are the same, or the second run was
stopped. -/
theorem Ends.same (hcauses : C.causes = Eq) {work other : Except Failure α × World σ}
    (h : C.Ends id work other) :
    (other.1 = work.1 ∧ C.worlds work.2 other.2) ∨
      ∃ failure, other.1 = .error failure ∧ C.lost work.2 failure.root other.2 := by
  cases h with
  | done hworlds => exact .inl ⟨rfl, hworlds⟩
  | @failed failure other _ _ hchain hworlds =>
    rw [hcauses, List.forall₂_eq_eq_eq] at hchain
    obtain ⟨outermost, deeper⟩ := failure
    obtain ⟨outermost', deeper'⟩ := other
    obtain ⟨rfl, rfl⟩ := List.cons.inj hchain
    exact .inl ⟨rfl, hworlds⟩
  | lost hlost => exact .inr ⟨_, rfl, hlost⟩

/-! ## Parts of work -/

namespace Couples

variable {g : α → β} {work : Run σ α} {other : Run σ β}

/-- Work that leaves the world alone. -/
theorem result (result : Except Failure α) (g : α → β) :
    C.Couples g (fun w => (result, w)) (fun v => (result.map g, v)) where
  ends := by
    intro w v hworlds
    cases result with
    | ok a => exact .done hworlds
    | error failure =>
      exact .failed (List.forall₂_same.mpr fun cause _ => C.causes_refl cause) hworlds
  keeps _ _ _ hlost := hlost

theorem pure (g : α → β) (a : α) : C.Couples g (Pure.pure a) (Pure.pure (g a)) :=
  result (.ok a) g

theorem say (level : Log.Level) (speaker : Log.Speaker) (message message' : String) :
    C.Couples id (Run.say level speaker message) (Run.say level speaker message') where
  ends _ _ hworlds := .done (a := ()) (C.worlds_log _ _ hworlds)
  keeps _ _ _ hlost := C.lost_log _ hlost

theorem bind {h : γ → δ} {next : α → Run σ γ} {next' : β → Run σ δ} (hwork : C.Couples g work other)
    (hnext : ∀ a, C.Couples h (next a) (next' (g a))) :
    C.Couples h (work >>= next) (other >>= next') where
  ends := by
    intro w v hworlds
    have hends := hwork.ends w v hworlds
    rw [Run.bind_apply, Run.bind_apply]
    generalize work w = x at hends ⊢
    generalize other v = y at hends ⊢
    cases hends with
    | done hafter => exact (hnext _).ends _ _ hafter
    | failed hchain hafter => exact .failed hchain hafter
    | @lost result failure w v hlost =>
      cases result with
      | ok a => exact .lost ((hnext a).keeps _ _ _ hlost)
      | error _ => exact .lost hlost
  keeps := by
    intro w cause v hlost
    have hafter := hwork.keeps w cause v hlost
    rw [Run.bind_apply]
    cases (work w).1 with
    | ok a => exact (hnext a).keeps _ _ _ hafter
    | error _ => exact hafter

/-- What is said to the log is no part of what answers to each other. -/
theorem after_say {h : γ → δ} {level : Log.Level} {speaker : Log.Speaker}
    {message message' : String} {next : Unit → Run σ γ} {next' : Unit → Run σ δ}
    (hnext : C.Couples h (next ()) (next' ())) :
    C.Couples h (Run.say level speaker message >>= next)
      (Run.say level speaker message' >>= next') :=
  (say level speaker message message').bind fun _ => hnext

theorem under {cause cause' : Cause} (hcause : C.causes cause cause')
    (hwork : C.Couples g work other) :
    C.Couples g (Run.under cause work) (Run.under cause' other) where
  ends := by
    intro w v hworlds
    rw [Run.under_apply, Run.under_apply]
    exact (hwork.ends w v hworlds).under hcause
  keeps := by
    intro w root v hlost
    rw [Run.under_apply]
    exact hwork.keeps w root v hlost

theorem during (step : Activity) (hwork : C.Couples g work other) :
    C.Couples g (Run.during step work) (Run.during step other) :=
  hwork.under (C.causes_refl _)

theorem underAll (causes : List Cause) (hwork : C.Couples g work other) :
    C.Couples g (causes.foldr Run.under work) (causes.foldr Run.under other) := by
  induction causes with
  | nil => exact hwork
  | cons cause rest ih => exact ih.under (C.causes_refl cause)

end Couples

/-! ## Calls -/

namespace Couples

/-- What is taken in of deliveries that end alike and are as long as each other. -/
theorem receive {d d' : Delivery} (hwrite : C.Couples id (Run.write d.bytes) (Run.write d'.bytes))
    (hsettle : C.Couples id Run.settle Run.settle) (hlength : d'.bytes.length = d.bytes.length)
    (hending : d'.ending = d.ending) (hrefusal : d'.refusal = d.refusal)
    (hsettles : d'.settles = d.settles) :
    C.Couples id (Run.receive d) (Run.receive d') := by
  rw [Run.receive_eq, Run.receive_eq, Run.take, Run.take, hlength, hending, hrefusal, hsettles]
  have hpart : C.Couples id (if d.settles then Run.settle else Pure.pure ())
      (if d.settles then Run.settle else Pure.pure ()) := by
    cases d.settles with
    | true => exact hsettle
    | false => exact .pure id ()
  refine ((hwrite.bind fun _ => hpart).underAll d.refusal).bind fun _ => ?_
  have hend := result (C := C) (d.ending.map fun () => d.bytes.length) id
  rwa [Except.map_id] at hend

/-- Two calls whose results are asked for. The second result is given by the first one. -/
theorem ask {g : Bytes → Bytes} {exchange exchange' : Except Failure Bytes → Exchange}
    {answer answer' : Surroundings σ → Reply × Surroundings σ}
    (hworlds : ∀ w v, C.worlds w v →
      (answer' v.toSurroundings).1.result = (answer w.toSurroundings).1.result.map g ∧
        C.worlds
          (w.heard (answer w.toSurroundings).2 (exchange (answer w.toSurroundings).1.result))
          (v.heard (answer' v.toSurroundings).2 (exchange' (answer' v.toSurroundings).1.result)))
    (hlost : ∀ w cause v, C.lost w cause v → ∀ around e, C.lost (w.heard around e) cause v) :
    C.Couples g (Run.ask exchange answer) (Run.ask exchange' answer') where
  ends := by
    intro w v h
    obtain ⟨hresult, hafter⟩ := hworlds w v h
    have hends := (result (C := C) (answer w.toSurroundings).1.result g).ends _ _
      (C.worlds_log (w.log ++ (answer w.toSurroundings).1.log)
        (v.log ++ (answer' v.toSurroundings).1.log) hafter)
    rw [← hresult] at hends
    exact hends
  keeps w cause v h := C.lost_log _ (hlost w cause v h _ _)

/-- Two calls that stream to the sink. The second delivery is given by the first one. -/
theorem stream {g : Delivery → Delivery} {exchange exchange' : Delivery → Exchange}
    {answer answer' : Surroundings σ → Delivery × Surroundings σ}
    (hworlds : ∀ w v, C.worlds w v →
      (answer' v.toSurroundings).1 = g (answer w.toSurroundings).1 ∧
        C.worlds (w.heard (answer w.toSurroundings).2 (exchange (answer w.toSurroundings).1))
          (v.heard (answer' v.toSurroundings).2 (exchange' (answer' v.toSurroundings).1)))
    (hlost : ∀ w cause v, C.lost w cause v → ∀ around e, C.lost (w.heard around e) cause v)
    (hreceive : ∀ d, C.Couples id (Run.receive d) (Run.receive (g d))) :
    C.Couples id (Run.stream exchange answer) (Run.stream exchange' answer') where
  ends := by
    intro w v h
    obtain ⟨hdelivery, hafter⟩ := hworlds w v h
    have hends := (hreceive (answer w.toSurroundings).1).ends _ _
      (C.worlds_log (w.log ++ (answer w.toSurroundings).1.log)
        (v.log ++ (answer' v.toSurroundings).1.log) hafter)
    rw [← hdelivery] at hends
    exact hends
  keeps w cause v h := (hreceive _).keeps _ _ _ (C.lost_log _ (hlost w cause v h _ _))

end Couples

end Coupling

end MaskedDump
