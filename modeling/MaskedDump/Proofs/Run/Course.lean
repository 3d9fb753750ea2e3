import MaskedDump.Run.Basic

/-!
# Courses of runs

What a run did can be told without its world: the exchanges it held with the collaborators, the
bytes it added to the sink, and its result. These three are its course. The collaborators are
arbitrary, and so is the sink, so a piece of work has many courses. `Follows work P` says that from
every world the course of `work` is one of those in `P`.

Results:
* `Run.bind_apply`, `Run.under_apply`: what work in two parts and work under a cause do;
* `write_follows`, `take_follows`: a sink that refuses has taken a beginning of the bytes, one that
  does not has taken all of them;
* `Run.receive_eq`: to receive a delivery is to have it taken, and then to end as it does.
-/

namespace MaskedDump

/-! ## Kinds of exchanges -/

namespace Exchange

/-- Whether the result of a statement was asked for. -/
def IsQuery : Exchange → Prop
  | query _ _ => True
  | _ => False

/-- Whether the rows of a statement were asked for. -/
def IsCopy : Exchange → Prop
  | copyOut _ _ => True
  | _ => False

/-- The arguments of a call to the export tool. -/
def exportArgs : Exchange → Option (List Bytes)
  | dump args _ => some args
  | dumpInto args _ => some args
  | _ => none

/-- What was streamed to the sink. -/
def delivery? : Exchange → Option Delivery
  | copyOut _ rows => some rows
  | dumpInto _ text => some text
  | _ => none

theorem IsQuery.not_isCopy {e : Exchange} (h : e.IsQuery) : ¬ e.IsCopy := by
  cases e with
  | query => exact id
  | copyOut | dump | dumpInto => exact h.elim

theorem IsQuery.exportArgs {e : Exchange} (h : e.IsQuery) : e.exportArgs = none := by
  cases e with
  | query => rfl
  | copyOut | dump | dumpInto => exact h.elim

theorem IsCopy.not_mem {exchanges : List Exchange} (h : ∀ e ∈ exchanges, ¬ e.IsCopy)
    (sql : Bytes) (rows : Delivery) : copyOut sql rows ∉ exchanges :=
  fun hmem => h _ hmem trivial

end Exchange

/-! ## Courses -/

/-- What some work did. -/
structure Course (α : Type) where
  exchanges : List Exchange
  written : Bytes
  result : Except Failure α

namespace Course

variable {α β : Type}

/-- A course with a cause on top of its failure, if it failed. -/
def under (cause : Cause) (c : Course α) : Course α :=
  { c with result := c.result.mapError (Failure.under cause) }

/-- A course that goes on from some exchanges and some bytes. -/
def after (exchanges : List Exchange) (written : Bytes) (c : Course α) : Course α :=
  ⟨exchanges ++ c.exchanges, written ++ c.written, c.result⟩

/-- Courses of work in two parts. The second part is not begun when the first one fails. -/
inductive Seq (P : Course α → Prop) (Q : α → Course β → Prop) : Course β → Prop
  | stopped {exchanges : List Exchange} {written : Bytes} {failure : Failure} :
      P ⟨exchanges, written, .error failure⟩ → Seq P Q ⟨exchanges, written, .error failure⟩
  | resumed {exchanges : List Exchange} {written : Bytes} {a : α} {c : Course β} :
      P ⟨exchanges, written, .ok a⟩ → Q a c → Seq P Q (c.after exchanges written)

theorem Seq.of_ok {P : Course α → Prop} {Q : α → Course β → Prop} {exchanges : List Exchange}
    {written : Bytes} {b : β} (h : Seq P Q ⟨exchanges, written, .ok b⟩) :
    ∃ e w a e' w', P ⟨e, w, .ok a⟩ ∧ Q a ⟨e', w', .ok b⟩ ∧
      exchanges = e ++ e' ∧ written = w ++ w' := by
  generalize hc : (⟨exchanges, written, .ok b⟩ : Course β) = c at h
  cases h with
  | stopped _ => simp at hc
  | @resumed e w a c hp hq =>
    simp only [after, mk.injEq] at hc
    obtain ⟨he, hw, hr⟩ := hc
    exact ⟨e, w, a, c.exchanges, c.written, hp, hr ▸ hq, he, hw⟩

/-- What holds of all exchanges of both parts holds of all exchanges. Both are parts of a longer
record. -/
theorem Seq.forall_exchanges {P : Course α → Prop} {Q : α → Course β → Prop}
    {good : Exchange → Prop} {record : List Exchange} {c : Course β} (h : Seq P Q c)
    (hrecord : c.exchanges <:+: record)
    (hP : ∀ c, P c → c.exchanges <:+: record → ∀ e ∈ c.exchanges, good e)
    (hQ : ∀ a c, Q a c → c.exchanges <:+: record → ∀ e ∈ c.exchanges, good e) :
    ∀ e ∈ c.exchanges, good e := by
  cases h with
  | stopped hp => exact hP _ hp hrecord
  | @resumed exchanges _ _ c hp hq =>
    have hfirst : exchanges <:+: record := (List.prefix_append _ _).isInfix.trans hrecord
    have hsecond : c.exchanges <:+: record := (List.suffix_append _ _).isInfix.trans hrecord
    exact List.forall_mem_append.mpr ⟨hP _ hp hfirst, hQ _ _ hq hsecond⟩

/-! ## Elementary courses -/

/-- Courses of a write: all is taken, or a beginning is and the sink refuses the rest. -/
inductive Wrote (bs : Bytes) (causes : List Cause) : Course Unit → Prop
  | whole : Wrote bs causes ⟨[], bs, .ok ()⟩
  | cut {part : Bytes} {e : SystemError} : part <+: bs →
      Wrote bs causes ⟨[], part, .error ((Failure.ofSystem e).underAll causes)⟩

/-- Courses of a call whose result is asked for and read by `read`. -/
inductive Asked (exchange : Except Failure Bytes → Exchange) (causes : List Cause)
    (read : Bytes → α) : Course α → Prop
  | answered (reply : Bytes) :
      Asked exchange causes read ⟨[exchange (.ok reply)], [], .ok (read reply)⟩
  | failed (failure : Failure) :
      Asked exchange causes read
        ⟨[exchange (.error failure)], [], .error (failure.underAll causes)⟩

/-- Courses of a call that streams to the sink. The collaborator ends it well or with a failure, or
the sink refuses some of it. -/
inductive Streamed (exchange : Delivery → Exchange) (causes : List Cause) : Course Nat → Prop
  | whole {d : Delivery} : d.ending = .ok () →
      Streamed exchange causes ⟨[exchange d], d.bytes, .ok d.bytes.length⟩
  | failed {d : Delivery} {failure : Failure} : d.ending = .error failure →
      Streamed exchange causes ⟨[exchange d], d.bytes, .error (failure.underAll causes)⟩
  | cut {d : Delivery} {part : Bytes} {error : SystemError} : part <+: d.bytes →
      Streamed exchange causes
        ⟨[exchange d], part, .error (((Failure.ofSystem error).underAll d.refusal).underAll causes)⟩

end Course

open Course

/-! ## Following courses -/

variable {σ α β : Type}

/-- Whether a course tells what led from a world to a result and another world. -/
def Course.Tells (c : Course α) (before : World σ) (outcome : Except Failure α × World σ) : Prop :=
  outcome.1 = c.result ∧ outcome.2.exchanges = before.exchanges ++ c.exchanges ∧
    outcome.2.sink.content = before.sink.content ++ c.written

/-- Whether the course of some work is in `P`, whatever the world. -/
def Follows (work : Run σ α) (P : Course α → Prop) : Prop :=
  ∀ w, ∃ c, P c ∧ c.Tells w (work w)

theorem Run.bind_apply (work : Run σ α) (next : α → Run σ β) (w : World σ) :
    (work >>= next) w =
      match (work w).1 with
      | .ok a => next a (work w).2
      | .error failure => (.error failure, (work w).2) := by
  show ExceptT.bindCont next (work w).1 (work w).2 = _
  cases (work w).1 <;> rfl

theorem Run.under_apply (cause : Cause) (work : Run σ α) (w : World σ) :
    under cause work w = ((work w).1.mapError (Failure.under cause), (work w).2) := by
  unfold under
  obtain ⟨_ | _, after⟩ := work w <;> rfl

/-! ## Worlds after a call -/

/-- A world after a call: what the call has left around it, and the exchange. -/
def World.heard (w : World σ) (around : Surroundings σ) (e : Exchange) : World σ :=
  { w with toSurroundings := around, exchanges := w.exchanges ++ [e] }

/-- A course behind a call goes on from that call. -/
theorem Course.Tells.heard {w : World σ} {around : Surroundings σ} {e : Exchange}
    {log : List Log.Entry} {c : Course α} {outcome : Except Failure α × World σ}
    (h : c.Tells { w.heard around e with log } outcome) : (c.after [e] []).Tells w outcome :=
  ⟨h.1, h.2.1.trans (List.append_assoc _ _ _), h.2.2⟩

/-! ## Results -/

@[simp] theorem mapError_ok {ε ε' : Type} (f : ε → ε') (a : α) :
    (Except.ok a).mapError f = .ok a := rfl

@[simp] theorem mapError_error {ε ε' : Type} (f : ε → ε') (e : ε) :
    (Except.error e : Except ε α).mapError f = .error (f e) := rfl

instance decidableEqExcept {ε α : Type} [DecidableEq ε] [DecidableEq α] :
    DecidableEq (Except ε α)
  | .ok a, .ok b => decidable_of_iff (a = b) (by simp)
  | .error a, .error b => decidable_of_iff (a = b) (by simp)
  | .ok _, .error _ => isFalse nofun
  | .error _, .ok _ => isFalse nofun

/-! ## Requests to a sink in memory -/

theorem Run.write_unlimited {w : World σ} (h : w.sink.backing = .memory none) (bs : Bytes) :
    write bs w =
      (.ok (), { w with sink := { w.sink with content := w.sink.content ++ bs } }) := by
  rw [write, request, Sink.write_unlimited h]
  simp [World.handOver, h]

theorem Run.write_fitting {w : World σ} {limit : Nat} (h : w.sink.backing = .memory (some limit))
    {bs : Bytes} (hroom : bs.length ≤ limit - w.sink.content.length) :
    write bs w =
      (.ok (), { w with sink := { w.sink with content := w.sink.content ++ bs } }) := by
  simp [write, request, Sink.write, World.handOver, h, hroom]

theorem Run.write_exceeding {w : World σ} {limit : Nat} (h : w.sink.backing = .memory (some limit))
    {bs : Bytes} (hroom : ¬ bs.length ≤ limit - w.sink.content.length) :
    write bs w =
      (.error (Failure.ofSystem .sinkFull),
        { w with
          sink := { w.sink with
            content := w.sink.content ++ bs.take (limit - w.sink.content.length) } }) := by
  simp [write, request, Sink.write, World.handOver, h, hroom]

theorem Run.settle_memory {w : World σ} {limit : Option Nat} (h : w.sink.backing = .memory limit) :
    settle w = (.ok (), w) := by
  simp [settle, request, Sink.settle, World.handOver, h]

/-! ## Elementary work -/

/-- A request for which a sink takes a beginning of some bytes, and all of them if it grants it. -/
theorem request_follows {ask : Sink → Sink.Reaction} {bs : Bytes}
    (hask : ∀ s : Sink, ∃ part, part <+: bs ∧ (ask s).sink.content = s.content ++ part ∧
      ((ask s).result = .ok () → part = bs)) :
    Follows (σ := σ) (Run.request ask) (Wrote bs []) := by
  intro w
  obtain ⟨part, hpart, hcontent, hall⟩ := hask w.sink
  have hresult : (Run.request ask w).1 = (ask w.sink).result.mapError Failure.ofSystem := rfl
  have hexchanges : (Run.request ask w).2.exchanges = w.exchanges ++ [] := by simp [Run.request]
  cases hr : (ask w.sink).result with
  | ok u =>
    rw [hall hr] at hcontent
    exact ⟨_, .whole, by rw [hresult, hr, mapError_ok], hexchanges, hcontent⟩
  | error e =>
    exact ⟨_, .cut hpart, by rw [hresult, hr, mapError_error]; rfl, hexchanges, hcontent⟩

theorem write_follows (bs : Bytes) : Follows (σ := σ) (Run.write bs) (Wrote bs []) :=
  request_follows fun s => s.content_write bs

theorem settle_follows : Follows (σ := σ) Run.settle (Wrote [] []) :=
  request_follows fun s => ⟨[], List.prefix_rfl, by simp, fun _ => rfl⟩

/-! ## Deliveries -/

/-- What a sink is asked for a delivery. -/
def Run.take (d : Delivery) : Run σ Unit :=
  write d.bytes >>= fun _ => if d.settles then settle else pure ()

theorem Run.foldr_under_apply (causes : List Cause) (work : Run σ α) (w : World σ) :
    causes.foldr under work w = ((work w).1.mapError (Failure.underAll causes), (work w).2) := by
  induction causes with
  | nil =>
    rcases h : work w with ⟨_ | _, after⟩ <;> simp [h]
  | cons cause rest ih =>
    rw [List.foldr_cons, under_apply, ih]
    cases (work w).1 <;> rfl

/-- A delivery is taken in under its causes, and then the work ends as the delivery does. -/
theorem Run.receive_eq (d : Delivery) :
    receive (σ := σ) d =
      d.refusal.foldr under (take d) >>=
        fun _ w => (d.ending.map fun () => d.bytes.length, w) := by
  funext w
  rw [bind_apply, foldr_under_apply, take, bind_apply, receive]
  rcases hwrite : write d.bytes w with ⟨_ | _, written⟩
  · rfl
  · cases d.settles with
    | false => rfl
    | true =>
      rcases hsettle : settle written with ⟨_ | _, settled⟩ <;> simp [hsettle]

/-- Settling adds nothing to what was written. -/
theorem take_follows (d : Delivery) : Follows (σ := σ) (Run.take d) (Wrote d.bytes []) := by
  intro w
  obtain ⟨course, hwrote, hresult, hexchanges, hcontent⟩ := write_follows (σ := σ) d.bytes w
  rw [Run.take, Run.bind_apply, hresult]
  cases hwrote with
  | cut hpart => exact ⟨_, .cut hpart, rfl, hexchanges, hcontent⟩
  | whole =>
    cases d.settles with
    | false => exact ⟨_, .whole, rfl, hexchanges, hcontent⟩
    | true =>
      obtain ⟨course', hwrote', hresult', hexchanges', hcontent'⟩ :=
        settle_follows (Run.write d.bytes w).2
      rw [hexchanges, List.append_assoc] at hexchanges'
      rw [hcontent, List.append_assoc] at hcontent'
      cases hwrote' with
      | whole =>
        rw [List.append_nil] at hcontent'
        exact ⟨_, .whole, hresult', hexchanges', hcontent'⟩
      | cut hpart =>
        obtain rfl := List.prefix_nil.mp hpart
        rw [List.append_nil] at hcontent'
        exact ⟨_, .cut List.prefix_rfl, hresult', hexchanges', hcontent'⟩

end MaskedDump
