import MaskedDump.Proofs.Run.Course

/-!
# Plans

What work is going to do can be laid down as a plan: its calls, each with the answer to it, and the
texts that it writes, in their order. A run whose sink takes everything carries out its plan from
the beginning on. It ends behind the first call that fails, or when the plan is done. Calls that are
never made have answers in a plan all the same, arbitrary ones, so that the plan is complete.

Results:
* `FailsFast`: what carrying out a plan means for the calls, the result and the output;
* `FailsFast.of_whole`, `FailsFast.of_broken`: a plan that was carried out is of this kind.
-/

namespace MaskedDump

/-! ## Exchanges that fail -/

namespace Exchange

/-- Whether a call was answered without a failure. -/
def Succeeded : Exchange → Prop
  | query _ result => ∃ reply, result = .ok reply
  | copyOut _ rows => rows.ending = .ok ()
  | dump _ result => ∃ text, result = .ok text
  | dumpInto _ text => text.ending = .ok ()

/-- The bytes that a call streamed to the sink. -/
def streamed : Exchange → Bytes
  | query _ _ => []
  | copyOut _ rows => rows.bytes
  | dump _ _ => []
  | dumpInto _ text => text.bytes

end Exchange

/-! ## Events -/

/-- A step of a plan. -/
inductive Event
  /-- A call, and the answer to it. -/
  | call (e : Exchange)
  /-- A text that is written. -/
  | text (bs : Bytes)

namespace Event

/-- The exchange of a call. -/
def exchange? : Event → Option Exchange
  | call e => some e
  | text _ => none

/-- What the sink takes in. -/
def output : Event → Bytes
  | call e => e.streamed
  | text bs => bs

end Event

/-- The calls of a plan, with the answers to them. -/
def callsOf (plan : List Event) : List Exchange := plan.filterMap Event.exchange?

/-- What the sink takes in when a plan is carried out. -/
def outputOf (plan : List Event) : Bytes := plan.flatMap Event.output

@[simp] theorem callsOf_nil : callsOf [] = [] := rfl

@[simp] theorem callsOf_append (plan rest : List Event) :
    callsOf (plan ++ rest) = callsOf plan ++ callsOf rest := List.filterMap_append

@[simp] theorem callsOf_call (e : Exchange) (rest : List Event) :
    callsOf (.call e :: rest) = e :: callsOf rest := rfl

@[simp] theorem callsOf_text (bs : Bytes) (rest : List Event) :
    callsOf (.text bs :: rest) = callsOf rest := rfl

@[simp] theorem outputOf_append (plan rest : List Event) :
    outputOf (plan ++ rest) = outputOf plan ++ outputOf rest := List.flatMap_append

/-- A call of a plan is found by the number of calls before it. -/
theorem eq_of_callsOf_eq {before before' after after' : List Event} {e e' : Exchange}
    (h : before ++ .call e :: after = before' ++ .call e' :: after')
    (hcalls : (callsOf before).length = (callsOf before').length) : before = before' := by
  induction before generalizing before' with
  | nil =>
    cases before' with
    | nil => rfl
    | cons event rest =>
      obtain ⟨rfl, -⟩ := List.cons.inj h
      simp at hcalls
  | cons event rest ih =>
    cases before' with
    | nil =>
      obtain ⟨rfl, -⟩ := List.cons.inj h
      simp at hcalls
    | cons event' rest' =>
      obtain ⟨rfl, hrest⟩ := List.cons.inj h
      cases event with
      | call e =>
        rw [callsOf_call, callsOf_call, List.length_cons, List.length_cons] at hcalls
        rw [ih hrest (Nat.succ.inj hcalls)]
      | text bs =>
        rw [callsOf_text, callsOf_text] at hcalls
        rw [ih hrest hcalls]

/-! ## Carrying out a plan -/

/-- What a run made of a plan, told by its calls, its output, and whether it succeeded. -/
structure FailsFast (plan : List Event) (made : List Exchange) (output : Bytes)
    (succeeded : Prop) : Prop where
  /-- The calls are those of the plan as far as they came. -/
  calls : made <+: callsOf plan
  /-- The run succeeds exactly when all calls were made and none of them failed. -/
  succeeds : succeeded ↔ made = callsOf plan ∧ ∀ e ∈ made, e.Succeeded
  /-- If it does not, the last call failed. -/
  fails : ¬ succeeded → ∃ before e after, plan = before ++ .call e :: after ∧
    made = callsOf before ++ [e] ∧ ¬ e.Succeeded
  /-- Nothing is called behind a call that failed. -/
  stops : ∀ done e rest, made = done ++ e :: rest → ¬ e.Succeeded → rest = []
  /-- All texts and streams are in the output of a run that succeeds. -/
  whole : succeeded → output = outputOf plan
  /-- The texts and streams before a call that failed are in the output, and what the call itself
  has streamed. -/
  broken : ∀ before e after, plan = before ++ .call e :: after → made = callsOf before ++ [e] →
    ¬ e.Succeeded → output = outputOf before ++ e.streamed

namespace FailsFast

variable {plan before after : List Event} {e : Exchange} {succeeded : Prop}

/-- A plan that was carried out as a whole. -/
theorem of_whole (hcalls : ∀ e ∈ callsOf plan, e.Succeeded) (hok : succeeded) :
    FailsFast plan (callsOf plan) (outputOf plan) succeeded := by
  refine ⟨List.prefix_rfl, ⟨fun _ => ⟨rfl, hcalls⟩, fun _ => hok⟩,
    fun hfailed => absurd hok hfailed, ?_, fun _ => rfl, ?_⟩
  · rintro done e rest hmade hfailed
    have hmem : e ∈ callsOf plan := hmade ▸ List.mem_append_cons_self
    exact absurd (hcalls e hmem) hfailed
  · rintro before e after - hmade hfailed
    have hmem : e ∈ callsOf plan := hmade ▸ List.mem_concat_self
    exact absurd (hcalls e hmem) hfailed

/-- A plan that was carried out up to a call that failed. -/
theorem of_broken (hplan : plan = before ++ .call e :: after)
    (hbefore : ∀ e ∈ callsOf before, e.Succeeded) (hfailed : ¬ e.Succeeded) (hno : ¬ succeeded) :
    FailsFast plan (callsOf before ++ [e]) (outputOf before ++ e.streamed) succeeded := by
  refine ⟨?_, ⟨fun hok => absurd hok hno, ?_⟩, fun _ => ⟨before, e, after, hplan, rfl, hfailed⟩,
    ?_, fun hok => absurd hok hno, ?_⟩
  · refine ⟨callsOf after, ?_⟩
    rw [hplan, callsOf_append, callsOf_call, List.append_assoc, List.singleton_append]
  · rintro ⟨-, hall⟩
    exact absurd (hall e List.mem_concat_self) hfailed
  · rintro done other rest hmade hother
    rcases List.eq_nil_or_concat rest with rfl | ⟨rest, last, rfl⟩
    · rfl
    · rw [List.concat_eq_append, ← List.cons_append, ← List.append_assoc] at hmade
      obtain ⟨hcalls, -⟩ := List.append_inj' hmade rfl
      have hmem : other ∈ callsOf before := hcalls ▸ List.mem_append_cons_self
      exact absurd (hbefore other hmem) hother
  · intro before' other after' hplan' hmade hother
    obtain ⟨hcalls, hlast⟩ := List.append_inj' hmade rfl
    obtain rfl := List.singleton_inj.mp hlast
    rw [eq_of_callsOf_eq (hplan.symm.trans hplan') (congrArg List.length hcalls)]

end FailsFast

/-! ## Answers -/

/-- What is read of an answer: nothing, if the call failed. -/
def answered (result : Except Failure Bytes) : Bytes := result.toOption.getD []

@[simp] theorem answered_ok (reply : Bytes) : answered (.ok reply) = reply := rfl

end MaskedDump
