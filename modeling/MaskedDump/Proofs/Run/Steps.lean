import MaskedDump.Proofs.Run.Plan

/-!
# Steps

A step of some work is a call or a text, and its place in the work: the table whose block it belongs
to, and the activity that it is. A call can fail, and the sink can refuse a text or a part of a
stream. The failure that comes of it is the step's own. On its way out of the work it gets the
causes of the step on top: that the table could not be exported, and that the activity failed.

So some steps have many courses. They are given by induction over the steps, and what is to be known
of a course is read off in that way: the step that broke off, the calls and the output, and the
courses of the parts.

Results:
* `Reports.single`: what a single step can do;
* `reports_append_iff`, `Reports.seq`: the courses of steps in two parts;
* `Reports.under`: how a course changes with a cause on top of its steps;
* `Reports.whole`, `Reports.breaksOff`: what a course tells of its steps;
* `Reports.failsFast`: what it tells of them as a plan, if the sink takes everything.
-/

namespace MaskedDump

variable {σ τ α β : Type}

/-! ## Answers -/

/-- Whether some collaborators answer so, in some state. -/
inductive Responder.Answers (c : Responder τ) : Exchange → Prop
  | query (sql : Bytes) (s : τ) : Answers c (.query sql (c.query sql s).1.result)
  | copyOut (sql : Bytes) (s : τ) : Answers c (.copyOut sql (c.copyOut sql s).1)
  | dump (args : List Bytes) (s : τ) : Answers c (.dump args (c.dump args s).1.result)
  | dumpInto (args : List Bytes) (s : τ) : Answers c (.dumpInto args (c.dumpInto args s).1)

/-- How a stream breaks off: what the sink has taken of it, and the failure. -/
inductive Delivery.Fails (d : Delivery) : Bytes → Failure → Prop
  | ended {failure : Failure} : d.ending = .error failure → Fails d d.bytes failure
  | refused {part : Bytes} {error : SystemError} : part <+: d.bytes →
      Fails d part ((Failure.ofSystem error).underAll d.refusal)

/-- A stream that breaks off has one of the courses of a stream. -/
theorem Delivery.Fails.streamed {d : Delivery} {part : Bytes} {own : Failure}
    (h : d.Fails part own) (exchange : Delivery → Exchange) (causes : List Cause) :
    Course.Streamed exchange causes ⟨[exchange d], part, .error (own.underAll causes)⟩ := by
  cases h with
  | ended hended => exact .failed hended
  | refused hpart => exact .cut hpart

/-- How a call breaks off: what the sink has taken of it, and the failure. -/
def Exchange.Fails : Exchange → Bytes → Failure → Prop
  | query _ result, part, own => part = [] ∧ result = .error own
  | copyOut _ rows, part, own => rows.Fails part own
  | dump _ result, part, own => part = [] ∧ result = .error own
  | dumpInto _ text, part, own => text.Fails part own

/-- How a call or a text breaks off: what the sink has taken of it, and the failure. -/
def Event.Fails : Event → Bytes → Failure → Prop
  | call e, part, own => e.Fails part own
  | text bs, part, own => part <+: bs ∧ ∃ error, own = Failure.ofSystem error

/-- Whether a call or a text is done: a call was answered without a failure. -/
def Event.Done : Event → Prop
  | call e => e.Succeeded
  | text _ => True

/-- Whether a call or a text breaks off though the sink takes all of it: a call has failed. -/
def Event.FailsItself : Event → Bytes → Prop
  | call e, part => ¬ e.Succeeded ∧ part = e.streamed
  | text _, _ => False

/-! ## Places -/

/-- A call or a text, and its place in the work. -/
structure Step where
  event : Event
  /-- The table whose block the step belongs to. -/
  table? : Option Identifier := none
  /-- The activity that the step is. -/
  activity? : Option Activity := none

namespace Step

/-- What is put on top of a failure of the step, the table outermost. -/
def causes (step : Step) : List Cause :=
  (step.table?.map fun table => .tableExport table.sanitized).toList
    ++ (step.activity?.map .activity).toList

/-- The step as a part of the block of a table. -/
def forTable (table : Identifier) (step : Step) : Step := { step with table? := some table }

end Step

/-- The calls and texts of some steps. -/
def eventsOf (steps : List Step) : List Event := steps.map Step.event

@[simp] theorem eventsOf_append (steps rest : List Step) :
    eventsOf (steps ++ rest) = eventsOf steps ++ eventsOf rest := List.map_append

/-- The calls of some steps are the steps that are calls. -/
theorem mem_callsOf_iff {steps : List Step} {e : Exchange} :
    e ∈ callsOf (eventsOf steps) ↔ ∃ step ∈ steps, step.event = .call e := by
  have hcall : ∀ event : Event, event.exchange? = some e ↔ event = .call e := by
    rintro (_ | _) <;> simp [Event.exchange?]
  rw [callsOf, eventsOf, List.filterMap_map, List.mem_filterMap]
  exact exists_congr fun step => and_congr_right fun _ => hcall step.event

/-! ## Reports -/

/-- What is known of work that broke off: the steps that were done, and the one that was not. -/
structure BreaksOff (steps done : List Step) (step : Step) (own : Failure) (made : List Exchange)
    (written : Bytes) (failure : Failure) : Prop where
  planned : ∃ rest, steps = done ++ step :: rest
  /-- All calls before it were answered without a failure. -/
  succeeded : ∀ e ∈ callsOf (eventsOf done), e.Succeeded
  /-- Nothing was called behind it. -/
  calls : made = callsOf (eventsOf (done ++ [step]))
  /-- The output ends with what the sink has taken of it. -/
  broken : ∃ part, step.event.Fails part own ∧ written = outputOf (eventsOf done) ++ part
  /-- What is reported is its own failure, with its causes on top. -/
  reported : failure = own.underAll step.causes

/-- Courses of some steps, for a value: all of them, or all before the first one that breaks off.
Unless the sink `refuses` something, this is a call that has failed. -/
inductive Reports (refuses : Prop) (value : α) : List Step → Course α → Prop
  | nil : Reports refuses value [] ⟨[], [], .ok value⟩
  | cons {step : Step} {rest : List Step} {made : List Exchange} {written : Bytes}
      {result : Except Failure α} : step.event.Done →
      Reports refuses value rest ⟨made, written, result⟩ →
      Reports refuses value (step :: rest)
        ⟨callsOf [step.event] ++ made, step.event.output ++ written, result⟩
  | broken {step : Step} {rest : List Step} {part : Bytes} {own : Failure} :
      step.event.Fails part own → (refuses ∨ step.event.FailsItself part) →
      Reports refuses value (step :: rest)
        ⟨callsOf [step.event], part, .error (own.underAll step.causes)⟩

theorem eventsOf_cons (step : Step) (rest : List Step) :
    eventsOf (step :: rest) = [step.event] ++ eventsOf rest := rfl

theorem outputOf_singleton (event : Event) : outputOf [event] = event.output :=
  List.flatMap_singleton _ _

/-- A step that broke off at once. -/
theorem breaksOff_first {step : Step} {rest : List Step} {part : Bytes} {own : Failure}
    (h : step.event.Fails part own) :
    BreaksOff (step :: rest) [] step own (callsOf [step.event]) part
      (own.underAll step.causes) where
  planned := ⟨rest, rfl⟩
  succeeded := nofun
  calls := rfl
  broken := ⟨part, h, rfl⟩
  reported := rfl

theorem Event.Done.succeeded {event : Event} (h : event.Done) :
    ∀ e ∈ callsOf [event], e.Succeeded := by
  cases event with
  | call e => exact List.forall_mem_singleton.mpr h
  | text bs => nofun

/-- Steps that break off behind one that was done. -/
theorem BreaksOff.cons {first step : Step} {steps done : List Step} {own failure : Failure}
    {made : List Exchange} {written : Bytes} (hfirst : first.event.Done)
    (h : BreaksOff steps done step own made written failure) :
    BreaksOff (first :: steps) (first :: done) step own (callsOf [first.event] ++ made)
      (first.event.output ++ written) failure := by
  obtain ⟨⟨more, hmore⟩, hsucceeded, hmade, ⟨part, hfails, hpart⟩, hreported⟩ := h
  refine ⟨⟨more, ?_⟩, ?_, ?_, ⟨part, hfails, ?_⟩, hreported⟩
  · rw [hmore, List.cons_append]
  · rw [eventsOf_cons, callsOf_append]
    exact List.forall_mem_append.mpr ⟨hfirst.succeeded, hsucceeded⟩
  · rw [hmade, List.cons_append, eventsOf_cons, callsOf_append]
  · rw [hpart, eventsOf_cons, outputOf_append, outputOf_singleton, List.append_assoc]

/-- Steps in two parts: the courses of the first part as far as it breaks off, and those of the
second part behind the first one. -/
theorem reports_append_iff {refuses : Prop} {steps rest : List Step} {value : α} {other : β}
    {c : Course β} :
    Reports refuses other (steps ++ rest) c ↔
      Course.Seq (Reports refuses value steps) (fun _ => Reports refuses other rest) c := by
  induction steps generalizing c with
  | nil =>
    have hnothing : Reports refuses value [] ⟨[], [], .ok value⟩ := .nil
    refine ⟨fun h => .resumed hnothing h, fun h => ?_⟩
    cases h with
    | stopped hfirst => nomatch hfirst
    | resumed hfirst hsecond =>
      cases hfirst
      exact hsecond
  | cons step steps ih =>
    constructor
    · intro h
      cases h with
      | cons hdone hrest =>
        generalize hcourse : (⟨_, _, _⟩ : Course β) = c at hrest
        cases ih.mp hrest with
        | stopped hfirst =>
          cases hcourse
          exact .stopped (.cons hdone hfirst)
        | resumed hfirst hsecond =>
          obtain ⟨rfl, rfl, rfl⟩ := Course.mk.inj hcourse
          have hresumed : Course.Seq (Reports refuses value (step :: steps))
              (fun _ => Reports refuses other rest) _ := .resumed (.cons hdone hfirst) hsecond
          simpa [Course.after] using hresumed
      | broken hfails hself => exact .stopped (.broken hfails hself)
    · intro h
      cases h with
      | stopped hfirst =>
        cases hfirst with
        | cons hdone hfirst => exact .cons hdone (ih.mpr (.stopped hfirst))
        | broken hfails hself => exact .broken hfails hself
      | resumed hfirst hsecond =>
        cases hfirst with
        | cons hdone hfirst =>
          have hresumed := Reports.cons hdone (ih.mpr (.resumed hfirst hsecond))
          simpa [Course.after] using hresumed

namespace Reports

variable {refuses : Prop} {steps rest : List Step} {value : α} {made : List Exchange}
  {written : Bytes}

/-- What was done as a whole, with the value that the steps are for. -/
theorem whole {a : α} (h : Reports refuses value steps ⟨made, written, .ok a⟩) :
    a = value ∧ (∀ e ∈ callsOf (eventsOf steps), e.Succeeded) ∧
      made = callsOf (eventsOf steps) ∧ written = outputOf (eventsOf steps) := by
  induction steps generalizing made written with
  | nil =>
    cases h
    exact ⟨rfl, nofun, rfl, rfl⟩
  | cons step steps ih =>
    cases h with
    | cons hdone hrest =>
      obtain ⟨hvalue, hsucceeded, rfl, rfl⟩ := ih hrest
      rw [eventsOf_cons, callsOf_append, outputOf_append, outputOf_singleton]
      exact ⟨hvalue, List.forall_mem_append.mpr ⟨hdone.succeeded, hsucceeded⟩, rfl, rfl⟩

/-- What broke off, with the step that did. -/
theorem breaksOff {failure : Failure}
    (h : Reports refuses value steps ⟨made, written, .error failure⟩) :
    ∃ done step own, BreaksOff steps done step own made written failure ∧
      (refuses ∨ ∃ e, step.event = .call e ∧ ¬ e.Succeeded ∧
        written = outputOf (eventsOf done) ++ e.streamed) := by
  induction steps generalizing made written with
  | nil => nomatch h
  | cons first steps ih =>
    cases h with
    | cons hdone hrest =>
      obtain ⟨done, step, own, hbreaks, hself⟩ := ih hrest
      refine ⟨first :: done, step, own, hbreaks.cons hdone, hself.imp_right ?_⟩
      rintro ⟨e, hcall, hfailed, rfl⟩
      refine ⟨e, hcall, hfailed, ?_⟩
      rw [eventsOf_cons, outputOf_append, outputOf_singleton, List.append_assoc]
    | @broken _ _ part own hfails hself =>
      refine ⟨[], first, own, breaksOff_first hfails, hself.imp_right fun hself => ?_⟩
      cases hevent : first.event with
      | call e =>
        rw [hevent] at hself
        exact ⟨e, rfl, hself.1, hself.2⟩
      | text bs =>
        rw [hevent] at hself
        exact hself.elim

/-- A single step is done or breaks off. -/
theorem single {step : Step} {c : Course α} (h : Reports refuses value [step] c) :
    (step.event.Done ∧ c = ⟨callsOf [step.event], step.event.output, .ok value⟩) ∨
      ∃ part own, step.event.Fails part own ∧
        c = ⟨callsOf [step.event], part, .error (own.underAll step.causes)⟩ := by
  cases h with
  | cons hdone hnil =>
    cases hnil
    rw [List.append_nil, List.append_nil]
    exact .inl ⟨hdone, rfl⟩
  | broken hfails => exact .inr ⟨_, _, hfails, rfl⟩

/-- A single text, for a sink that may refuse some of it. -/
theorem wrote {step : Step} {bs : Bytes} {c : Course Unit} (h : Reports refuses () [step] c)
    (hevent : step.event = .text bs) : Course.Wrote bs step.causes c := by
  rcases h.single with ⟨-, rfl⟩ | ⟨part, own, hfails, rfl⟩
  · rw [hevent]
    exact .whole
  · rw [hevent] at hfails ⊢
    obtain ⟨hpart, error, rfl⟩ := hfails
    exact .cut hpart

/-- A single question, whose answer is read by `read`. -/
theorem asked {step : Step} {sql : Bytes} {result : Except Failure Bytes} {read : Bytes → α}
    {c : Course α} (h : Reports refuses (read (answered result)) [step] c)
    (hevent : step.event = .call (.query sql result)) :
    Course.Asked (.query sql) step.causes read c := by
  rcases h.single with ⟨hdone, rfl⟩ | ⟨part, own, hfails, rfl⟩
  · rw [hevent] at hdone ⊢
    obtain ⟨reply, rfl⟩ := hdone
    exact .answered reply
  · rw [hevent] at hfails ⊢
    obtain ⟨rfl, rfl⟩ := hfails
    exact .failed own

/-- The courses of steps in two parts are among the courses of work in two parts. -/
theorem seq {other : β} {P : Course α → Prop} {Q : α → Course β → Prop} {c : Course β}
    (h : Reports refuses other (steps ++ rest) c) (hP : ∀ c, Reports refuses value steps c → P c)
    (hQ : ∀ c, Reports refuses other rest c → Q value c) : Course.Seq P Q c := by
  cases reports_append_iff.mp h with
  | stopped hfirst => exact .stopped (hP _ hfirst)
  | resumed hfirst hsecond =>
    obtain rfl := hfirst.whole.1
    exact .resumed (hP _ hfirst) (hQ _ hsecond)

theorem seq_cons {other : β} {step : Step} {P : Course α → Prop} {Q : α → Course β → Prop}
    {c : Course β} (h : Reports refuses other (step :: rest) c)
    (hP : ∀ c, Reports refuses value [step] c → P c)
    (hQ : ∀ c, Reports refuses other rest c → Q value c) : Course.Seq P Q c :=
  seq h hP hQ

/-- A cause on top is one that each step gets on top. -/
theorem under {c : Course α} {cause : Cause} {label : Step → Step}
    (hevent : ∀ step, (label step).event = step.event) (h : Reports refuses value steps c)
    (hcauses : ∀ step ∈ steps, (label step).causes = cause :: step.causes) :
    Reports refuses value (steps.map label) (c.under cause) := by
  induction h with
  | nil => exact .nil
  | @cons step rest made written result hdone _ ih =>
    obtain ⟨-, hrest⟩ := List.forall_mem_cons.mp hcauses
    rw [← hevent] at hdone ⊢
    exact .cons hdone (ih hrest)
  | @broken step rest part own hfails hself =>
    obtain ⟨hstep, -⟩ := List.forall_mem_cons.mp hcauses
    have htop : own.underAll (label step).causes = (own.underAll step.causes).under cause := by
      rw [hstep]
      rfl
    rw [← hevent] at hfails hself ⊢
    have hbroken : Reports refuses value (label step :: rest.map label) _ := .broken hfails hself
    rwa [htop] at hbroken

/-- Unless the sink refuses something, the steps are carried out as a plan. -/
theorem failsFast {c : Course α} (h : Reports False value steps c) :
    FailsFast (eventsOf steps) c.exchanges c.written (∃ a, c.result = .ok a) := by
  obtain ⟨made, written, result⟩ := c
  cases result with
  | ok a =>
    obtain ⟨-, hsucceeded, rfl, rfl⟩ := h.whole
    exact .of_whole hsucceeded ⟨a, rfl⟩
  | error failure =>
    obtain ⟨done, step, own, hbreaks, hno | ⟨e, hcall, hfailed, rfl⟩⟩ := h.breaksOff
    · exact hno.elim
    obtain ⟨⟨rest, rfl⟩, hsucceeded, rfl, -, -⟩ := hbreaks
    have hplan : eventsOf (done ++ step :: rest) =
        eventsOf done ++ .call e :: eventsOf rest := by
      rw [eventsOf_append, eventsOf_cons, hcall, List.singleton_append]
    have hmade : callsOf (eventsOf (done ++ [step])) = callsOf (eventsOf done) ++ [e] := by
      rw [eventsOf_append, callsOf_append, eventsOf_cons, hcall]
      rfl
    rw [hmade]
    exact .of_broken hplan hsucceeded hfailed nofun

end Reports

end MaskedDump
