import MaskedDump.Proofs.Run.Steps

/-!
# Accounts

An account of some work says which steps it takes, and for which value. It is given once for each
piece of work, for worlds that stay among some good ones and a sink that may refuse or not. What is
to be known of a run is read off its account: that it fails at the first call that fails, what its
failure tells, and which courses it can take.

Results:
* `Accounts.bind`: work in two parts has the steps of one after those of the other;
* `Accounts.during`, `Accounts.forTable`: work under a cause has its steps in a place;
* `Conduct.query_accounts` and its like: calls and texts are steps;
* `Accounts.follows`: the courses of some work, whatever the world.
-/

namespace MaskedDump

variable {σ α β : Type}

/-! ## Worlds that stay good -/

/-- Whether worlds stay among the good ones, whatever is written and called, and their sink grants
everything unless it `refuses`. -/
structure Conduct (c : Collaborators σ) (good : World σ → Prop) (refuses : Prop) : Prop where
  say : ∀ {w} log, good w → good { w with log }
  write : ∀ {w} bs, good w →
    good (Run.write bs w).2 ∧ (refuses ∨ (Run.write bs w).1 = .ok ())
  settle : ∀ {w}, good w →
    good (Run.settle w).2 ∧ (refuses ∨ (Run.settle w).1 = .ok ())
  query : ∀ {w} sql e, good w → good (w.heard (c.query sql w.toSurroundings).2 e)
  copyOut : ∀ {w} sql e, good w → good (w.heard (c.copyOut sql w.toSurroundings).2 e)
  dump : ∀ {w} args e, good w → good (w.heard (c.dump args w.toSurroundings).2 e)
  dumpInto : ∀ {w} args e, good w → good (w.heard (c.dumpInto args w.toSurroundings).2 e)

/-- All worlds are good if the sink may refuse. -/
theorem conduct_any (c : Collaborators σ) : Conduct c (fun _ => True) True where
  say _ _ := trivial
  write _ _ := ⟨trivial, .inl trivial⟩
  settle _ := ⟨trivial, .inl trivial⟩
  query _ _ _ := trivial
  copyOut _ _ _ := trivial
  dump _ _ _ := trivial
  dumpInto _ _ _ := trivial

/-! ## Accounts -/

/-- Whether some work, from every good world to a good one, takes steps that are in `P`, and its
calls are answered by the collaborators. -/
def Accounts (c : Collaborators σ) (good : World σ → Prop) (refuses : Prop) (work : Run σ α)
    (P : List Step → α → Prop) : Prop :=
  ∀ w, good w → ∃ steps value course, P steps value ∧ Reports refuses value steps course ∧
    (∀ e ∈ course.exchanges, c.Answers e) ∧ course.Tells w (work w) ∧ good (work w).2

namespace Accounts

variable {c : Collaborators σ} {good : World σ → Prop} {refuses : Prop}
  {P : List Step → α → Prop} {Q : List Step → β → Prop}

theorem pure {a : α} (h : P [] a) : Accounts c good refuses (Pure.pure a) P := by
  intro w hgood
  exact ⟨[], a, _, h, .nil, nofun,
    ⟨rfl, (List.append_nil _).symm, (List.append_nil _).symm⟩, hgood⟩

theorem mono {P' : List Step → α → Prop} {work : Run σ α} (h : Accounts c good refuses work P)
    (himp : ∀ steps a, P steps a → P' steps a) : Accounts c good refuses work P' := by
  intro w hgood
  obtain ⟨steps, a, course, hP, hrest⟩ := h w hgood
  exact ⟨steps, a, course, himp steps a hP, hrest⟩

/-- The second part has its steps for the value that the first one has its steps for, also when the
first part breaks off. -/
theorem bind {work : Run σ α} {next : α → Run σ β} (hwork : Accounts c good refuses work P)
    (hnext : ∀ steps a, P steps a →
      Accounts c good refuses (next a) fun rest b => Q (steps ++ rest) b) :
    Accounts c good refuses (work >>= next) Q := by
  intro w hgood
  obtain ⟨steps, a, ⟨exchanges, written, result⟩, hP, hreports, hanswers,
    ⟨hresult, hexchanges, hcontent⟩, hafter⟩ := hwork w hgood
  obtain ⟨rest, b, course, hQ, hrest, hanswers', ⟨hresult', hexchanges', hcontent'⟩, hafter'⟩ :=
    hnext steps a hP (work w).2 hafter
  rw [Run.bind_apply, hresult]
  cases result with
  | error failure =>
    exact ⟨steps ++ rest, b, _, hQ, reports_append_iff.mpr (.stopped hreports), hanswers,
      ⟨rfl, hexchanges, hcontent⟩, hafter⟩
  | ok value =>
    obtain rfl := hreports.whole.1
    refine ⟨steps ++ rest, b, _, hQ, reports_append_iff.mpr (.resumed hreports hrest),
      List.forall_mem_append.mpr ⟨hanswers, hanswers'⟩, ⟨hresult', ?_, ?_⟩, hafter'⟩
    · rw [hexchanges', hexchanges, List.append_assoc, Course.after]
    · rw [hcontent', hcontent, List.append_assoc, Course.after]

theorem under {work : Run σ α} {cause : Cause} (label : Step → Step)
    (hevent : ∀ step, (label step).event = step.event) (h : Accounts c good refuses work P)
    (hcauses : ∀ steps a, P steps a → ∀ step ∈ steps, (label step).causes = cause :: step.causes) :
    Accounts c good refuses (Run.under cause work) fun steps a =>
      ∃ inner, P inner a ∧ steps = inner.map label := by
  intro w hgood
  obtain ⟨steps, a, course, hP, hreports, hanswers, ⟨hresult, hexchanges, hcontent⟩, hafter⟩ :=
    h w hgood
  rw [Run.under_apply]
  exact ⟨steps.map label, a, course.under cause, ⟨steps, hP, rfl⟩,
    hreports.under hevent (hcauses steps a hP), hanswers,
    ⟨by rw [hresult, Course.under], hexchanges, hcontent⟩, hafter⟩

/-- A single step as a part of an activity. -/
theorem during {work : Run σ α} {E : Event → α → Prop} (activity : Activity)
    (h : Accounts c good refuses work fun steps a => ∃ event, E event a ∧ steps = [{ event }]) :
    Accounts c good refuses (Run.during activity work) fun steps a =>
      ∃ event, E event a ∧ steps = [{ event, activity? := some activity }] := by
  refine (under (fun step => { step with activity? := some activity }) (fun _ => rfl) h ?_).mono ?_
  · rintro _ a ⟨event, -, rfl⟩ step hstep
    rw [List.mem_singleton.mp hstep]
    rfl
  · rintro _ a ⟨_, ⟨event, hevent, rfl⟩, rfl⟩
    exact ⟨event, hevent, rfl⟩

theorem forTable {work : Run σ α} (table : Identifier) (h : Accounts c good refuses work P)
    (hfree : ∀ steps a, P steps a → ∀ step ∈ steps, step.table? = none) :
    Accounts c good refuses (Run.under (.tableExport table.sanitized) work) fun steps a =>
      ∃ inner, P inner a ∧ steps = inner.map (Step.forTable table) := by
  refine under (Step.forTable table) (fun _ => rfl) h fun steps a hP step hstep => ?_
  simp [Step.causes, Step.forTable, hfree steps a hP step hstep]

/-- What the courses of all its steps are is what the courses of some work are. -/
theorem follows {work : Run σ α} {R : Course α → Prop}
    (h : Accounts c (fun _ => True) True work P)
    (hcourses : ∀ steps a course, P steps a → Reports True a steps course → R course) :
    Follows work R := by
  intro w
  obtain ⟨steps, a, course, hP, hreports, -, htells, -⟩ := h w trivial
  exact ⟨course, hcourses steps a course hP hreports, htells⟩

end Accounts

/-! ## Single steps -/

/-- A single step that was done. -/
theorem reports_done {refuses : Prop} (event : Event) (h : event.Done) (value : α) :
    Reports refuses value [{ event }] ⟨callsOf [event], event.output, .ok value⟩ := by
  have hdone : Reports refuses value [{ event }] _ := .cons h .nil
  simpa using hdone

/-- A single step that broke off. -/
theorem reports_broken {refuses : Prop} (event : Event) {part : Bytes} {own : Failure}
    (h : event.Fails part own) (hself : refuses ∨ event.FailsItself part) (value : α) :
    Reports refuses value [{ event }] ⟨callsOf [event], part, .error own⟩ :=
  .broken h hself

namespace Conduct

variable {c : Collaborators σ} {good : World σ → Prop} {refuses : Prop}

/-- What is said to the log is no step. -/
theorem say_accounts (h : Conduct c good refuses) {P : List Step → Unit → Prop}
    {level : Log.Level} {speaker : Log.Speaker} {message : String} (hP : P [] ()) :
    Accounts c good refuses (Run.say level speaker message) P := by
  intro w hgood
  exact ⟨[], (), _, hP, .nil, nofun,
    ⟨rfl, (List.append_nil _).symm, (List.append_nil _).symm⟩, h.say _ hgood⟩

theorem after_say (h : Conduct c good refuses) {Q : List Step → β → Prop} {level : Log.Level}
    {speaker : Log.Speaker} {message : String} {next : Unit → Run σ β}
    (hnext : Accounts c good refuses (next ()) Q) :
    Accounts c good refuses (Run.say level speaker message >>= next) Q := by
  intro w hgood
  exact hnext _ (h.say _ hgood)

theorem write_accounts (h : Conduct c good refuses) (bs : Bytes) :
    Accounts c good refuses (Run.write bs) fun steps _ =>
      ∃ event, event = .text bs ∧ steps = [{ event }] := by
  intro w hgood
  obtain ⟨course, hwrote, htells⟩ := write_follows (σ := σ) bs w
  obtain ⟨hafter, hgranted⟩ := h.write bs hgood
  refine ⟨_, (), course, ⟨_, rfl, rfl⟩, ?_, ?_, htells, hafter⟩
  · cases hwrote with
    | whole => exact reports_done (.text bs) trivial ()
    | cut hpart =>
      have hrefuses := hgranted.resolve_right fun hok => nomatch hok.symm.trans htells.1
      exact reports_broken (.text bs) ⟨hpart, _, rfl⟩ (.inl hrefuses) ()
  · cases hwrote <;> exact nofun

theorem ask_accounts (h : Conduct c good refuses) {exchange : Except Failure Bytes → Exchange}
    {answer : Surroundings σ → Reply × Surroundings σ}
    (hsucceeded : ∀ result, (exchange result).Succeeded ↔ ∃ reply, result = .ok reply)
    (hfails : ∀ failure, (exchange (.error failure)).Fails [] failure)
    (hstreamed : ∀ result, (exchange result).streamed = [])
    (hanswers : ∀ s, c.Answers (exchange (answer s).1.result))
    (hheard : ∀ {w} e, good w → good (w.heard (answer w.toSurroundings).2 e)) :
    Accounts c good refuses (Run.ask exchange answer) fun steps reply =>
      ∃ event, (∃ result, event = .call (exchange result) ∧ reply = answered result) ∧
        steps = [{ event }] := by
  intro w hgood
  let result := (answer w.toSurroundings).1.result
  have hreports : Reports refuses (answered result) [{ event := .call (exchange result) }]
      ⟨[exchange result], [], result⟩ := by
    cases result with
    | ok reply =>
      have hcall : Reports refuses reply _ _ :=
        reports_done (.call (exchange (.ok reply))) ((hsucceeded _).mpr ⟨reply, rfl⟩) reply
      rwa [Event.output, hstreamed] at hcall
    | error failure =>
      exact reports_broken (.call (exchange (.error failure))) (hfails failure)
        (.inr ⟨mt (hsucceeded _).mp nofun, (hstreamed _).symm⟩) _
  exact ⟨_, _, _, ⟨_, ⟨result, rfl, rfl⟩, rfl⟩, hreports,
    List.forall_mem_singleton.mpr (hanswers _), ⟨rfl, rfl, (List.append_nil _).symm⟩,
    h.say _ (hheard _ hgood)⟩

theorem query_accounts (h : Conduct c good refuses) (sql : Bytes) :
    Accounts c good refuses (Run.query c sql) fun steps reply =>
      ∃ event, (∃ result, event = .call (.query sql result) ∧ reply = answered result) ∧
        steps = [{ event }] :=
  h.ask_accounts (fun _ => Iff.rfl) (fun _ => ⟨rfl, rfl⟩) (fun _ => rfl) (.query sql) (h.query sql)

/-- A question that is an activity, and whose answer is read by `read`. -/
theorem lookup_accounts (h : Conduct c good refuses) (activity : Activity) (sql : Bytes)
    (read : Bytes → α) :
    Accounts c good refuses (do return read (← Run.during activity (Run.query c sql)))
      fun steps value =>
        ∃ result, steps = [{ event := .call (.query sql result), activity? := some activity }] ∧
          value = read (answered result) := by
  refine ((h.query_accounts sql).during activity).bind ?_
  rintro _ reply ⟨_, ⟨result, rfl, rfl⟩, rfl⟩
  exact .pure ⟨result, rfl, rfl⟩

theorem dump_accounts (h : Conduct c good refuses) (args : List Bytes) :
    Accounts c good refuses (Run.dump c args) fun steps text =>
      ∃ event, (∃ result, event = .call (.dump args result) ∧ text = answered result) ∧
        steps = [{ event }] :=
  h.ask_accounts (fun _ => Iff.rfl) (fun _ => ⟨rfl, rfl⟩) (fun _ => rfl) (.dump args) (h.dump args)

/-! ## Streams -/

theorem take (h : Conduct c good refuses) (d : Delivery) {w : World σ} (hgood : good w) :
    good (Run.take d w).2 ∧ (refuses ∨ (Run.take d w).1 = .ok ()) := by
  obtain ⟨hafter, hgranted⟩ := h.write d.bytes hgood
  rw [Run.take, Run.bind_apply]
  cases hresult : (Run.write d.bytes w).1 with
  | error failure =>
    rw [hresult] at hgranted
    exact ⟨hafter, hgranted⟩
  | ok =>
    cases d.settles with
    | false => exact ⟨hafter, .inr rfl⟩
    | true => exact h.settle hafter

/-- How a delivery is received: it comes to its end, or the sink refuses something. -/
theorem receive (h : Conduct c good refuses) (d : Delivery) {w : World σ} (hgood : good w) :
    good (Run.receive d w).2 ∧
      ((⟨[], d.bytes, d.ending.map fun () => d.bytes.length⟩ : Course Nat).Tells w
          (Run.receive d w) ∨
        refuses ∧ ∃ part error, part <+: d.bytes ∧
          (⟨[], part, .error ((Failure.ofSystem error).underAll d.refusal)⟩ : Course Nat).Tells w
            (Run.receive d w)) := by
  obtain ⟨course, hwrote, hresult, hexchanges, hcontent⟩ := take_follows (σ := σ) d w
  obtain ⟨hafter, hgranted⟩ := h.take d hgood
  rw [hresult] at hgranted
  rw [Run.receive_eq, Run.bind_apply, Run.foldr_under_apply, hresult]
  cases hwrote with
  | whole => exact ⟨hafter, .inl ⟨rfl, hexchanges, hcontent⟩⟩
  | cut hpart =>
    exact ⟨hafter, .inr ⟨hgranted.resolve_right nofun, _, _, hpart, rfl, hexchanges, hcontent⟩⟩

theorem stream_accounts (h : Conduct c good refuses) {exchange : Delivery → Exchange}
    {answer : Surroundings σ → Delivery × Surroundings σ}
    (hsucceeded : ∀ d, (exchange d).Succeeded ↔ d.ending = .ok ())
    (hfails : ∀ d part own, d.Fails part own → (exchange d).Fails part own)
    (hstreamed : ∀ d, (exchange d).streamed = d.bytes)
    (hanswers : ∀ s, c.Answers (exchange (answer s).1))
    (hheard : ∀ {w} e, good w → good (w.heard (answer w.toSurroundings).2 e)) :
    Accounts c good refuses (Run.stream exchange answer) fun steps count =>
      ∃ event, (∃ d, event = .call (exchange d) ∧ count = d.bytes.length) ∧
        steps = [{ event }] := by
  intro w hgood
  let d := (answer w.toSurroundings).1
  obtain ⟨hafter, hreceived⟩ := h.receive d (h.say (w.log ++ d.log) (hheard (exchange d) hgood))
  refine ⟨[{ event := .call (exchange d) }], d.bytes.length, ?_⟩
  rcases hreceived with htells | ⟨hrefuses, part, error, hpart, htells⟩
  · have hreports : Reports refuses d.bytes.length [{ event := .call (exchange d) }]
        ⟨[exchange d], d.bytes, d.ending.map fun () => d.bytes.length⟩ := by
      cases hending : d.ending with
      | ok =>
        have hcall : Reports refuses d.bytes.length _ _ :=
          reports_done (.call (exchange d)) ((hsucceeded d).mpr hending) d.bytes.length
        rwa [Event.output, hstreamed] at hcall
      | error failure =>
        have hfailed : ¬ d.ending = .ok () := by
          rw [hending]
          nofun
        exact reports_broken (.call (exchange d)) (hfails _ _ _ (.ended hending))
          (.inr ⟨mt (hsucceeded d).mp hfailed, (hstreamed d).symm⟩) _
    exact ⟨_, ⟨_, ⟨d, rfl, rfl⟩, rfl⟩, hreports, List.forall_mem_singleton.mpr (hanswers _),
      htells.heard, hafter⟩
  · exact ⟨_, ⟨_, ⟨d, rfl, rfl⟩, rfl⟩,
      reports_broken (.call (exchange d)) (hfails _ _ _ (.refused hpart)) (.inl hrefuses) _,
      List.forall_mem_singleton.mpr (hanswers _), htells.heard, hafter⟩

theorem copyOut_accounts (h : Conduct c good refuses) (sql : Bytes) :
    Accounts c good refuses (Run.copyOut c sql) fun steps count =>
      ∃ event, (∃ rows, event = .call (.copyOut sql rows) ∧ count = rows.bytes.length) ∧
        steps = [{ event }] :=
  h.stream_accounts (fun _ => Iff.rfl) (fun _ _ _ => id) (fun _ => rfl) (.copyOut sql)
    (h.copyOut sql)

theorem dumpInto_accounts (h : Conduct c good refuses) (args : List Bytes) :
    Accounts c good refuses (Run.dumpInto c args) fun steps count =>
      ∃ event, (∃ text, event = .call (.dumpInto args text) ∧ count = text.bytes.length) ∧
        steps = [{ event }] :=
  h.stream_accounts (fun _ => Iff.rfl) (fun _ _ _ => id) (fun _ => rfl) (.dumpInto args)
    (h.dumpInto args)

end Conduct

end MaskedDump
