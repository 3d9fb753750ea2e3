import MaskedDump.Proofs.Dump.Accounts
import MaskedDump.Proofs.Dump.Masking
import MaskedDump.Proofs.Dump.Statements

/-!
# What the failure of a dump tells

A caller that gets a failure looks for the outermost cause that it can tell apart. For a dump that
broke off in the block of a table this is the export of that table, by its sanitized name. For a
dump that broke off anywhere else it is what the failing tool itself has reported, if a tool failed.
The collaborators are arbitrary as long as they do not bring causes of the dump's own, and so is the
sink: it may refuse in the middle of a text or of a stream.

Results:
* `Dialogue.exists_block`: a step of a table is in its block, behind the whole blocks of others;
* `Dialogue.not_isAbout_later`: up to this step no call is about a later table;
* `Script.write_classifies`: what the failure tells of the step that broke off.
-/

namespace MaskedDump

variable {σ τ : Type}

/-! ## Causes of collaborators -/

/-- Whether a cause may come from a collaborator: a tool has failed, or nothing that callers tell
apart has happened. -/
def Cause.IsForeign : Cause → Prop
  | toolFailed _ _ _ | activity _ | system _ | plain _ => True
  | missingTools _ | extensionNotInstalled | tableExport _ => False

/-- Whether a failure may come from a collaborator. -/
def Failure.IsForeign (failure : Failure) : Prop := ∀ cause ∈ failure.chain, cause.IsForeign

/-- Whether a delivery fails, or is refused, with causes that may come from a collaborator. -/
structure Delivery.IsForeign (d : Delivery) : Prop where
  ending : ∀ failure, d.ending = .error failure → failure.IsForeign
  refusal : ∀ cause ∈ d.refusal, cause.IsForeign

/-- Whether some collaborators fail with failures of tools, or such as they word themselves. -/
structure Responder.IsForeign (c : Responder τ) : Prop where
  query : ∀ sql s failure, (c.query sql s).1.result = .error failure → failure.IsForeign
  copyOut : ∀ sql s, (c.copyOut sql s).1.IsForeign
  dump : ∀ args s failure, (c.dump args s).1.result = .error failure → failure.IsForeign
  dumpInto : ∀ args s, (c.dumpInto args s).1.IsForeign

theorem Failure.isForeign_ofSystem (error : SystemError) : (Failure.ofSystem error).IsForeign :=
  List.forall_mem_singleton.mpr trivial

theorem Delivery.IsForeign.own {d : Delivery} (h : d.IsForeign) {part : Bytes} {own : Failure}
    (hfails : d.Fails part own) : own.IsForeign := by
  cases hfails with
  | ended hending => exact h.ending _ hending
  | refused _ =>
    rw [Failure.IsForeign, Failure.chain_underAll]
    exact List.forall_mem_append.mpr ⟨h.refusal, Failure.isForeign_ofSystem _⟩

/-- What a call fails with is foreign, and so is what the sink refuses. -/
theorem Responder.IsForeign.own {c : Responder τ} (h : c.IsForeign) {event : Event}
    (hanswers : ∀ e, event = .call e → c.Answers e) {part : Bytes} {own : Failure}
    (hfails : event.Fails part own) : own.IsForeign := by
  cases event with
  | text bs =>
    obtain ⟨-, error, rfl⟩ := hfails
    exact Failure.isForeign_ofSystem error
  | call e =>
    cases hanswers e rfl with
    | query sql s => exact h.query sql s own hfails.2
    | copyOut sql s => exact (h.copyOut sql s).own hfails
    | dump args s => exact h.dump args s own hfails.2
    | dumpInto args s => exact (h.dumpInto args s).own hfails

/-- Collaborators that touch no files fail as they do among files. -/
theorem Responder.IsForeign.amongTools {r : Responder σ} (h : r.IsForeign) :
    (r.amongTools : Collaborators σ).IsForeign where
  query sql s := h.query sql s.tools
  copyOut sql s := h.copyOut sql s.tools
  dump args s := h.dump args s.tools
  dumpInto args s := h.dumpInto args s.tools

/-! ## What callers see -/

namespace Failure

theorem classified?_underAll (causes : List Cause) (failure : Failure) :
    (failure.underAll causes).classified? =
      (causes.find? Cause.isClassified).or failure.classified? := by
  rw [classified?, chain_underAll, List.find?_append]
  rfl

/-- A foreign failure is classified as that of a tool. -/
theorem IsForeign.toolFailed {failure : Failure} (h : failure.IsForeign) {cause : Cause}
    (hcause : failure.classified? = some cause) :
    ∃ tool status diagnostics, cause = .toolFailed tool status diagnostics := by
  have hforeign := h cause (List.mem_of_find?_eq_some hcause)
  have hclassified := List.find?_some hcause
  cases cause with
  | toolFailed tool status diagnostics => exact ⟨tool, status, diagnostics, rfl⟩
  | missingTools _ | extensionNotInstalled | tableExport _ => exact hforeign.elim
  | activity _ | system _ | plain _ => cases hclassified

end Failure

namespace Step

/-- In the block of a table its export is the outermost cause. -/
theorem causes_of_table {step : Step} {table : Identifier} (h : step.table? = some table) :
    step.causes = .tableExport table.sanitized :: (step.activity?.map .activity).toList := by
  rw [causes, h]
  rfl

/-- Elsewhere there is no cause but that the activity failed. -/
theorem causes_of_none {step : Step} (h : step.table? = none) :
    step.causes = (step.activity?.map .activity).toList := by
  rw [causes, h]
  rfl

theorem classified?_of_table {step : Step} {table : Identifier} (h : step.table? = some table)
    (own : Failure) :
    (own.underAll step.causes).classified? = some (.tableExport table.sanitized) := by
  rw [Failure.classified?_underAll, causes_of_table h]
  rfl

theorem classified?_of_none {step : Step} (h : step.table? = none) (own : Failure) :
    (own.underAll step.causes).classified? = own.classified? := by
  rw [Failure.classified?_underAll, causes_of_none h]
  cases step.activity? <;> rfl

end Step

/-! ## The place of a step -/

/-- An element of lists put together is in one of them, behind those before it. -/
theorem flatMap_eq_append_cons {α β : Type} {f : α → List β} {xs : List α} {done rest : List β}
    {y : β} (h : xs.flatMap f = done ++ y :: rest) :
    ∃ before x after begun more, xs = before ++ x :: after ∧ f x = begun ++ y :: more ∧
      done = before.flatMap f ++ begun := by
  induction xs generalizing done with
  | nil => cases done <;> cases h
  | cons x xs ih =>
    rw [List.flatMap_cons] at h
    rcases List.append_eq_append_iff.mp h with ⟨mid, rfl, hmid⟩ | ⟨mid, hx, hmid⟩
    · obtain ⟨before, x', after, begun, more, rfl, hx', rfl⟩ := ih hmid
      exact ⟨x :: before, x', after, begun, more, rfl, hx', by simp⟩
    · cases mid with
      | nil =>
        have hrest : xs.flatMap f = [] ++ y :: rest := hmid.symm
        obtain ⟨before, x', after, begun, more, rfl, hx', hdone⟩ := ih hrest
        refine ⟨x :: before, x', after, begun, more, rfl, hx', ?_⟩
        rw [List.flatMap_cons, List.append_assoc, ← hdone, hx, List.append_nil, List.append_nil]
      | cons y' mid =>
        obtain ⟨rfl, -⟩ := List.cons.inj hmid
        exact ⟨[], x, xs, done, mid, rfl, hx, rfl⟩

namespace TableAnswers

theorem table?_of_mem {answers : TableAnswers} {step : Step} (h : step ∈ answers.steps) :
    step.table? = some answers.table := by
  simp only [steps, List.mem_cons, List.not_mem_nil, or_false] at h
  rcases h with rfl | rfl | rfl | rfl <;> rfl

theorem outputOf_steps (answers : TableAnswers) :
    outputOf (eventsOf answers.steps) = answers.block := by
  simp [eventsOf, steps, outputOf, Event.output, Exchange.streamed, block]

theorem outputOf_blocks (tables : List TableAnswers) :
    outputOf (eventsOf (tables.flatMap steps)) = tables.flatMap block := by
  induction tables with
  | nil => rfl
  | cons answers rest ih =>
    rw [List.flatMap_cons, eventsOf_append, outputOf_append, outputOf_steps, ih, List.flatMap_cons]

/-- The calls for a block are about its table. -/
theorem eq_of_isAbout {answers : TableAnswers} {step : Step} {e : Exchange} {table : Identifier}
    {name name' : Sql.Name} (hanswers : answers.table.bytes = name.text)
    (htable : table.bytes = name'.text) (hstep : step ∈ answers.steps)
    (hcall : step.event = .call e) (habout : e.IsAbout table) : answers.table = table := by
  simp only [steps, List.mem_cons, List.not_mem_nil, or_false] at hstep
  rcases hstep with rfl | rfl | rfl | rfl
  · obtain rfl := Event.call.inj hcall
    exact Catalog.maskFiltersQuery_inj habout
  · cases hcall
  · obtain rfl := Event.call.inj hcall
    obtain ⟨columns, hcopy⟩ := habout
    exact MaskedData.copyStatement_inj hanswers htable hcopy
  · cases hcall

end TableAnswers

namespace Dialogue

variable {options : ExportOptions} {d : Dialogue options}

theorem nodup_tables (d : Dialogue options) : (d.tables.map TableAnswers.table).Nodup := by
  rw [d.covers]
  exact PreData.nodup_dataTables _ _ _

/-- The tables are names in the definitions. -/
theorem exists_name {answers : TableAnswers} (h : answers ∈ d.tables) :
    ∃ name : Sql.Name, answers.table.bytes = name.text := by
  have htable : answers.table ∈ d.tables.map TableAnswers.table := List.mem_map_of_mem h
  rw [d.covers, PreData.ofAnswers, PreData.dataTables_ofExports] at htable
  obtain ⟨_, _, name, _, hname, -⟩ := Discovery.mem_tables (List.mem_filter.mp htable).1
  exact ⟨name, hname⟩

/-- No step before the data belongs to a table or is a call about one. -/
theorem headSteps_apart (version : String) : ∀ step ∈ d.headSteps version,
    step.table? = none ∧ ∀ e table, step.event = .call e → ¬ e.IsAbout table := by
  have hpreData : ∀ step ∈ PreData.steps options d.excluded d.preData d.discovery,
      step.table? = none ∧ ∃ args result, step.event = .call (.dump args result) := by
    unfold PreData.steps
    split <;> simp
  have htext : ∀ (bs : Bytes) (e : Exchange), Event.text bs ≠ .call e := by
    rintro bs e ⟨⟩
  intro step hstep
  simp only [headSteps, List.mem_append, List.mem_cons, List.not_mem_nil, or_false] at hstep
  rcases hstep with ((rfl | rfl) | hstep) | rfl | rfl
  · refine ⟨rfl, fun e table hcall => ?_⟩
    obtain rfl := Event.call.inj hcall
    exact Catalog.maskSchemaQuery_ne_maskFiltersQuery table
  · exact ⟨rfl, fun e _ hcall => absurd hcall (htext _ e)⟩
  · obtain ⟨htable, args, result, hdump⟩ := hpreData step hstep
    refine ⟨htable, fun e table hcall => ?_⟩
    obtain rfl := Event.call.inj (hdump.symm.trans hcall)
    exact id
  · exact ⟨rfl, fun e _ hcall => absurd hcall (htext _ e)⟩
  · exact ⟨rfl, fun e _ hcall => absurd hcall (htext _ e)⟩

theorem outputOf_headSteps (version : String) :
    outputOf (eventsOf (d.headSteps version)) =
      Script.banner version ++ d.found.ddl ++ [Bytes.lineFeed] := by
  unfold headSteps PreData.steps
  split <;> simp [eventsOf, outputOf, Event.output, Exchange.streamed]

theorem tailSteps_apart : ∀ step ∈ d.tailSteps, step.table? = none := by
  unfold tailSteps SequenceState.steps Script.postDataSteps
  dsimp only
  split <;> simp

/-- What is known of a dump that broke off in the block of a table. -/
structure BreaksWithin (d : Dialogue options) (version : String) (step : Step)
    (table : Identifier) (made : List Exchange) (written : Bytes) (failure : Failure) : Prop where
  /-- What callers see is the export of this table. -/
  classified : failure.classified? = some (.tableExport table.sanitized)
  /-- The blocks before it are whole, and no call was made about a table behind it. -/
  behind : ∃ before answers after, d.tables = before ++ answers :: after ∧ answers.table = table ∧
    step ∈ answers.steps ∧
    Script.banner version ++ d.found.ddl ++ [Bytes.lineFeed]
      ++ before.flatMap TableAnswers.block <+: written ∧
    ∀ later ∈ after, ∀ e ∈ made, ¬ e.IsAbout later.table

/-- What is known of a dump that broke off outside the blocks, with a failure of the step's own. -/
structure BreaksOutside (own failure : Failure) : Prop where
  /-- No table is named. -/
  unnamed : ∀ name, .tableExport name ∉ failure.chain
  /-- What callers see is what they would see of the step's own failure. -/
  classified : failure.classified? = own.classified?
  /-- It is that a tool has failed, if they see anything. -/
  ofTool : ∀ cause, failure.classified? = some cause →
    ∃ tool status diagnostics, cause = .toolFailed tool status diagnostics

/-- What the failure of a dump tells of the step that broke off. -/
structure Classifies (d : Dialogue options) (version : String) (step : Step) (own : Failure)
    (made : List Exchange) (written : Bytes) (failure : Failure) : Prop where
  /-- The export of a table is what is seen exactly for the steps of a block. -/
  named : (∃ name, failure.classified? = some (.tableExport name)) ↔
    ∃ answers ∈ d.tables, step ∈ answers.steps
  within : ∀ table, step.table? = some table →
    d.BreaksWithin version step table made written failure
  outside : step.table? = none → BreaksOutside own failure
  /-- The chain of the step's own failure is the end of the whole chain. -/
  chain : failure.chain = step.causes ++ own.chain

/-- A step of a table is in the block of that table, behind the blocks of the tables before. -/
theorem exists_block {version : String} {done rest : List Step} {step : Step} {table : Identifier}
    (hplanned : d.steps version = done ++ step :: rest) (htable : step.table? = some table) :
    ∃ before answers after begun more, d.tables = before ++ answers :: after ∧
      answers.table = table ∧ answers.steps = begun ++ step :: more ∧
      done = d.headSteps version ++ (before.flatMap TableAnswers.steps ++ begun) := by
  -- the steps around the data belong to no table, so the step is between them
  have hhead : step ∉ d.headSteps version := by
    intro hmem
    rw [(headSteps_apart version step hmem).1] at htable
    cases htable
  have htail : step ∉ d.tailSteps := by
    intro hmem
    rw [tailSteps_apart step hmem] at htable
    cases htable
  obtain ⟨_, hfront, -⟩ := Bytes.eq_append_of_not_mem_right htail hplanned
  obtain ⟨inner, hinner, rfl⟩ := Bytes.eq_append_of_not_mem_left hhead hfront
  obtain ⟨before, answers, after, begun, more, htables, hsteps, rfl⟩ :=
    flatMap_eq_append_cons hinner
  have hanswers : step.table? = some answers.table :=
    TableAnswers.table?_of_mem (hsteps ▸ List.mem_append_cons_self)
  exact ⟨before, answers, after, begun, more, htables,
    Option.some.inj (hanswers.symm.trans htable), hsteps, rfl⟩

/-- Up to a step of a block, calls are about its table and those before. -/
theorem not_isAbout_later {version : String} {before after : List TableAnswers}
    {answers later : TableAnswers} {begun more : List Step} {step : Step}
    (htables : d.tables = before ++ answers :: after)
    (hsteps : answers.steps = begun ++ step :: more) (hlater : later ∈ after) {e : Exchange}
    (he : e ∈ callsOf (eventsOf
      (d.headSteps version ++ (before.flatMap TableAnswers.steps ++ begun) ++ [step]))) :
    ¬ e.IsAbout later.table := by
  intro habout
  obtain ⟨asked, hasked, hcall⟩ := mem_callsOf_iff.mp he
  -- the call is for a block up to this one
  obtain ⟨other, hother, hblock⟩ : ∃ other ∈ before ++ [answers], asked ∈ other.steps := by
    rw [List.mem_append, List.mem_append, List.mem_append, List.mem_singleton] at hasked
    rcases hasked with (hhead | hbefore | hbegun) | rfl
    · exact absurd habout ((headSteps_apart version asked hhead).2 e later.table hcall)
    · obtain ⟨other, hother, hblock⟩ := List.mem_flatMap.mp hbefore
      exact ⟨other, List.mem_append_left _ hother, hblock⟩
    · exact ⟨answers, List.mem_concat_self, hsteps ▸ List.mem_append_left _ hbegun⟩
    · exact ⟨answers, List.mem_concat_self, hsteps ▸ List.mem_append_cons_self⟩
  have hsplit : d.tables = (before ++ [answers]) ++ after := by
    rw [htables, List.append_assoc, List.singleton_append]
  obtain ⟨name, hname⟩ := exists_name (d := d) (hsplit ▸ List.mem_append_left _ hother)
  obtain ⟨name', hname'⟩ := exists_name (d := d) (hsplit ▸ List.mem_append_right _ hlater)
  have heq := TableAnswers.eq_of_isAbout hname hname' hblock hcall habout
  -- but no table is listed twice
  have hnodup := d.nodup_tables
  rw [hsplit, List.map_append, List.nodup_append] at hnodup
  exact hnodup.2.2 _ (List.mem_map_of_mem hother) _ (List.mem_map_of_mem hlater) heq

theorem breaksWithin {version : String} {done rest : List Step} {step : Step}
    {table : Identifier} (hplanned : d.steps version = done ++ step :: rest)
    (htable : step.table? = some table) (own : Failure) (part : Bytes) :
    d.BreaksWithin version step table (callsOf (eventsOf (done ++ [step])))
      (outputOf (eventsOf done) ++ part) (own.underAll step.causes) := by
  obtain ⟨before, answers, after, begun, more, htables, hanswers, hsteps, rfl⟩ :=
    exists_block hplanned htable
  refine ⟨Step.classified?_of_table htable own, before, answers, after, htables, hanswers,
    hsteps ▸ List.mem_append_cons_self, ?_, fun later hlater e he =>
      not_isAbout_later htables hsteps hlater he⟩
  rw [eventsOf_append, eventsOf_append, outputOf_append, outputOf_append, outputOf_headSteps,
    TableAnswers.outputOf_blocks, ← List.append_assoc,
    List.append_assoc _ (outputOf (eventsOf begun))]
  exact List.prefix_append _ _

theorem breaksOutside {step : Step} (htable : step.table? = none) {own : Failure}
    (hown : own.IsForeign) : BreaksOutside own (own.underAll step.causes) where
  unnamed name hmem := by
    rw [Failure.chain_underAll, Step.causes_of_none htable] at hmem
    rcases List.mem_append.mp hmem with hactivity | hmem
    · simp at hactivity
    · exact hown _ hmem
  classified := Step.classified?_of_none htable own
  ofTool cause hcause := by
    rw [Step.classified?_of_none htable] at hcause
    exact hown.toolFailed hcause

/-- A step that breaks off is told by its failure, if its own failure is foreign. -/
theorem classifies {version : String} {done rest : List Step} {step : Step} {part : Bytes}
    {own : Failure} (hplanned : d.steps version = done ++ step :: rest) (hown : own.IsForeign) :
    d.Classifies version step own (callsOf (eventsOf (done ++ [step])))
      (outputOf (eventsOf done) ++ part) (own.underAll step.causes) where
  named := by
    constructor
    · rintro ⟨name, hname⟩
      cases htable : step.table? with
      | none =>
        have hmem := List.mem_of_find?_eq_some hname
        exact absurd hmem ((breaksOutside htable hown).unnamed name)
      | some table =>
        obtain ⟨before, answers, after, htables, -, hstep, -⟩ :=
          (breaksWithin hplanned htable own part).behind
        exact ⟨answers, htables ▸ List.mem_append_cons_self, hstep⟩
    · rintro ⟨answers, -, hstep⟩
      exact ⟨_, Step.classified?_of_table (TableAnswers.table?_of_mem hstep) own⟩
  within table htable := breaksWithin hplanned htable own part
  outside htable := breaksOutside htable hown
  chain := Failure.chain_underAll _ _

end Dialogue

namespace Script

/-- A dump that fails has taken the steps of a dialogue up to one that broke off, and its failure
tells which one that is. -/
theorem write_classifies {c : Collaborators σ} (hforeign : c.IsForeign) (options : ExportOptions)
    (version : String) (w : World σ) {failure : Failure}
    (hfailed : (write c options version w).1 = .error failure) :
    ∃ (d : Dialogue options) (done : List Step) (step : Step) (own : Failure)
      (made : List Exchange) (written : Bytes),
      (write c options version w).2.exchanges = w.exchanges ++ made ∧
      (write c options version w).2.sink.content = w.sink.content ++ written ∧
      (∀ e ∈ made, c.Answers e) ∧
      BreaksOff (d.steps version) done step own made written failure ∧
      d.Classifies version step own made written failure := by
  obtain ⟨_, _, ⟨made, written, result⟩, ⟨d, rfl, rfl⟩, hreports, hanswers,
    ⟨hresult, hexchanges, hcontent⟩, -⟩ :=
      write_accounts (conduct_any c) options version w trivial
  obtain rfl : result = .error failure := hresult.symm.trans hfailed
  obtain ⟨done, step, own, hbreaks, -⟩ := hreports.breaksOff
  refine ⟨d, done, step, own, made, written, hexchanges, hcontent, hanswers, hbreaks, ?_⟩
  obtain ⟨⟨rest, hplanned⟩, -, rfl, ⟨part, hfails, rfl⟩, rfl⟩ := hbreaks
  have hown : own.IsForeign := by
    refine hforeign.own (fun e hcall => hanswers e ?_) hfails
    exact mem_callsOf_iff.mpr ⟨step, List.mem_concat_self, hcall⟩
  exact d.classifies hplanned hown

/-- A database of two tables. The copy of the second one fails behind its first row. -/
def brokenTools : Responder Unit where
  query _ s := ({ result := .ok [] }, s)
  copyOut sql s :=
    if sql = MaskedData.copyStatement Catalog.allColumns (.ofString "s.u") then
      ({ bytes := Bytes.ofString "1\n"
         ending := .error (.ofCause (.toolFailed "psql" (some 1) "ERROR: lost")) }, s)
    else ({ bytes := [], ending := .ok () }, s)
  dump _ s :=
    ({ result := .ok (Bytes.ofString "CREATE TABLE s.t (\n);\nCREATE TABLE s.u (\n);\n") }, s)
  dumpInto _ s := ({ bytes := [], ending := .ok () }, s)

theorem isForeign_brokenTools : brokenTools.IsForeign where
  query _ _ := nofun
  copyOut sql s := by
    rw [brokenTools]
    dsimp only
    split
    · refine ⟨?_, nofun⟩
      rintro _ ⟨⟩
      exact List.forall_mem_singleton.mpr trivial
    · exact ⟨nofun, nofun⟩
  dump _ _ := nofun
  dumpInto _ _ := ⟨nofun, nofun⟩

/-- The start of a dump of that database. -/
def brokenWorld : World Unit where
  tools := ()
  files := { entries := [], workPlace := [] }

/-- The second table is named, and what the tool has reported is behind it. -/
theorem write_classifies_broken :
    ∃ failure : Failure,
      brokenTools.amongTools.IsForeign ∧
      (write brokenTools.amongTools {} "1.0" brokenWorld).1 = .error failure ∧
      failure.chain = [.tableExport "s.u", .toolFailed "psql" (some 1) "ERROR: lost"] ∧
      ∃ (d : Dialogue {}) (done : List Step) (step : Step) (own : Failure)
        (made : List Exchange) (written : Bytes),
        (write brokenTools.amongTools {} "1.0" brokenWorld).2.exchanges =
          brokenWorld.exchanges ++ made ∧
        (write brokenTools.amongTools {} "1.0" brokenWorld).2.sink.content =
          brokenWorld.sink.content ++ written ∧
        (∀ e ∈ made, brokenTools.amongTools.Answers e) ∧
        BreaksOff (d.steps "1.0") done step own made written failure ∧
        d.Classifies "1.0" step own made written failure := by
  have hforeign : (brokenTools.amongTools : Collaborators Unit).IsForeign :=
    isForeign_brokenTools.amongTools
  have hfailed : (write brokenTools.amongTools {} "1.0" brokenWorld).1 =
      .error ⟨.tableExport "s.u", [.toolFailed "psql" (some 1) "ERROR: lost"]⟩ := by
    decide +kernel
  exact ⟨_, hforeign, hfailed, rfl, write_classifies hforeign {} "1.0" brokenWorld hfailed⟩

end Script

end MaskedDump
