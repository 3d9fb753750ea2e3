import MaskedDump.Proofs.Discovery.Sequences
import MaskedDump.Proofs.Dump.Content
import MaskedDump.Proofs.Options.Sets

/-!
# The scope of the sequence values

Values are exported for the sequences that the catalog lists outside the excluded schemas. When the
user restricts the objects of the dump, a listed sequence must also be declared by the definitions
that were written, as otherwise its value would be set for a sequence that the script never creates.
Patterns have no other way into the call: it names its sequences one by one, and the same ones in
all runs that list and declare the same.

Results:
* `SequenceState.kept_eq_scope`, `SequenceState.args_eq_valueArgs`: what is exported, and how;
* `SequenceState.dump_listed`: the phase behind a listing that was answered;
* `Script.DumpCourse.sequencePhase`: a dump lists and exports sequences in one place alone;
* `Script.write_scoped`: the scope of the values in the phase, in a dump and in two dumps.
-/

namespace MaskedDump

open Course

variable {σ : Type}

/-! ## Work behind a listing -/

/-- What is said behind a step leaves the outcome of the step, with a value in place of its own. -/
theorem Run.during_said_apply {α β : Type} (step : Activity) (work : Run σ α) (level : Log.Level)
    (speaker : Log.Speaker) (message : String) (b : β) (w : World σ) :
    let outcome := (during step work >>= fun _ =>
      say level speaker message >>= fun _ => pure b) w
    outcome.1 = ((work w).1.mapError (Failure.under (.activity step))).map (fun _ => b) ∧
      outcome.2.exchanges = (work w).2.exchanges ∧ outcome.2.sink = (work w).2.sink := by
  rw [bind_apply, during, under_apply]
  cases (work w).1 with
  | ok a => exact ⟨rfl, rfl, rfl⟩
  | error failure => exact ⟨rfl, rfl, rfl⟩

theorem Run.dumpInto_exchanges (c : Collaborators σ) (args : List Bytes) (w : World σ) :
    ∃ text, (dumpInto c args w).2.exchanges = w.exchanges ++ [.dumpInto args text] := by
  obtain ⟨_, _, course, ⟨_, ⟨text, rfl, -⟩, rfl⟩, hreports, -, ⟨-, hexchanges, -⟩, -⟩ :=
    (conduct_any c).dumpInto_accounts args w trivial
  rcases hreports.single with ⟨-, rfl⟩ | ⟨_, _, -, rfl⟩ <;> exact ⟨text, hexchanges⟩

/-! ## Patterns -/

namespace Arguments

/-- The patterns that restrict the schemas and tables of a dump. -/
def patterns (a : Arguments) : List String :=
  a.schemas ++ a.excludeSchemas ++ a.tables ++ a.excludeTables

theorem hasObjectFilters_iff_patterns (a : Arguments) :
    a.configuration.exporting.hasObjectFilters = true ↔ a.patterns ≠ [] := by
  simp only [SequenceState.hasObjectFilters_iff, patterns, ne_eq, List.append_eq_nil_iff,
    Classical.not_and_iff_not_or_not, or_assoc]

end Arguments

/-! ## Sequences in the definitions -/

/-- Every sequence listed for a text has its header in it, at a line start. -/
theorem Discovery.mem_sequences {ddl : Bytes} {s : Identifier} (h : s ∈ sequences ddl) :
    ∃ lead rest, ddl = lead ++ rest ∧ Bytes.Closed lead ∧ NamesSequence rest s.bytes := by
  obtain ⟨lead, rest, found, rfl, hlead, -, hfound, hname⟩ := heads_of_mem_scan (mem_names.mp h)
  exact ⟨lead, rest, rfl, hlead, hname ▸ sequenceHeader?_eq_some hfound⟩

/-! ## The scope -/

namespace SequenceState

/-- The sequences whose values are exported: the lines of a listing without outer blanks, empty ones
left out, and of these the declared ones if there are patterns. -/
def scope (a : Arguments) (declared : List Identifier) (listing : Bytes) : List Bytes :=
  ((Bytes.pieces listing).map Bytes.trim).filter fun name =>
    name ≠ [] ∧ (a.patterns = [] ∨ ⟨name⟩ ∈ declared)

/-- The arguments that export the values of some sequences. -/
def valueArgs (a : Arguments) (names : List Bytes) : List Bytes :=
  Bytes.ofString "--data-only"
    :: (names.map (Bytes.ofString "--table=" ++ ·)
      ++ (a.connection ++ (a.encoding.map ("--encoding=" ++ ·)).toList
        ++ a.excludeTableData.map ("--exclude-table-data=" ++ ·)).map Bytes.ofString)

/-- The calls that export the values of some sequences: none without a sequence, otherwise one. -/
def callsFor (a : Arguments) (names : List Bytes) : List (List Bytes) :=
  if names = [] then [] else [valueArgs a names]

theorem mem_scope {a : Arguments} {declared : List Identifier} {listing name : Bytes} :
    name ∈ scope a declared listing ↔
      (∃ line ∈ Bytes.pieces listing, Bytes.trim line = name) ∧ name ≠ [] ∧
        (a.patterns = [] ∨ ⟨name⟩ ∈ declared) := by
  simp only [scope, List.mem_filter, List.mem_map, decide_eq_true_eq]

theorem kept_eq_scope (a : Arguments) (declared : List Identifier) (listing : Bytes) :
    kept a.configuration.exporting declared (Catalog.sequencesOfReply listing) =
      (scope a declared listing).map Identifier.mk := by
  have hfilters := a.hasObjectFilters_iff_patterns
  have hempty : ∀ name : Bytes, name.isEmpty = decide (name = []) := by
    intro name
    cases name <;> rfl
  by_cases hpatterns : a.patterns = []
  · rw [kept, if_neg fun h => hfilters.mp h hpatterns, Catalog.sequencesOfReply, scope]
    congr 2
    funext name
    simp [hpatterns, hempty]
  · rw [kept, if_pos (hfilters.mpr hpatterns), Catalog.sequencesOfReply, scope, List.filter_map,
      List.filter_filter]
    congr 2
    funext name
    simp [hpatterns, hempty, Bool.and_comm]

theorem args_eq_valueArgs (a : Arguments) (names : List Bytes) :
    args a.configuration.exporting (names.map Identifier.mk) = valueArgs a names := by
  have htable : ∀ name : Bytes,
      flagArgument "--table" name = Bytes.ofString "--table=" ++ name :=
    fun name => flagArgument_eq "--table" name
  have hoptions : a.configuration.exporting.sequenceArgs =
      a.connection ++ (a.encoding.map ("--encoding=" ++ ·)).toList
        ++ a.excludeTableData.map ("--exclude-table-data=" ++ ·) := rfl
  rw [args, valueArgs, hoptions, List.map_map, List.cons_append]
  simp only [Function.comp_def, htable]

/-- A name stands behind a table flag exactly when its value is exported. -/
theorem table_mem_valueArgs {a : Arguments} {names : List Bytes} {name : Bytes} :
    Bytes.ofString "--table=" ++ name ∈ valueArgs a names ↔ name ∈ names := by
  constructor
  · intro h
    have hopening : ∀ flag ∈ optionFlags,
        Bytes.Unlike (Bytes.ofString "--table=") (Bytes.ofString flag) := by
      decide
    rw [← args_eq_valueArgs] at h
    rcases mem_args_of_prefix hopening h (List.prefix_append _ _) with hdata | ⟨s, hs, hname⟩
    · have hunlike : Bytes.Unlike (Bytes.ofString "--table=") (Bytes.ofString "--data-only") := by
        decide
      exact absurd (hdata ▸ List.prefix_append _ _) (hunlike.not_begins List.prefix_rfl)
    · obtain ⟨name', hname', rfl⟩ := List.mem_map.mp hs
      rwa [List.append_cancel_left hname]
  · intro h
    exact List.mem_cons_of_mem _ (List.mem_append_left _ (List.mem_map_of_mem h))

theorem table_mem_callsFor {a : Arguments} {names : List Bytes} {name : Bytes} :
    (∃ args ∈ callsFor a names, Bytes.ofString "--table=" ++ name ∈ args) ↔ name ∈ names := by
  by_cases hnone : names = []
  · simp [callsFor, hnone]
  · simp only [callsFor, hnone, ite_false, List.mem_singleton, exists_eq_left, table_mem_valueArgs]

/-- Patterns matter to the scope only in that there are some. -/
theorem scope_congr {a b : Arguments} {declared declared' : List Identifier}
    (ha : a.patterns ≠ []) (hb : b.patterns ≠ []) (hsame : ∀ s, s ∈ declared ↔ s ∈ declared')
    (listing : Bytes) : scope a declared listing = scope b declared' listing := by
  simp only [scope, ha, hb, false_or, hsame]

/-- Patterns are not among the arguments. -/
theorem valueArgs_congr {a b : Arguments} (hab : b.unrestricted = a.unrestricted) :
    valueArgs b = valueArgs a := by
  have hsame : ∀ a : Arguments, valueArgs a = valueArgs a.unrestricted := fun _ => rfl
  rw [hsame b, hsame a, hab]

theorem callsFor_congr {a b : Arguments} (hab : b.unrestricted = a.unrestricted) :
    callsFor b = callsFor a := by
  funext names
  rw [callsFor, callsFor, valueArgs_congr hab]

/-! ## The phase -/

/-- A world after the listing of the sequences. -/
def listed (c : Collaborators σ) (excluded : List Identifier) (w : World σ) : World σ :=
  let (reply, around) := c.query (Catalog.sequencesQuery excluded) w.toSurroundings
  { w.heard around (.query (Catalog.sequencesQuery excluded) reply.result) with
    log := w.log ++ reply.log }

theorem listSequences_apply {c : Collaborators σ} {excluded : List Identifier} {w : World σ}
    {listing : Bytes}
    (h : (c.query (Catalog.sequencesQuery excluded) w.toSurroundings).1.result = .ok listing) :
    Catalog.listSequences c excluded w =
      (.ok (Catalog.sequencesOfReply listing), listed c excluded w) := by
  have hasked : Run.during .listSequences (Run.query c (Catalog.sequencesQuery excluded)) w =
      ((c.query (Catalog.sequencesQuery excluded) w.toSurroundings).1.result.mapError
        (Failure.under (.activity .listSequences)), listed c excluded w) :=
    Run.under_apply _ _ w
  rw [Catalog.listSequences, Run.bind_apply, hasked, h]
  rfl

/-- Nothing was called and nothing was written, and no sequence was counted. -/
def Idle (start : World σ) (outcome : Except Failure Nat × World σ) : Prop :=
  outcome.1 = .ok 0 ∧ outcome.2.exchanges = start.exchanges ∧ outcome.2.sink = start.sink

/-- One call was made. Its outcome is that of the work, with the number of the sequences it names in
place of that of its bytes. -/
def CallsOnce (c : Collaborators σ) (a : Arguments) (names : List Bytes) (start : World σ)
    (outcome : Except Failure Nat × World σ) : Prop :=
  ∃ log,
    let call := Run.dumpInto c (valueArgs a names) { start with log }
    outcome.1 = (call.1.mapError (Failure.under (.activity .dumpSequenceState))).map
        (fun _ => names.length) ∧
      outcome.2.exchanges = call.2.exchanges ∧ outcome.2.sink = call.2.sink ∧
      ∃ text, call.2.exchanges = start.exchanges ++ [.dumpInto (valueArgs a names) text]

theorem CallsOnce.not_idle {c : Collaborators σ} {a : Arguments} {names : List Bytes}
    {start : World σ} {outcome : Except Failure Nat × World σ}
    (h : CallsOnce c a names start outcome) : ¬ Idle start outcome := by
  obtain ⟨log, -, hcalled, -, text, hexchanges⟩ := h
  rintro ⟨-, hidle, -⟩
  have hnone := (hcalled.trans hexchanges).symm.trans hidle
  exact List.cons_ne_nil _ _ (List.append_right_eq_self.mp hnone)

/-- Behind a listing the phase is idle exactly when no sequence is in scope. -/
theorem dump_listed {c : Collaborators σ} {a : Arguments} {excluded declared : List Identifier}
    {w : World σ} {listing : Bytes}
    (h : (c.query (Catalog.sequencesQuery excluded) w.toSurroundings).1.result = .ok listing) :
    let names := scope a declared listing
    let outcome := dump c a.configuration.exporting excluded declared w
    (names = [] ↔ Idle (listed c excluded w) outcome) ∧
      (names ≠ [] → CallsOnce c a names (listed c excluded w) outcome) := by
  have hdump : dump c a.configuration.exporting excluded declared w = _ :=
    Run.bind_apply (Catalog.listSequences c excluded) _ w
  rw [listSequences_apply h] at hdump
  simp only [kept_eq_scope, args_eq_valueArgs, List.isEmpty_map, List.length_map] at hdump
  intro names outcome
  have hidle : names = [] → Idle (listed c excluded w) outcome := by
    intro hnone
    simp only [outcome, hdump]
    rw [show scope a declared listing = [] from hnone]
    exact ⟨rfl, rfl, rfl⟩
  have hcalls : names ≠ [] → CallsOnce c a names (listed c excluded w) outcome := by
    intro hsome
    let log := (listed c excluded w).log ++
      [⟨.info, .tail, "Dumping state of " ++ Text.decimal names.length ++ " sequence(s)..."⟩]
    obtain ⟨hresult, hexchanges, hsink⟩ := Run.during_said_apply .dumpSequenceState
      (Run.dumpInto c (valueArgs a names)) .info .tail "✓ Sequence state dumped" names.length
      { listed c excluded w with log }
    refine ⟨log, ?_⟩
    simp only [outcome, hdump, List.isEmpty_iff, show scope a declared listing ≠ [] from hsome,
      ite_false]
    exact ⟨hresult, hexchanges, hsink, Run.dumpInto_exchanges _ _ _⟩
  refine ⟨⟨hidle, fun h => ?_⟩, hcalls⟩
  by_contra hsome
  exact (hcalls hsome).not_idle h

/-- Other patterns leave the phase as it is. -/
theorem dump_congr {c : Collaborators σ} {a b : Arguments}
    {excluded declared declared' : List Identifier} (hab : b.unrestricted = a.unrestricted)
    (ha : a.patterns ≠ []) (hb : b.patterns ≠ []) (hsame : ∀ s, s ∈ declared ↔ s ∈ declared') :
    dump c b.configuration.exporting excluded declared' =
      dump c a.configuration.exporting excluded declared := by
  have hkept : kept b.configuration.exporting declared' =
      kept a.configuration.exporting declared := by
    funext listed
    rw [kept, kept, if_pos (b.hasObjectFilters_iff_patterns.mpr hb),
      if_pos (a.hasObjectFilters_iff_patterns.mpr ha)]
    simp only [hsame]
  have hargs : args b.configuration.exporting = args a.configuration.exporting := by
    have hoptions : ∀ a : Arguments,
        args a.configuration.exporting = args a.unrestricted.configuration.exporting :=
      fun _ => rfl
    rw [hoptions b, hoptions a, hab]
  rw [dump, dump, hkept, hargs]

end SequenceState

/-! ## The place of the phase -/

namespace Exchange

/-- The arguments of a call that exports values. -/
def valueArgs? : Exchange → Option (List Bytes)
  | dumpInto args _ => some args
  | _ => none

/-- Whether an exchange has nothing to do with sequences. -/
def Apart (e : Exchange) : Prop :=
  e.valueArgs? = none ∧ ∀ excluded result, e ≠ .query (Catalog.sequencesQuery excluded) result

theorem apart_dump (args : List Bytes) (result : Except Failure Bytes) :
    (dump args result).Apart :=
  ⟨rfl, nofun⟩

theorem apart_copyOut (sql : Bytes) (rows : Delivery) : (copyOut sql rows).Apart := ⟨rfl, nofun⟩

/-- The statement that lists sequences is told apart by its opening. -/
theorem apart_query {opening sql : Bytes} (hopening : opening <+: sql)
    (hunlike : Bytes.Unlike opening (Bytes.ofString "SELECT pg_catalog.quote_ident"))
    (result : Except Failure Bytes) : (query sql result).Apart := by
  refine ⟨rfl, fun excluded result' h => ?_⟩
  have hlisting : Bytes.ofString "SELECT pg_catalog.quote_ident" <+:
      Catalog.sequencesQuery excluded := by
    rw [Catalog.sequencesQuery, List.append_assoc]
    exact List.IsPrefix.trans (by decide) (List.prefix_append _ _)
  rw [(Exchange.query.inj h).1] at hopening
  exact hunlike.not_begins hlisting hopening

theorem apart_maskSchemaQuery (result : Except Failure Bytes) :
    (query Catalog.maskSchemaQuery result).Apart :=
  apart_query List.prefix_rfl (by decide) result

theorem apart_maskFiltersQuery (table : Identifier) (result : Except Failure Bytes) :
    (query (Catalog.maskFiltersQuery table) result).Apart := by
  have hunlike : Bytes.Unlike (Bytes.ofString "SELECT anon.mask_filters(")
      (Bytes.ofString "SELECT pg_catalog.quote_ident") := by
    decide
  refine apart_query ?_ hunlike result
  rw [Catalog.maskFiltersQuery, List.append_assoc]
  exact List.prefix_append _ _

end Exchange

namespace MaskedData

theorem Block.apart (b : Block) : ∀ e ∈ b.exchanges, e.Apart :=
  List.forall_mem_cons.mpr ⟨Exchange.apart_maskFiltersQuery _ _,
    List.forall_mem_singleton.mpr (Exchange.apart_copyOut _ _)⟩

theorem PhaseCourse.apart {α : Type} {read : Nat → α} {tables : List Identifier} {c : Course α}
    (h : PhaseCourse read tables c) : ∀ e ∈ c.exchanges, e.Apart := by
  have hblocks : ∀ blocks : List Block, ∀ e ∈ blocks.flatMap Block.exchanges, e.Apart := by
    intro blocks e he
    obtain ⟨b, -, he⟩ := List.mem_flatMap.mp he
    exact b.apart e he
  cases h with
  | whole blocks => exact hblocks blocks
  | broken blocks _ _ hbroken =>
    refine List.forall_mem_append.mpr ⟨hblocks blocks, ?_⟩
    rcases hbroken.broken with ⟨result, rfl⟩ | ⟨b, -, rfl⟩
    · exact List.forall_mem_singleton.mpr (Exchange.apart_maskFiltersQuery _ _)
    · exact b.apart

end MaskedData

/-- The phase lists the sequences, and exports their values if any are in scope. -/
theorem SequenceState.DumpCourse.record {a : Arguments} {excluded declared : List Identifier}
    {c : Course Nat} (h : DumpCourse a.configuration.exporting excluded declared c) :
    (∃ failure, c.exchanges = [.query (Catalog.sequencesQuery excluded) (.error failure)]) ∨
    ∃ listing calls,
      c.exchanges = .query (Catalog.sequencesQuery excluded) (.ok listing) :: calls ∧
      (scope a declared listing = [] ∧ calls = [] ∨
        scope a declared listing ≠ [] ∧
          ∃ text, calls = [.dumpInto (valueArgs a (scope a declared listing)) text]) := by
  cases h with
  | unlisted => exact .inl ⟨_, rfl⟩
  | none hkept =>
    rw [kept_eq_scope, List.map_eq_nil_iff] at hkept
    exact .inr ⟨_, _, rfl, .inl ⟨hkept, rfl⟩⟩
  | broken hkept hargs =>
    rw [kept_eq_scope, Ne, List.map_eq_nil_iff] at hkept
    rw [kept_eq_scope, args_eq_valueArgs] at hargs
    subst hargs
    exact .inr ⟨_, _, rfl, .inr ⟨hkept, _, rfl⟩⟩
  | whole hkept hargs =>
    rw [kept_eq_scope, Ne, List.map_eq_nil_iff] at hkept
    rw [kept_eq_scope, args_eq_valueArgs] at hargs
    subst hargs
    exact .inr ⟨_, _, rfl, .inr ⟨hkept, _, rfl⟩⟩

namespace Script

theorem HeadRecord.apart {options : ExportOptions} {exchanges : List Exchange}
    (h : HeadRecord options exchanges) : ∀ e ∈ exchanges, e.Apart := by
  cases h with
  | schema result => exact List.forall_mem_singleton.mpr (Exchange.apart_maskSchemaQuery _)
  | single reply result =>
    exact List.forall_mem_cons.mpr ⟨Exchange.apart_maskSchemaQuery _,
      List.forall_mem_singleton.mpr (Exchange.apart_dump _ _)⟩
  | double reply raw result =>
    exact List.forall_mem_cons.mpr ⟨Exchange.apart_maskSchemaQuery _,
      List.forall_mem_cons.mpr ⟨Exchange.apart_dump _ _,
        List.forall_mem_singleton.mpr (Exchange.apart_dump _ _)⟩⟩

theorem PostDataCourse.apart {options : ExportOptions} {excluded : List Identifier}
    {filter : ExtensionFilter} {c : Course Unit} (h : PostDataCourse options excluded filter c) :
    ∀ e ∈ c.exchanges, e.Apart := by
  cases h <;> exact List.forall_mem_singleton.mpr (Exchange.apart_dump _ _)

/-- Behind the definitions sequences are listed and exported in one phase, or not at all. -/
theorem TailCourse.sequencePhase {options : ExportOptions} {version : String}
    {excluded : List Identifier} {preData : PreData} {c : Course Summary}
    (h : TailCourse options version excluded preData c) :
    (∀ e ∈ c.exchanges, e.Apart) ∨
      ∃ (before after : List Exchange) (phase : Course Nat),
        c.exchanges = before ++ phase.exchanges ++ after ∧
        SequenceState.DumpCourse options excluded preData.sequences phase ∧
        (∀ e ∈ before, e.Apart) ∧ ∀ e ∈ after, e.Apart := by
  cases h with
  | stopped hdata => exact .inl hdata.apart
  | @resumed dataCalls _ _ _ hdata hrest =>
  cases hrest with
  | stopped hphase => exact .inr ⟨_, [], _, (List.append_nil _).symm, hphase, hdata.apart, nofun⟩
  | @resumed calls written count rest hphase hrest =>
  refine .inr ⟨dataCalls, rest.exchanges, ⟨calls, written, .ok count⟩,
    (List.append_assoc dataCalls calls rest.exchanges).symm, hphase, hdata.apart, ?_⟩
  cases hrest with
  | stopped hpostData => exact hpostData.apart
  | resumed hpostData hdone =>
    subst hdone
    rw [after, List.append_nil]
    exact hpostData.apart

/-- A dump stops before it lists sequences, or it lists them in one phase, for the definitions that
were exported first. -/
theorem DumpCourse.sequencePhase {options : ExportOptions} {version : String} {c : Course Summary}
    (h : DumpCourse options version c) :
    (∀ e ∈ c.exchanges, e.Apart) ∨
      ∃ (reply raw : Bytes) (args : List Bytes) (before after : List Exchange)
        (phase : Course Nat),
        c.exchanges = .query Catalog.maskSchemaQuery (.ok reply) :: .dump args (.ok raw) ::
          (before ++ phase.exchanges ++ after) ∧
        SequenceState.DumpCourse options (Catalog.excludedOfReply reply)
          (Discovery.sequences (ExtensionFilter.masking.apply raw).text) phase ∧
        (∀ e ∈ before, e.Apart) ∧ ∀ e ∈ after, e.Apart := by
  rcases h.head_or_tail with ⟨hhead, -, -⟩ | ⟨exchanges, reply, preData, tail, hleads, htail, rfl⟩
  · exact .inl hhead.apart
  · have hlead := hleads.headRecord.apart
    rcases htail.sequencePhase with hapart | ⟨before, after, phase, hrest, hphase, hbefore, hafter⟩
    · exact .inl (List.forall_mem_append.mpr ⟨hlead, hapart⟩)
    · obtain ⟨raw, second, -, hexchanges, rfl⟩ := hleads.exports
      rw [hexchanges, List.forall_mem_cons, List.forall_mem_cons] at hlead
      refine .inr ⟨reply, raw,
        Section.preData.args (Catalog.excludedOfReply reply) options.sectionArgs,
        _ ++ before, after, phase, ?_, hphase,
        List.forall_mem_append.mpr ⟨hlead.2.2, hbefore⟩, hafter⟩
      rw [Course.after, hexchanges, hrest]
      simp only [List.cons_append, List.append_assoc]

/-- The sequences that the definitions of a dump declare, as they are written. -/
def declaredBy (raw : Bytes) : List Identifier :=
  Discovery.sequences (ExtensionFilter.masking.apply raw).text

/-- Whether in a record the definitions were exported and the sequences were listed as two texts
say. -/
def Reaches (exchanges : List Exchange) (raw listing : Bytes) : Prop :=
  ∃ reply args rest,
    exchanges = .query Catalog.maskSchemaQuery (.ok reply) :: .dump args (.ok raw) :: rest ∧
    .query (Catalog.sequencesQuery (Catalog.excludedOfReply reply)) (.ok listing) ∈ rest

/-- The calls of a record that export values. -/
def valueCalls (exchanges : List Exchange) : List (List Bytes) :=
  exchanges.filterMap Exchange.valueArgs?

theorem valueCalls_append (exchanges more : List Exchange) :
    valueCalls (exchanges ++ more) = valueCalls exchanges ++ valueCalls more :=
  List.filterMap_append

theorem valueCalls_apart {exchanges : List Exchange} (h : ∀ e ∈ exchanges, e.Apart) :
    valueCalls exchanges = [] :=
  List.filterMap_eq_nil_iff.mpr fun e he => (h e he).1

theorem reaches_cons_cons {reply raw raw' listing : Bytes} {args : List Bytes}
    {rest : List Exchange} :
    Reaches (.query Catalog.maskSchemaQuery (.ok reply) :: .dump args (.ok raw) :: rest)
        raw' listing ↔
      raw' = raw ∧
        .query (Catalog.sequencesQuery (Catalog.excludedOfReply reply)) (.ok listing) ∈ rest := by
  constructor
  · rintro ⟨reply', args', rest', heq, hlisting⟩
    obtain ⟨hreply, heq⟩ := List.cons.inj heq
    obtain ⟨hraw, rfl⟩ := List.cons.inj heq
    obtain rfl := Except.ok.inj (Exchange.query.inj hreply).2
    exact ⟨(Except.ok.inj (Exchange.dump.inj hraw).2).symm, hlisting⟩
  · rintro ⟨rfl, hlisting⟩
    exact ⟨reply, args, rest, rfl, hlisting⟩

section Around

variable {before phase after : List Exchange} (hbefore : ∀ e ∈ before, e.Apart)
  (hafter : ∀ e ∈ after, e.Apart)

include hbefore hafter

theorem valueCalls_around :
    valueCalls (before ++ phase ++ after) = valueCalls phase := by
  rw [valueCalls_append, valueCalls_append, valueCalls_apart hbefore, valueCalls_apart hafter,
    List.nil_append, List.append_nil]

theorem listing_mem_around {excluded : List Identifier} {result : Except Failure Bytes} :
    .query (Catalog.sequencesQuery excluded) result ∈ before ++ phase ++ after ↔
      .query (Catalog.sequencesQuery excluded) result ∈ phase := by
  have hnotBefore : .query (Catalog.sequencesQuery excluded) result ∉ before :=
    fun hmem => (hbefore _ hmem).2 _ _ rfl
  have hnotAfter : .query (Catalog.sequencesQuery excluded) result ∉ after :=
    fun hmem => (hafter _ hmem).2 _ _ rfl
  simp only [List.mem_append, hnotBefore, hnotAfter, false_or, or_false]

end Around

/-- In its own record, the phase makes the calls for the listing that it got. -/
theorem valueCalls_phase {a : Arguments} {excluded declared : List Identifier} {c : Course Nat}
    (h : SequenceState.DumpCourse a.configuration.exporting excluded declared c) :
    (∀ listing, .query (Catalog.sequencesQuery excluded) (.ok listing) ∈ c.exchanges →
      valueCalls c.exchanges =
        SequenceState.callsFor a (SequenceState.scope a declared listing)) ∧
    (valueCalls c.exchanges ≠ [] →
      ∃ listing, .query (Catalog.sequencesQuery excluded) (.ok listing) ∈ c.exchanges) := by
  rcases h.record with ⟨failure, hrecord⟩ | ⟨listing, calls, hrecord, hscope⟩
  · rw [hrecord]
    refine ⟨fun listing hlisting => ?_, fun hcalls => absurd rfl hcalls⟩
    cases List.mem_singleton.mp hlisting
  · -- the listing was answered, and no other listing is in the record
    have honly : ∀ listing', .query (Catalog.sequencesQuery excluded) (.ok listing') ∈
        c.exchanges → listing' = listing := by
      intro listing' hlisting
      rw [hrecord] at hlisting
      rcases List.mem_cons.mp hlisting with hsame | hcall
      · exact Except.ok.inj (Exchange.query.inj hsame).2
      · rcases hscope with ⟨-, rfl⟩ | ⟨-, text, rfl⟩
        · cases hcall
        · cases List.mem_singleton.mp hcall
    refine ⟨fun listing' hlisting => ?_, fun _ => ⟨listing, hrecord ▸ List.mem_cons_self⟩⟩
    rw [honly listing' hlisting, hrecord, SequenceState.callsFor]
    rcases hscope with ⟨hnone, rfl⟩ | ⟨hsome, text, rfl⟩
    · rw [if_pos hnone]
      rfl
    · rw [if_neg hsome]
      rfl

theorem DumpCourse.valueCalls_eq {a : Arguments} {version : String} {c : Course Summary}
    (h : DumpCourse a.configuration.exporting version c) :
    (∀ raw listing, Reaches c.exchanges raw listing →
      valueCalls c.exchanges =
        SequenceState.callsFor a (SequenceState.scope a (declaredBy raw) listing)) ∧
    (valueCalls c.exchanges ≠ [] → ∃ raw listing, Reaches c.exchanges raw listing) := by
  rcases h.sequencePhase with hapart |
    ⟨reply, raw, args, before, after, phase, hexchanges, hphase, hbefore, hafter⟩
  · refine ⟨?_, fun hcalls => absurd (valueCalls_apart hapart) hcalls⟩
    rintro raw listing ⟨reply, args, rest, heq, hlisting⟩
    rw [heq, List.forall_mem_cons, List.forall_mem_cons] at hapart
    exact absurd rfl ((hapart.2.2 _ hlisting).2 _ _)
  · obtain ⟨hscope, hlisted⟩ := valueCalls_phase hphase
    have hcalls : valueCalls c.exchanges = valueCalls phase.exchanges := by
      rw [hexchanges]
      exact valueCalls_around hbefore hafter
    rw [hcalls, hexchanges]
    simp only [reaches_cons_cons, listing_mem_around hbefore hafter]
    constructor
    · rintro _ listing ⟨rfl, hlisting⟩
      exact hscope listing hlisting
    · intro hsome
      obtain ⟨listing, hlisting⟩ := hlisted hsome
      exact ⟨raw, listing, rfl, hlisting⟩

theorem valueCalls_of_reaches {c : Collaborators σ} {a : Arguments} {version : String} {w : World σ}
    {exchanges : List Exchange} {raw listing : Bytes}
    (hrun : (write c a.configuration.exporting version w).2.exchanges = w.exchanges ++ exchanges)
    (h : Reaches exchanges raw listing) :
    valueCalls exchanges =
      SequenceState.callsFor a (SequenceState.scope a (declaredBy raw) listing) := by
  obtain ⟨course, hcourse, -, hexchanges, -⟩ :=
    write_follows c a.configuration.exporting version w
  obtain rfl := List.append_cancel_left (hexchanges.symm.trans hrun)
  exact hcourse.valueCalls_eq.1 raw listing h

/-- The scope of the sequence values. Behind a listing that was answered, the phase is idle when no
sequence is in scope, and otherwise makes one call for those in scope. In a dump the declared
sequences are those of the definitions it writes. With patterns, a value is exported exactly for the
sequences that are listed and declared, and each of these has its header in the definitions. Which
patterns these are makes no difference: others in their place leave the phase as it is, and two
dumps with different ones, whatever the collaborators, make the same call if they list and declare
the same sequences. -/
theorem write_scoped (c : Collaborators σ) (a : Arguments) :
    (∀ (excluded declared : List Identifier) (w : World σ) (listing : Bytes),
      (c.query (Catalog.sequencesQuery excluded) w.toSurroundings).1.result = .ok listing →
      let names := SequenceState.scope a declared listing
      let start := SequenceState.listed c excluded w
      let outcome := SequenceState.dump c a.configuration.exporting excluded declared w
      (names = [] ↔ SequenceState.Idle start outcome) ∧
        (names ≠ [] → SequenceState.CallsOnce c a names start outcome)) ∧
    (∀ (version : String) (w : World σ), ∃ exchanges : List Exchange,
      (write c a.configuration.exporting version w).2.exchanges = w.exchanges ++ exchanges ∧
      (valueCalls exchanges ≠ [] → ∃ raw listing, Reaches exchanges raw listing) ∧
      ∀ raw listing, Reaches exchanges raw listing →
        valueCalls exchanges =
          SequenceState.callsFor a (SequenceState.scope a (declaredBy raw) listing) ∧
        (a.patterns ≠ [] → ∀ name,
          ((∃ args ∈ valueCalls exchanges, Bytes.ofString "--table=" ++ name ∈ args) ↔
            (∃ line ∈ Bytes.pieces listing, Bytes.trim line = name) ∧ name ≠ [] ∧
              ⟨name⟩ ∈ declaredBy raw)) ∧
        ∀ s ∈ declaredBy raw, ∃ lead rest,
          (ExtensionFilter.masking.apply raw).text = lead ++ rest ∧ Bytes.Closed lead ∧
            Discovery.NamesSequence rest s.bytes) ∧
    ∀ b : Arguments, b.unrestricted = a.unrestricted → a.patterns ≠ [] → b.patterns ≠ [] →
      (∀ excluded declared declared' : List Identifier, (∀ s, s ∈ declared ↔ s ∈ declared') →
        SequenceState.dump c b.configuration.exporting excluded declared' =
          SequenceState.dump c a.configuration.exporting excluded declared) ∧
      ∀ {τ : Type} (c' : Collaborators τ) (version version' : String) (w : World σ) (w' : World τ)
        (exchanges exchanges' : List Exchange) (raw raw' listing : Bytes),
        (write c a.configuration.exporting version w).2.exchanges = w.exchanges ++ exchanges →
        (write c' b.configuration.exporting version' w').2.exchanges =
          w'.exchanges ++ exchanges' →
        Reaches exchanges raw listing → Reaches exchanges' raw' listing →
        (∀ s, s ∈ declaredBy raw ↔ s ∈ declaredBy raw') →
        valueCalls exchanges' = valueCalls exchanges := by
  refine ⟨fun _ _ _ _ => SequenceState.dump_listed, fun version w => ?_,
    fun b hab ha hb => ⟨?_, ?_⟩⟩
  · obtain ⟨course, hcourse, -, hexchanges, -⟩ :=
      write_follows c a.configuration.exporting version w
    obtain ⟨hcalls, hreaches⟩ := hcourse.valueCalls_eq
    refine ⟨course.exchanges, hexchanges, hreaches, fun raw listing h => ⟨hcalls raw listing h, ?_,
      fun s => Discovery.mem_sequences⟩⟩
    intro hpatterns name
    rw [hcalls raw listing h, SequenceState.table_mem_callsFor, SequenceState.mem_scope]
    simp only [hpatterns, false_or]
  · intro excluded declared declared' hsame
    exact SequenceState.dump_congr hab ha hb hsame
  · intro τ c' version version' w w' exchanges exchanges' raw raw' listing hrun hrun' h h' hsame
    rw [valueCalls_of_reaches hrun h, valueCalls_of_reaches hrun' h',
      SequenceState.callsFor_congr hab, SequenceState.scope_congr ha hb hsame]

/-! ## Two dumps with patterns -/

/-- The two texts that a record tells, if it has them where they are to be. -/
def reached? : List Exchange → Option (Bytes × Bytes)
  | .query asked (.ok reply) :: .dump _ (.ok raw) :: rest =>
    if asked = Catalog.maskSchemaQuery then
      (rest.findSome? fun e => match e with
        | .query sql (.ok listing) =>
          if sql = Catalog.sequencesQuery (Catalog.excludedOfReply reply) then some listing
          else none
        | _ => none).map (raw, ·)
    else none
  | _ => none

theorem reaches_of_reached? {exchanges : List Exchange} {raw listing : Bytes}
    (h : reached? exchanges = some (raw, listing)) : Reaches exchanges raw listing := by
  unfold reached? at h
  split at h
  · rename_i asked reply args exported rest
    obtain ⟨hasked, hlisting⟩ := Option.ite_none_right_eq_some.mp h
    subst hasked
    obtain ⟨text, hfound, htexts⟩ := Option.map_eq_some_iff.mp hlisting
    obtain ⟨rfl, rfl⟩ := Prod.mk.inj htexts
    obtain ⟨e, he, hanswer⟩ := List.exists_of_findSome?_eq_some hfound
    refine ⟨reply, args, rest, rfl, ?_⟩
    split at hanswer
    · obtain ⟨hsql, htext⟩ := Option.ite_none_right_eq_some.mp hanswer
      rw [← hsql, ← Option.some.inj htext]
      exact he
    · cases hanswer
  · cases h

/-- A catalog that lists three sequences, and definitions that declare two of them. -/
def listingTools : Responder Unit where
  query sql s :=
    (if sql = Catalog.sequencesQuery [Catalog.anonSchema] then
      { result := .ok (Bytes.ofString " s.q \n\ns.r\ns.p") } else { result := .ok [] }, s)
  copyOut _ s := ({ bytes := [], ending := .ok () }, s)
  dump _ s := ({ result := .ok (Bytes.ofString "CREATE SEQUENCE s.p\nCREATE SEQUENCE s.q\n") }, s)
  dumpInto _ s := ({ bytes := Bytes.ofString "SELECT 1;\n", ending := .ok () }, s)

/-- The start of a dump of that database. -/
def listingWorld : World Unit where
  tools := ()
  files := { entries := [], workPlace := [] }

/-- Both make the same call, though they restrict the dump by different patterns. -/
theorem write_scoped_listing :
    ∃ (a b : Arguments) (exchanges exchanges' : List Exchange) (raw listing : Bytes),
      a.tables = ["s.*"] ∧ b.schemas = ["s"] ∧ b.unrestricted = a.unrestricted ∧
      (write listingTools.amongTools a.configuration.exporting "1.0" listingWorld).2.exchanges =
        listingWorld.exchanges ++ exchanges ∧
      (write listingTools.amongTools b.configuration.exporting "1.0" listingWorld).2.exchanges =
        listingWorld.exchanges ++ exchanges' ∧
      Reaches exchanges raw listing ∧ Reaches exchanges' raw listing ∧
      valueCalls exchanges = [[Bytes.ofString "--data-only", Bytes.ofString "--table=s.q",
        Bytes.ofString "--table=s.p"]] ∧
      valueCalls exchanges' = valueCalls exchanges := by
  let a : Arguments := { tables := ["s.*"] }
  let b : Arguments := { schemas := ["s"] }
  let raw := Bytes.ofString "CREATE SEQUENCE s.p\nCREATE SEQUENCE s.q\n"
  let listing := Bytes.ofString " s.q \n\ns.r\ns.p"
  let record (a : Arguments) : List Exchange :=
    (write listingTools.amongTools a.configuration.exporting "1.0" listingWorld).2.exchanges
  have hreaches : Reaches (record a) raw listing := reaches_of_reached? (by decide +kernel)
  have hreaches' : Reaches (record b) raw listing := reaches_of_reached? (by decide +kernel)
  have hcalls : valueCalls (record a) = [[Bytes.ofString "--data-only",
      Bytes.ofString "--table=s.q", Bytes.ofString "--table=s.p"]] := by
    decide +kernel
  obtain ⟨-, -, htwo⟩ := write_scoped (listingTools.amongTools : Collaborators Unit) a
  obtain ⟨-, hsame⟩ := htwo b rfl (by decide) (by decide)
  exact ⟨a, b, record a, record b, raw, listing, rfl, rfl, rfl, rfl, rfl, hreaches, hreaches',
    hcalls, hsame listingTools.amongTools "1.0" "1.0" listingWorld listingWorld _ _ _ _ _ rfl rfl
      hreaches hreaches' fun _ => Iff.rfl⟩

end Script

end MaskedDump
