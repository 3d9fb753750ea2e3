import MaskedDump.Proofs.Dump.Blocks

/-!
# Courses of a dump

What each phase of a dump can do with collaborators that answer or fail as they like and a sink that
refuses when it likes. A dump is its phases in sequence: the first one that fails ends it.

Results:
* `PreData.DumpCourse.of_reports`, `SequenceState.DumpCourse.of_reports`,
  `Script.PostDataCourse.of_reports`: the courses of the steps around the data;
* `Script.DumpCourse.of_reports`, `Script.write_follows`: the courses of a whole dump.
-/

namespace MaskedDump

open Course

variable {σ : Type} {refuses : Prop}

/-! ## The pre-data section -/

namespace PreData

/-- Courses of the export of the section. The second export is made exactly when the data of some
tables is left out. -/
inductive DumpCourse (options : ExportOptions) (excluded : List Identifier)
    (filter : ExtensionFilter) : Course PreData → Prop
  | unexported {failure : Failure} :
      DumpCourse options excluded filter
        ⟨[.dump (Section.preData.args excluded options.sectionArgs) (.error failure)], [],
          .error (failure.under (.activity .dumpPreData))⟩
  | unlisted {raw : Bytes} {failure : Failure} : options.hasExcludedTableData = true →
      DumpCourse options excluded filter
        ⟨[.dump (Section.preData.args excluded options.sectionArgs) (.ok raw),
            .dump (Section.preData.args excluded options.dataDiscoveryArgs) (.error failure)], [],
          .error (failure.under (.activity .listDataTables))⟩
  | single {raw : Bytes} : options.hasExcludedTableData = false →
      DumpCourse options excluded filter
        ⟨[.dump (Section.preData.args excluded options.sectionArgs) (.ok raw)], [],
          .ok (ofExports filter raw none)⟩
  | double {raw second : Bytes} : options.hasExcludedTableData = true →
      DumpCourse options excluded filter
        ⟨[.dump (Section.preData.args excluded options.sectionArgs) (.ok raw),
            .dump (Section.preData.args excluded options.dataDiscoveryArgs) (.ok second)], [],
          .ok (ofExports filter raw (some second))⟩

theorem DumpCourse.of_reports {options : ExportOptions} {excluded : List Identifier}
    {filter : ExtensionFilter} {first second : Except Failure Bytes} {c : Course PreData}
    (h : Reports refuses (ofAnswers options filter first second)
      (PreData.steps options excluded first second) c) :
    DumpCourse options excluded filter c := by
  unfold PreData.steps ofAnswers at h
  cases h with
  | broken hfails =>
    obtain ⟨rfl, rfl⟩ := hfails
    exact .unexported
  | cons hfirst h =>
  obtain ⟨raw, rfl⟩ := hfirst
  cases hexcluded : options.hasExcludedTableData with
  | false =>
    rw [hexcluded] at h
    cases h
    exact .single hexcluded
  | true =>
    rw [hexcluded] at h
    cases h with
    | broken hfails =>
      obtain ⟨rfl, rfl⟩ := hfails
      exact .unlisted hexcluded
    | cons hsecond h =>
      obtain ⟨text, rfl⟩ := hsecond
      cases h
      exact .double hexcluded

theorem dump_follows (c : Collaborators σ) (options : ExportOptions) (excluded : List Identifier)
    (filter : ExtensionFilter) :
    Follows (dump c options excluded filter) (DumpCourse options excluded filter) := by
  refine (dump_accounts (conduct_any c) options excluded filter).follows ?_
  rintro _ _ course ⟨first, second, rfl, rfl⟩ hreports
  exact .of_reports hreports

end PreData

/-! ## Sequence values -/

namespace SequenceState

/-- Courses of the export of the values. It is made exactly when some sequence is kept. -/
inductive DumpCourse (options : ExportOptions) (excluded declared : List Identifier) :
    Course Nat → Prop
  | unlisted {failure : Failure} :
      DumpCourse options excluded declared
        ⟨[.query (Catalog.sequencesQuery excluded) (.error failure)], [],
          .error (failure.under (.activity .listSequences))⟩
  | none {listing : Bytes} : kept options declared (Catalog.sequencesOfReply listing) = [] →
      DumpCourse options excluded declared
        ⟨[.query (Catalog.sequencesQuery excluded) (.ok listing)], [], .ok 0⟩
  | broken {listing part : Bytes} {text : Delivery} {failure : Failure} {args : List Bytes} :
      kept options declared (Catalog.sequencesOfReply listing) ≠ [] →
      args = SequenceState.args options
        (kept options declared (Catalog.sequencesOfReply listing)) →
      Streamed (.dumpInto args) [.activity .dumpSequenceState]
        ⟨[.dumpInto args text], part, .error failure⟩ →
      DumpCourse options excluded declared
        ⟨[.query (Catalog.sequencesQuery excluded) (.ok listing), .dumpInto args text], part,
          .error failure⟩
  | whole {listing : Bytes} {text : Delivery} {args : List Bytes} :
      kept options declared (Catalog.sequencesOfReply listing) ≠ [] →
      args = SequenceState.args options
        (kept options declared (Catalog.sequencesOfReply listing)) →
      text.ending = .ok () →
      DumpCourse options excluded declared
        ⟨[.query (Catalog.sequencesQuery excluded) (.ok listing), .dumpInto args text], text.bytes,
          .ok (kept options declared (Catalog.sequencesOfReply listing)).length⟩

theorem DumpCourse.of_reports {options : ExportOptions} {excluded declared : List Identifier}
    {listing : Except Failure Bytes} {values : Delivery} {c : Course Nat}
    (h : Reports refuses
      (kept options declared (Catalog.sequencesOfReply (answered listing))).length
      (SequenceState.steps options excluded declared listing values) c) :
    DumpCourse options excluded declared c := by
  unfold SequenceState.steps at h
  cases h with
  | broken hfails =>
    obtain ⟨rfl, rfl⟩ := hfails
    exact .unlisted
  | cons hlisting h =>
  obtain ⟨reply, rfl⟩ := hlisting
  by_cases hkept : kept options declared (Catalog.sequencesOfReply reply) = []
  · simp only [answered_ok, hkept, List.isEmpty_nil, ite_true, List.length_nil] at h
    cases h
    exact .none hkept
  · simp only [answered_ok, List.isEmpty_iff, hkept, ite_false] at h
    cases h with
    | broken hfails => exact .broken hkept rfl (hfails.streamed _ _)
    | cons hended h =>
      cases h
      rw [List.append_nil, List.append_nil]
      exact .whole hkept rfl hended

end SequenceState

/-! ## The post-data section -/

namespace Script

/-- Courses of the post-data section. -/
inductive PostDataCourse (options : ExportOptions) (excluded : List Identifier)
    (filter : ExtensionFilter) : Course Unit → Prop
  | unexported {failure : Failure} :
      PostDataCourse options excluded filter
        ⟨[.dump (Section.postData.args excluded options.sectionArgs) (.error failure)], [],
          .error (failure.under (.activity .dumpPostData))⟩
  | cut {raw part : Bytes} {error : SystemError} : part <+: (filter.apply raw).text →
      PostDataCourse options excluded filter
        ⟨[.dump (Section.postData.args excluded options.sectionArgs) (.ok raw)], part,
          .error ((Failure.ofSystem error).under (.activity .writePostData))⟩
  | whole {raw : Bytes} :
      PostDataCourse options excluded filter
        ⟨[.dump (Section.postData.args excluded options.sectionArgs) (.ok raw)],
          (filter.apply raw).text, .ok ()⟩

theorem PostDataCourse.of_reports {options : ExportOptions} {excluded : List Identifier}
    {raw : Except Failure Bytes} {c : Course Unit}
    (h : Reports refuses () (postDataSteps options excluded raw) c) :
    PostDataCourse options excluded ExtensionFilter.masking c := by
  cases h with
  | broken hfails =>
    obtain ⟨rfl, rfl⟩ := hfails
    exact .unexported
  | cons hraw h =>
  obtain ⟨text, rfl⟩ := hraw
  cases h.wrote rfl with
  | whole => exact .whole
  | cut hpart => exact .cut hpart

/-! ## The whole dump -/

/-- Courses of what follows the pre-data section: data, sequence values, post-data section. -/
def TailCourse (options : ExportOptions) (version : String) (excluded : List Identifier)
    (preData : PreData) : Course Summary → Prop :=
  Seq (MaskedData.PhaseCourse (DataSummary.mk preData.dataTables.length) preData.dataTables)
    fun data =>
  Seq (SequenceState.DumpCourse options excluded preData.sequences) fun sequences =>
  Seq (PostDataCourse options excluded ExtensionFilter.masking) fun _ c =>
    c = ⟨[], [], .ok (summaryOf version preData data sequences)⟩

/-- Courses of a dump: its phases in sequence. -/
def DumpCourse (options : ExportOptions) (version : String) : Course Summary → Prop :=
  Seq (Asked (.query Catalog.maskSchemaQuery) [.activity .readMaskSchema] Catalog.excludedOfReply)
    fun excluded =>
  Seq (Wrote (banner version) [.activity .writeBanner]) fun _ =>
  Seq (PreData.DumpCourse options excluded ExtensionFilter.masking) fun preData =>
  Seq (Wrote preData.ddl [.activity .writePreData]) fun _ =>
  Seq (Wrote [Bytes.lineFeed] []) fun _ =>
    TailCourse options version excluded preData

/-- The courses of the steps of a dialogue, phase by phase. -/
theorem DumpCourse.of_reports {options : ExportOptions} {version : String}
    {d : Dialogue options} {c : Course Summary}
    (h : Reports refuses (d.summary version) (d.steps version) c) :
    DumpCourse options version c := by
  let data : DataSummary := ⟨d.found.dataTables.length, (d.tables.flatMap (·.rows.bytes)).length⟩
  have hdata : ∀ c, Reports refuses data (d.tables.flatMap TableAnswers.steps) c →
      MaskedData.PhaseCourse (DataSummary.mk d.found.dataTables.length) d.found.dataTables c := by
    intro c h
    have hphase := MaskedData.PhaseCourse.of_reports (DataSummary.mk _) h
    rwa [d.covers] at hphase
  simp only [Dialogue.steps, Dialogue.headSteps, Dialogue.tailSteps, List.append_assoc,
    List.cons_append, List.nil_append] at h
  refine h.seq_cons (fun _ h => h.asked rfl) fun _ h => ?_
  refine h.seq_cons (fun _ h => h.wrote rfl) fun _ h => ?_
  refine h.seq (fun _ h => .of_reports h) fun _ h => ?_
  refine h.seq_cons (fun _ h => h.wrote rfl) fun _ h => ?_
  refine h.seq_cons (fun _ h => h.wrote rfl) fun _ h => ?_
  -- behind the definitions
  rw [← List.append_nil (postDataSteps _ _ _)] at h
  refine h.seq hdata fun _ h => ?_
  refine h.seq (fun _ h => .of_reports h) fun _ h => ?_
  refine h.seq (fun _ h => .of_reports h) fun _ h => ?_
  cases h
  rfl

theorem write_follows (c : Collaborators σ) (options : ExportOptions) (version : String) :
    Follows (write c options version) (DumpCourse options version) := by
  refine (write_accounts (conduct_any c) options version).follows ?_
  rintro _ _ course ⟨d, rfl, rfl⟩ hreports
  exact .of_reports hreports

/-! ## Before the data -/

/-- The exchanges before the data when nothing failed, and what they say: the reply to the lookup of
the mask schema, and the pre-data section. -/
inductive Leads (options : ExportOptions) : List Exchange → Bytes → PreData → Prop
  | single {reply raw : Bytes} : options.hasExcludedTableData = false →
      Leads options
        [.query Catalog.maskSchemaQuery (.ok reply),
          .dump (Section.preData.args (Catalog.excludedOfReply reply) options.sectionArgs)
            (.ok raw)]
        reply (.ofExports ExtensionFilter.masking raw none)
  | double {reply raw second : Bytes} : options.hasExcludedTableData = true →
      Leads options
        [.query Catalog.maskSchemaQuery (.ok reply),
          .dump (Section.preData.args (Catalog.excludedOfReply reply) options.sectionArgs)
            (.ok raw),
          .dump (Section.preData.args (Catalog.excludedOfReply reply) options.dataDiscoveryArgs)
            (.ok second)]
        reply (.ofExports ExtensionFilter.masking raw (some second))

/-- The exchanges before the data as far as they came. All but the last one were answered. -/
inductive HeadRecord (options : ExportOptions) : List Exchange → Prop
  | schema (result : Except Failure Bytes) :
      HeadRecord options [.query Catalog.maskSchemaQuery result]
  | single (reply : Bytes) (result : Except Failure Bytes) :
      HeadRecord options
        [.query Catalog.maskSchemaQuery (.ok reply),
          .dump (Section.preData.args (Catalog.excludedOfReply reply) options.sectionArgs) result]
  | double (reply raw : Bytes) (result : Except Failure Bytes) :
      HeadRecord options
        [.query Catalog.maskSchemaQuery (.ok reply),
          .dump (Section.preData.args (Catalog.excludedOfReply reply) options.sectionArgs)
            (.ok raw),
          .dump (Section.preData.args (Catalog.excludedOfReply reply) options.dataDiscoveryArgs)
            result]

theorem Leads.headRecord {options : ExportOptions} {exchanges : List Exchange} {reply : Bytes}
    {preData : PreData} (h : Leads options exchanges reply preData) :
    HeadRecord options exchanges := by
  cases h with
  | single _ => exact .single _ _
  | double _ => exact .double _ _ _

/-- The definitions that are written are a filtered export. -/
theorem Leads.ddl {options : ExportOptions} {exchanges : List Exchange} {reply : Bytes}
    {preData : PreData} (h : Leads options exchanges reply preData) :
    ∃ raw, preData.ddl = (ExtensionFilter.masking.apply raw).text := by
  cases h with
  | single _ => exact ⟨_, rfl⟩
  | double _ => exact ⟨_, rfl⟩

/-- A second export was made exactly when the data of some tables is left out. -/
theorem Leads.exports {options : ExportOptions} {exchanges : List Exchange} {reply : Bytes}
    {preData : PreData} (h : Leads options exchanges reply preData) :
    ∃ (raw : Bytes) (second : Option Bytes), second.isSome = options.hasExcludedTableData ∧
      exchanges =
        .query Catalog.maskSchemaQuery (.ok reply)
          :: .dump (Section.preData.args (Catalog.excludedOfReply reply) options.sectionArgs)
              (.ok raw)
          :: second.toList.map (fun text =>
            .dump (Section.preData.args (Catalog.excludedOfReply reply) options.dataDiscoveryArgs)
              (.ok text)) ∧
      preData = .ofExports ExtensionFilter.masking raw second := by
  cases h with
  | @single _ raw h => exact ⟨raw, none, h.symm, rfl, rfl⟩
  | @double _ raw second h => exact ⟨raw, some second, h.symm, rfl, rfl⟩

/-- The pre-data section behind the lookup of the mask schema: nothing is written, and it ends with
the failure of an export or with all that is to be known before the data. -/
theorem headRecord_or_leads {options : ExportOptions} {reply written : Bytes}
    {exchanges : List Exchange} {result : Except Failure PreData}
    (h : PreData.DumpCourse options (Catalog.excludedOfReply reply) ExtensionFilter.masking
      ⟨exchanges, written, result⟩) :
    written = [] ∧ HeadRecord options (.query Catalog.maskSchemaQuery (.ok reply) :: exchanges) ∧
      ∀ preData, result = .ok preData →
        Leads options (.query Catalog.maskSchemaQuery (.ok reply) :: exchanges) reply preData := by
  cases h with
  | unexported => exact ⟨rfl, .single _ _, nofun⟩
  | unlisted _ => exact ⟨rfl, .double _ _ _, nofun⟩
  | single hexcluded =>
    refine ⟨rfl, .single _ _, ?_⟩
    rintro _ ⟨⟩
    exact .single hexcluded
  | double hexcluded =>
    refine ⟨rfl, .double _ _ _, ?_⟩
    rintro _ ⟨⟩
    exact .double hexcluded

/-- A dump stops before the data, with a beginning of its banner and definitions written, or it
reaches the data. -/
theorem DumpCourse.head_or_tail {options : ExportOptions} {version : String} {c : Course Summary}
    (h : DumpCourse options version c) :
    (HeadRecord options c.exchanges ∧ (∃ failure, c.result = .error failure) ∧
      ∃ raw, c.written <+:
        banner version ++ (ExtensionFilter.masking.apply raw).text ++ [Bytes.lineFeed]) ∨
    ∃ exchanges reply preData tail, Leads options exchanges reply preData ∧
      TailCourse options version (Catalog.excludedOfReply reply) preData tail ∧
      c = tail.after exchanges (banner version ++ preData.ddl ++ [Bytes.lineFeed]) := by
  -- the lookup of the mask schema
  cases h with
  | stopped h =>
    cases h
    exact .inl ⟨.schema _, ⟨_, rfl⟩, [], List.nil_prefix⟩
  | resumed h hrest =>
  obtain ⟨reply⟩ | _ := h
  -- the banner
  cases hrest with
  | stopped h =>
    obtain _ | hpart := h
    exact .inl ⟨.schema _, ⟨_, rfl⟩, [], hpart.trans (by simp)⟩
  | resumed h hrest =>
  cases h
  -- the exports of the pre-data section
  cases hrest with
  | stopped h =>
    obtain ⟨rfl, hhead, _⟩ := headRecord_or_leads h
    exact .inl ⟨hhead, ⟨_, rfl⟩, [], by simp [after]⟩
  | @resumed exchanges _ preData _ h hrest =>
  obtain ⟨rfl, hhead, hleads⟩ := headRecord_or_leads h
  have hleads := hleads preData rfl
  obtain ⟨raw, hraw⟩ := hleads.ddl
  -- the definitions, and the line feed behind them
  cases hrest with
  | stopped h =>
    obtain _ | hpart := h
    refine .inl ⟨by simpa [after] using hhead, ⟨_, rfl⟩, raw, ?_⟩
    rw [hraw] at hpart
    simpa [after] using hpart.trans (List.prefix_append _ _)
  | resumed h hrest =>
  cases h
  cases hrest with
  | stopped h =>
    obtain _ | hpart := h
    refine .inl ⟨by simpa [after] using hhead, ⟨_, rfl⟩, raw, ?_⟩
    simpa [after, hraw] using hpart
  | resumed h htail =>
  cases h
  exact .inr ⟨_, reply, preData, _, hleads, htail, by simp [after]⟩

end Script

end MaskedDump
