import MaskedDump.Proofs.Dump.Protocol
import MaskedDump.Proofs.Run.Accounts

/-!
# The account of a dump

Each phase of a dump takes its steps of the protocol and comes to what the answers say. This is
shown once for each phase, from the lookups up to the whole dump, for collaborators that answer or
fail as they like and a sink that may refuse or not.

`Script.write_accounts` is the account of a whole dump: its steps are those of some dialogue.
-/

namespace MaskedDump

variable {σ : Type} {c : Collaborators σ} {good : World σ → Prop} {refuses : Prop}

/-! ## Lookups -/

namespace Catalog

theorem excludedSchemas_accounts (h : Conduct c good refuses) :
    Accounts c good refuses (excludedSchemas c) fun steps excluded =>
      ∃ result, steps =
          [{ event := .call (.query maskSchemaQuery result), activity? := some .readMaskSchema }] ∧
        excluded = excludedOfReply (answered result) := by
  have hmask := h.lookup_accounts .readMaskSchema maskSchemaQuery maskOfReply
  refine hmask.bind ?_
  rintro _ mask ⟨result, rfl, rfl⟩
  exact .pure ⟨result, rfl, rfl⟩

theorem maskFilters_accounts (h : Conduct c good refuses) (table : Identifier) :
    Accounts c good refuses (maskFilters c table) fun steps columns =>
      ∃ result, steps =
          [{ event := .call (.query (maskFiltersQuery table) result)
             activity? := some (.lookUpMasks table) }] ∧
        columns = columnsOfReply (answered result) :=
  h.lookup_accounts (.lookUpMasks table) (maskFiltersQuery table) columnsOfReply

theorem listSequences_accounts (h : Conduct c good refuses) (excluded : List Identifier) :
    Accounts c good refuses (listSequences c excluded) fun steps listed =>
      ∃ result, steps =
          [{ event := .call (.query (sequencesQuery excluded) result)
             activity? := some .listSequences }] ∧
        listed = sequencesOfReply (answered result) :=
  h.lookup_accounts .listSequences (sequencesQuery excluded) sequencesOfReply

end Catalog

/-! ## Phases -/

theorem PreData.dump_accounts (h : Conduct c good refuses) (options : ExportOptions)
    (excluded : List Identifier) (filter : ExtensionFilter) :
    Accounts c good refuses (dump c options excluded filter) fun steps found =>
      ∃ first second, steps = PreData.steps options excluded first second ∧
        found = ofAnswers options filter first second := by
  refine h.after_say (((h.dump_accounts _).during _).bind ?_)
  rintro _ raw ⟨_, ⟨first, rfl, rfl⟩, rfl⟩
  refine h.after_say ?_
  unfold PreData.steps ofAnswers
  cases hexcluded : options.hasExcludedTableData with
  | true =>
    simp only [tablesWithData, hexcluded, ite_true, bind_assoc, pure_bind]
    refine ((h.dump_accounts _).during _).bind ?_
    rintro _ text ⟨_, ⟨second, rfl, rfl⟩, rfl⟩
    exact h.after_say (.pure ⟨first, second, rfl, rfl⟩)
  | false =>
    simp only [tablesWithData, hexcluded, Bool.false_eq_true, ite_false, pure_bind]
    exact h.after_say (.pure ⟨first, .ok [], rfl, rfl⟩)

namespace MaskedData

/-- The table is put on top of the steps of its block as a whole. -/
theorem copyTable_accounts (h : Conduct c good refuses) (table : Identifier) :
    Accounts c good refuses (Run.under (.tableExport table.sanitized) (copyTable c table))
      fun steps count =>
        ∃ answers : TableAnswers, answers.table = table ∧ steps = answers.steps ∧
          count = answers.rows.bytes.length := by
  have hblock : Accounts c good refuses (copyTable c table) fun steps count =>
      ∃ answers : TableAnswers, answers.table = table ∧
        steps = answers.steps.map (fun step => { step with table? := none }) ∧
        count = answers.rows.bytes.length := by
    refine (Catalog.maskFilters_accounts h table).bind ?_
    rintro _ columns ⟨masks, rfl, rfl⟩
    refine ((h.write_accounts _).during _).bind ?_
    rintro _ - ⟨_, rfl, rfl⟩
    refine (h.copyOut_accounts _).bind ?_
    rintro _ count ⟨_, ⟨rows, rfl, rfl⟩, rfl⟩
    refine ((h.write_accounts _).during _).bind ?_
    rintro _ - ⟨_, rfl, rfl⟩
    exact .pure ⟨⟨table, masks, rows⟩, rfl, rfl, rfl⟩
  refine (hblock.forTable table ?_).mono ?_
  · rintro _ _ ⟨answers, -, rfl, -⟩ step hstep
    obtain ⟨_, -, rfl⟩ := List.mem_map.mp hstep
    rfl
  · rintro _ _ ⟨_, ⟨answers, rfl, rfl, rfl⟩, rfl⟩
    exact ⟨answers, rfl, rfl, rfl⟩

/-- The blocks of some tables, by induction over the tables. -/
theorem copyTables_accounts (h : Conduct c good refuses) (total number : Nat)
    (tables : List Identifier) :
    Accounts c good refuses (copyTables c total number tables) fun steps count =>
      ∃ answers : List TableAnswers, answers.map TableAnswers.table = tables ∧
        steps = answers.flatMap TableAnswers.steps ∧
        count = (answers.flatMap (·.rows.bytes)).length := by
  induction tables generalizing number with
  | nil => exact .pure ⟨[], rfl, rfl, rfl⟩
  | cons table rest ih =>
    rw [copyTables]
    refine h.after_say ((copyTable_accounts h table).bind ?_)
    rintro _ count ⟨first, hfirst, rfl, rfl⟩
    refine (ih (number + 1)).bind ?_
    rintro _ more ⟨others, hothers, rfl, rfl⟩
    refine .pure ⟨first :: others, ?_, ?_, ?_⟩
    · rw [List.map_cons, hfirst, hothers]
    · rw [List.append_nil, List.flatMap_cons]
    · rw [List.flatMap_cons, List.length_append]

theorem stream_accounts (h : Conduct c good refuses) (tables : List Identifier) :
    Accounts c good refuses (stream c tables) fun steps summary =>
      ∃ answers : List TableAnswers, answers.map TableAnswers.table = tables ∧
        steps = answers.flatMap TableAnswers.steps ∧
        summary = ⟨tables.length, (answers.flatMap (·.rows.bytes)).length⟩ := by
  refine (copyTables_accounts h tables.length 1 tables).bind ?_
  rintro _ bytes ⟨answers, htables, rfl, rfl⟩
  exact .pure ⟨answers, htables, List.append_nil _, rfl⟩

end MaskedData

theorem SequenceState.dump_accounts (h : Conduct c good refuses) (options : ExportOptions)
    (excluded declared : List Identifier) :
    Accounts c good refuses (dump c options excluded declared) fun steps count =>
      ∃ listing values, steps = SequenceState.steps options excluded declared listing values ∧
        count = (kept options declared (Catalog.sequencesOfReply (answered listing))).length := by
  refine (Catalog.listSequences_accounts h excluded).bind ?_
  rintro _ listed ⟨listing, rfl, rfl⟩
  unfold SequenceState.steps
  by_cases hkept : kept options declared (Catalog.sequencesOfReply (answered listing)) = []
  · simp only [hkept, List.isEmpty_nil, ite_true]
    exact h.after_say (.pure ⟨listing, { bytes := [], ending := .ok () }, by simp [hkept]⟩)
  · simp only [List.isEmpty_iff, hkept, ite_false]
    refine h.after_say (((h.dumpInto_accounts _).during _).bind ?_)
    rintro _ count ⟨_, ⟨values, rfl, rfl⟩, rfl⟩
    exact h.after_say (.pure ⟨listing, values, by simp [hkept]⟩)

namespace Script

theorem writePostData_accounts (h : Conduct c good refuses) (options : ExportOptions)
    (excluded : List Identifier) :
    Accounts c good refuses (writePostData c options excluded ExtensionFilter.masking)
      fun steps _ => ∃ raw, steps = postDataSteps options excluded raw := by
  refine h.after_say (((h.dump_accounts _).during _).bind ?_)
  rintro _ text ⟨_, ⟨raw, rfl, rfl⟩, rfl⟩
  refine ((h.write_accounts _).during _).bind ?_
  rintro _ - ⟨_, rfl, rfl⟩
  exact h.say_accounts ⟨raw, rfl⟩

/-! ## The whole dump -/

/-- A dump takes the steps of some dialogue, and reports what its answers say. -/
theorem write_accounts (h : Conduct c good refuses) (options : ExportOptions) (version : String) :
    Accounts c good refuses (write c options version) fun steps summary =>
      ∃ d : Dialogue options, steps = d.steps version ∧ summary = d.summary version := by
  refine (Catalog.excludedSchemas_accounts h).bind ?_
  rintro _ excluded ⟨maskSchema, rfl, rfl⟩
  refine ((h.write_accounts _).during _).bind ?_
  rintro _ - ⟨_, rfl, rfl⟩
  refine h.after_say ((PreData.dump_accounts h options _ _).bind ?_)
  rintro _ found ⟨preData, discovery, rfl, rfl⟩
  refine ((h.write_accounts _).during _).bind ?_
  rintro _ - ⟨_, rfl, rfl⟩
  refine (h.write_accounts _).bind ?_
  rintro _ - ⟨_, rfl, rfl⟩
  refine h.after_say ((MaskedData.stream_accounts h _).bind ?_)
  rintro _ data ⟨tables, covers, rfl, rfl⟩
  refine h.after_say ((SequenceState.dump_accounts h options _ _).bind ?_)
  rintro _ sequences ⟨listing, values, rfl, rfl⟩
  refine h.after_say ((writePostData_accounts h options _).bind ?_)
  rintro _ - ⟨postData, rfl⟩
  refine .pure ⟨⟨maskSchema, preData, discovery, tables, listing, values, postData, covers⟩, ?_,
    rfl⟩
  simp only [Dialogue.steps, Dialogue.headSteps, Dialogue.tailSteps, List.append_assoc,
    List.append_nil]
  rfl

end Script

end MaskedDump
