import MaskedDump.Proofs.Discovery.Names
import MaskedDump.Proofs.Dump.Phases

/-!
# No rows without masks

Rows leave the database in the data phase alone, and only behind a lookup that was answered. So the
exchanges of a dump are those before the data, a lookup and a copy for each table whose rows were
asked for, and others among which there is no copy. Which tables these are was settled before the
first copy.

Results:
* `PreData.nodup_dataTables`: no table gets data twice;
* `write_copies_masked`: in every dump, failed or not, every copy selects what the lookup right
  before it answered, and the tables copied are the first ones of those that get data.
-/

namespace MaskedDump

open Course

variable {σ : Type}

/-! ## Exchanges that are no copies -/

theorem SequenceState.DumpCourse.not_isCopy {options : ExportOptions}
    {excluded declared : List Identifier} {c : Course Nat}
    (h : DumpCourse options excluded declared c) : ∀ e ∈ c.exchanges, ¬ e.IsCopy := by
  cases h <;> simp [Exchange.IsCopy]

namespace Script

theorem PostDataCourse.not_isCopy {options : ExportOptions} {excluded : List Identifier}
    {filter : ExtensionFilter} {c : Course Unit} (h : PostDataCourse options excluded filter c) :
    ∀ e ∈ c.exchanges, ¬ e.IsCopy := by
  cases h <;> simp [Exchange.IsCopy]

theorem HeadRecord.not_isCopy {options : ExportOptions} {exchanges : List Exchange}
    (h : HeadRecord options exchanges) : ∀ e ∈ exchanges, ¬ e.IsCopy := by
  cases h <;> simp [Exchange.IsCopy]

end Script

/-! ## The data phase -/

namespace MaskedData

theorem Block.exchanges_eq (b : Block) :
    b.exchanges =
      [.query
          (Bytes.ofString "SELECT anon.mask_filters(" ++ Sql.quoteLiteral b.table.bytes
            ++ Bytes.ofString "::REGCLASS);")
          (.ok b.reply),
        .copyOut
          (Bytes.ofString "COPY (SELECT "
            ++ (if Bytes.trim b.reply = [] then Bytes.ofString "*" else Bytes.trim b.reply)
            ++ Bytes.ofString " FROM ONLY " ++ b.table.bytes
            ++ Bytes.ofString ") TO STDOUT WITH CSV")
          b.rows] := by
  simp only [exchanges, Catalog.maskFiltersQuery, copyStatement, Catalog.columnsOfReply,
    Catalog.allColumns, List.isEmpty_iff]

end MaskedData

/-! ## The tables with data -/

theorem PreData.nodup_dataTables (filter : ExtensionFilter) (raw : Bytes) (second : Option Bytes) :
    (ofExports filter raw second).dataTables.Nodup := by
  rw [dataTables_ofExports]
  exact (Discovery.nodup_names _ _).filter _

namespace Script

/-- Behind the pre-data section there are copies in the data phase alone. -/
theorem TailCourse.blocks {options : ExportOptions} {version : String}
    {excluded : List Identifier} {preData : PreData} {c : Course Summary}
    (h : TailCourse options version excluded preData c) :
    ∃ (blocks : List MaskedData.Block) (after : List Exchange),
      c.exchanges = blocks.flatMap MaskedData.Block.exchanges ++ after ∧
      blocks.map MaskedData.Block.table <+: preData.dataTables ∧ ∀ e ∈ after, ¬ e.IsCopy := by
  cases h with
  | stopped hdata =>
    obtain ⟨blocks, lookups, hexchanges, htables, hlookups⟩ := hdata.blocks
    exact ⟨blocks, lookups, hexchanges, htables, fun e he => (hlookups e he).not_isCopy⟩
  | @resumed _ _ _ rest hdata hrest =>
    obtain ⟨blocks, lookups, hexchanges, htables, hlookups⟩ := hdata.blocks
    have hafter : ∀ e ∈ rest.exchanges, ¬ e.IsCopy := by
      refine hrest.forall_exchanges List.infix_rfl (fun _ h _ => h.not_isCopy) fun _ _ h _ => ?_
      refine h.forall_exchanges List.infix_rfl (fun _ h _ => h.not_isCopy) ?_
      rintro _ _ rfl
      nofun
    refine ⟨blocks, lookups ++ rest.exchanges, ?_, htables, ?_⟩
    · rw [after, ← List.append_assoc, ← hexchanges]
    · refine List.forall_mem_append.mpr ⟨fun e he => ?_, hafter⟩
      exact (hlookups e he).not_isCopy

/-! ## Every copy is masked -/

/-- In every dump the rows of a table are asked for right behind an answered lookup of its masks,
and with just these. No table is copied twice. The tables copied are the first ones of those that
the written definitions create and, when the data of some tables is left out, the second export
creates as well. -/
theorem write_copies_masked (c : Collaborators σ) (options : ExportOptions) (version : String)
    (w : World σ) :
    ∃ (before : List Exchange) (blocks : List MaskedData.Block) (after : List Exchange),
      (write c options version w).2.exchanges =
        w.exchanges ++
          (before ++
            blocks.flatMap (fun b =>
              [.query
                  (Bytes.ofString "SELECT anon.mask_filters(" ++ Sql.quoteLiteral b.table.bytes
                    ++ Bytes.ofString "::REGCLASS);")
                  (.ok b.reply),
                .copyOut
                  (Bytes.ofString "COPY (SELECT "
                    ++ (if Bytes.trim b.reply = [] then Bytes.ofString "*" else Bytes.trim b.reply)
                    ++ Bytes.ofString " FROM ONLY " ++ b.table.bytes
                    ++ Bytes.ofString ") TO STDOUT WITH CSV")
                  b.rows]) ++
            after) ∧
      (∀ sql rows, .copyOut sql rows ∉ before ++ after) ∧
      (blocks.map MaskedData.Block.table).Nodup ∧
      (blocks ≠ [] →
        ∃ (reply raw : Bytes) (second : Option Bytes),
          second.isSome = options.hasExcludedTableData ∧
          before =
            .query Catalog.maskSchemaQuery (.ok reply)
              :: .dump (Section.preData.args (Catalog.excludedOfReply reply) options.sectionArgs)
                  (.ok raw)
              :: second.toList.map (fun text =>
                .dump
                  (Section.preData.args (Catalog.excludedOfReply reply) options.dataDiscoveryArgs)
                  (.ok text)) ∧
          blocks.map MaskedData.Block.table <+:
            (Discovery.tables (ExtensionFilter.masking.apply raw).text).filter fun table =>
              second.all fun text => table ∈ Discovery.tables text) := by
  obtain ⟨course, hcourse, -, hexchanges, -⟩ := write_follows c options version w
  simp only [← MaskedData.Block.exchanges_eq]
  rw [hexchanges]
  rcases hcourse.head_or_tail with ⟨hhead, -, -⟩ |
    ⟨before, reply, preData, tail, hleads, htail, rfl⟩
  · refine ⟨course.exchanges, [], [], by simp, ?_, List.nodup_nil, nofun⟩
    rw [List.append_nil]
    exact Exchange.IsCopy.not_mem hhead.not_isCopy
  · obtain ⟨blocks, after, htailExchanges, htables, hafter⟩ := htail.blocks
    obtain ⟨raw, second, hsecond, hbefore, rfl⟩ := hleads.exports
    refine ⟨before, blocks, after, ?_, ?_, ?_, fun _ => ⟨reply, raw, second, hsecond, hbefore, ?_⟩⟩
    · rw [Course.after, htailExchanges, List.append_assoc before]
    · exact Exchange.IsCopy.not_mem
        (List.forall_mem_append.mpr ⟨hleads.headRecord.not_isCopy, hafter⟩)
    · exact htables.sublist.nodup (PreData.nodup_dataTables _ _ _)
    · rwa [← PreData.dataTables_ofExports]

end Script

end MaskedDump
