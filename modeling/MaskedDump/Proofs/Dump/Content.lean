import MaskedDump.Proofs.Dump.Exports
import MaskedDump.Rehearsal.Rules

/-!
# The content of a whole dump

What a dump that did not fail has written, byte by byte, and what it reports. Everything in it that
does not come from the filter was answered by a collaborator, so the content is told by the
exchanges.

Results:
* `SequenceState.countP_args`: the sequences named by a call for values are counted right;
* `Script.TailCourse.of_ok`: what data, sequence values and post-data section write in a whole dump;
* `Script.write_content`: the content of a whole dump, and its summary.
-/

namespace MaskedDump

open Course

variable {σ : Type}

/-! ## Sequence values -/

namespace SequenceState

/-- Options name no table to export. -/
theorem countP_args (a : Arguments) (sequences : List Identifier) :
    (args a.configuration.exporting sequences).countP (Bytes.ofString "--table=").isPrefixOf =
      sequences.length := by
  have hdata : (Bytes.ofString "--table=").isPrefixOf (Bytes.ofString "--data-only") = false := by
    decide
  have htables : (sequences.map fun s => flagArgument "--table" s.bytes).countP
      (Bytes.ofString "--table=").isPrefixOf = sequences.length := by
    rw [List.countP_map, List.countP_eq_length]
    intro s _
    rw [Function.comp_apply, flagArgument_eq, List.isPrefixOf_iff_prefix]
    exact List.prefix_append _ _
  have hoptions : (a.configuration.exporting.sequenceArgs.map Bytes.ofString).countP
      (Bytes.ofString "--table=").isPrefixOf = 0 := by
    rw [List.countP_map, List.countP_eq_zero]
    intro option hoption
    rw [Function.comp_apply, List.isPrefixOf_iff_prefix]
    exact not_prefix_of_mem (by decide) hoption
  rw [args, List.countP_append, List.countP_cons, htables, hoptions, hdata]
  rfl

/-- The export of the values when it did not fail: the listing, and at most one call, which streamed
the values of the sequences that it names. -/
theorem DumpCourse.of_ok {a : Arguments} {excluded declared : List Identifier}
    {exchanges : List Exchange} {written : Bytes} {count : Nat}
    (h : DumpCourse a.configuration.exporting excluded declared ⟨exchanges, written, .ok count⟩) :
    ∃ (listing : Bytes) (call : Option (List Bytes × Delivery)),
      exchanges = .query (Catalog.sequencesQuery excluded) (.ok listing)
        :: call.toList.map (fun call => .dumpInto call.1 call.2) ∧
      written = call.elim [] (·.2.bytes) ∧
      count = call.elim 0 (·.1.countP (Bytes.ofString "--table=").isPrefixOf) := by
  cases h with
  | @none listing => exact ⟨listing, .none, rfl, rfl, rfl⟩
  | @whole listing text args _ hargs =>
    refine ⟨listing, some (args, text), rfl, rfl, ?_⟩
    rw [hargs]
    exact (countP_args a _).symm

end SequenceState

/-! ## The whole dump -/

theorem MaskedData.Block.text_eq (b : Block) :
    b.text =
      Bytes.ofString "COPY " ++ b.table.bytes ++ Bytes.ofString " FROM STDIN WITH CSV;\n" ++
        b.rows.bytes ++ Bytes.ofString "\\.\n\n" := rfl

namespace Script

theorem banner_eq (version : String) :
    banner version =
      Bytes.ofString
        ("--\n-- Dump generated by PostgreSQL Anonymizer " ++ version ++ "\n--\n") := by
  have hname : "--\n-- Dump generated by " ++ productName ++ " " =
      "--\n-- Dump generated by PostgreSQL Anonymizer " := by decide
  rw [banner, hname]

/-- Data, sequence values and post-data section of a dump that did not fail. -/
theorem TailCourse.of_ok {a : Arguments} {version : String} {excluded : List Identifier}
    {preData : PreData} {exchanges : List Exchange} {written : Bytes} {summary : Summary}
    (h : TailCourse a.configuration.exporting version excluded preData
      ⟨exchanges, written, .ok summary⟩) :
    ∃ (blocks : List MaskedData.Block) (listing : Bytes) (call : Option (List Bytes × Delivery))
      (raw : Bytes),
      blocks.map MaskedData.Block.table = preData.dataTables ∧
      exchanges =
        blocks.flatMap MaskedData.Block.exchanges ++
          (.query (Catalog.sequencesQuery excluded) (.ok listing)
            :: call.toList.map (fun call => .dumpInto call.1 call.2)) ++
          [.dump (Section.postData.args excluded a.configuration.exporting.sectionArgs)
            (.ok raw)] ∧
      written =
        blocks.flatMap MaskedData.Block.text ++ call.elim [] (·.2.bytes) ++
          (ExtensionFilter.masking.apply raw).text ∧
      summary = summaryOf version preData
        ⟨preData.dataTables.length, (blocks.flatMap (·.rows.bytes)).length⟩
        (call.elim 0 (·.1.countP (Bytes.ofString "--table=").isPrefixOf)) := by
  obtain ⟨_, _, data, _, _, hdata, hbehindData, rfl, rfl⟩ := Seq.of_ok h
  obtain ⟨_, _, count, _, _, hsequences, hbehindSequences, rfl, rfl⟩ := Seq.of_ok hbehindData
  obtain ⟨_, _, _, _, _, hpostData, hend, rfl, rfl⟩ := Seq.of_ok hbehindSequences
  obtain ⟨rfl, rfl, hsummary⟩ := Course.mk.inj hend
  obtain ⟨listing, call, rfl, rfl, rfl⟩ := hsequences.of_ok
  cases hdata with
  | @whole blocks htables _ =>
  cases hpostData with
  | @whole raw =>
  exact ⟨blocks, listing, call, raw, htables, by simp, by simp, Except.ok.inj hsummary⟩

/-- A dump that did not fail has written its banner, the filtered definitions and a line feed, a
block for each table with data, what the export of sequence values streamed, and the filtered
post-data section. It reports these tables, the other tables of the definitions, the sequences that
it named, and the bytes of all rows. -/
theorem write_content (c : Collaborators σ) (a : Arguments) (version : String) (w : World σ)
    (s : Summary) (hs : (write c a.configuration.exporting version w).1 = .ok s) :
    ∃ (reply raw : Bytes) (second : Option Bytes) (blocks : List MaskedData.Block)
      (listing : Bytes) (call : Option (List Bytes × Delivery)) (postData : Bytes),
      (write c a.configuration.exporting version w).2.exchanges =
        w.exchanges ++
          (.query Catalog.maskSchemaQuery (.ok reply)
            :: .dump (Section.preData.args (Catalog.excludedOfReply reply)
                a.configuration.exporting.sectionArgs) (.ok raw)
            :: second.toList.map (fun text =>
              .dump (Section.preData.args (Catalog.excludedOfReply reply)
                a.configuration.exporting.dataDiscoveryArgs) (.ok text)) ++
          (blocks.flatMap MaskedData.Block.exchanges ++
            (.query (Catalog.sequencesQuery (Catalog.excludedOfReply reply)) (.ok listing)
              :: call.toList.map (fun call => .dumpInto call.1 call.2)) ++
            [.dump (Section.postData.args (Catalog.excludedOfReply reply)
              a.configuration.exporting.sectionArgs) (.ok postData)])) ∧
      second.isSome = a.configuration.exporting.hasExcludedTableData ∧
      blocks.map MaskedData.Block.table =
        (Discovery.tables (ExtensionFilter.masking.apply raw).text).filter (fun table =>
          second.all fun text => table ∈ Discovery.tables text) ∧
      (write c a.configuration.exporting version w).2.sink.content =
        w.sink.content ++
          (Bytes.ofString
              ("--\n-- Dump generated by PostgreSQL Anonymizer " ++ version ++ "\n--\n") ++
            (ExtensionFilter.masking.apply raw).text ++ Bytes.ofString "\n" ++
            blocks.flatMap (fun b =>
              Bytes.ofString "COPY " ++ b.table.bytes ++ Bytes.ofString " FROM STDIN WITH CSV;\n" ++
                b.rows.bytes ++ Bytes.ofString "\\.\n\n") ++
            call.elim [] (·.2.bytes) ++
            (ExtensionFilter.masking.apply postData).text) ∧
      s.anonVersion = version ∧
      s.tables = blocks.length ∧
      s.tables + s.tablesWithoutData =
        (Discovery.tables (ExtensionFilter.masking.apply raw).text).length ∧
      s.sequences = call.elim 0 (·.1.countP (Bytes.ofString "--table=").isPrefixOf) ∧
      s.dataBytes = (blocks.flatMap (·.rows.bytes)).length := by
  obtain ⟨course, hcourse, hresult, hexchanges, hcontent⟩ :=
    write_follows c a.configuration.exporting version w
  rw [hs] at hresult
  rcases hcourse.head_or_tail with ⟨-, ⟨failure, hfailure⟩, -⟩ |
    ⟨before, reply, preData, ⟨exchanges, written, result⟩, hleads, htail, rfl⟩
  · rw [hfailure] at hresult
    nomatch hresult
  obtain rfl : .ok s = result := hresult
  obtain ⟨raw, second, hsecond, hbefore, rfl⟩ := hleads.exports
  obtain ⟨blocks, listing, call, postData, htables, rfl, rfl, rfl⟩ := htail.of_ok
  have hle : (PreData.ofExports ExtensionFilter.masking raw second).dataTables.length ≤
      (Discovery.tables (ExtensionFilter.masking.apply raw).text).length := by
    rw [PreData.dataTables_ofExports]
    exact List.length_filter_le _ _
  refine ⟨reply, raw, second, blocks, listing, call, postData, ?_, hsecond, ?_, ?_, rfl, ?_, ?_,
    rfl, rfl⟩
  · rw [hexchanges, hbefore]
    rfl
  · rw [htables, PreData.dataTables_ofExports]
  · have hlineFeed : Bytes.ofString "\n" = [Bytes.lineFeed] := by decide
    simp only [← MaskedData.Block.text_eq]
    rw [hcontent, banner_eq, hlineFeed]
    simp [Course.after, PreData.ofExports]
  · rw [← List.length_map MaskedData.Block.table, htables]
    rfl
  · exact Nat.add_sub_of_le hle

/-! ## A small dump -/

/-- A database with two tables, one of them with a name over two lines, and a sequence. -/
def sampleRules : Rehearsal.Rules where
  statements :=
    [{ fits := Bytes.ofString "COPY (SELECT ", reply := Bytes.ofString "a,b\n" },
      { fits := Bytes.ofString "information_schema.sequences", reply := Bytes.ofString " s.q \n" }]
  exports :=
    [{ fits := [Bytes.ofString "--section=pre-data", Bytes.ofString "--exclude-table=s.u"]
       reply := Bytes.ofString "CREATE TABLE s.\"t\nt\" (\n);\n" },
      { fits := [Bytes.ofString "--section=pre-data"]
        reply := Bytes.ofString
          ("CREATE EXTENSION IF NOT EXISTS anon WITH SCHEMA public;\n"
            ++ "CREATE TABLE s.\"t\nt\" (\n);\nCREATE TABLE s.u (\n);\nCREATE SEQUENCE s.q\n") },
      { fits := [Bytes.ofString "--data-only"], reply := Bytes.ofString "SELECT 1;\n" }]

/-- The start of a dump of that database. -/
def sampleStart : World Rehearsal.Rules where
  tools := sampleRules
  files := { entries := [], workPlace := [] }

/-- Arguments that leave out the rows of one table. -/
def sampleArguments : Arguments := { excludeTableData := ["s.u"] }

theorem write_content_sample :
    (write Rehearsal.Rules.responder.amongTools sampleArguments.configuration.exporting "1.0"
        sampleStart).1 = .ok ⟨"1.0", 1, 1, 1, 4⟩ ∧
      ∃ (blocks : List MaskedData.Block) (before after : Bytes), blocks.length = 1 ∧
        (write Rehearsal.Rules.responder.amongTools sampleArguments.configuration.exporting "1.0"
            sampleStart).2.sink.content =
          before ++ blocks.flatMap MaskedData.Block.text ++ after := by
  have hs : (write Rehearsal.Rules.responder.amongTools sampleArguments.configuration.exporting
      "1.0" sampleStart).1 = .ok ⟨"1.0", 1, 1, 1, 4⟩ := by decide +kernel
  obtain ⟨_, raw, _, blocks, _, call, postData, _, _, _, hcontent, _, htables, _⟩ :=
    write_content _ _ _ _ _ hs
  refine ⟨hs, blocks, banner "1.0" ++ (ExtensionFilter.masking.apply raw).text ++ [Bytes.lineFeed],
    call.elim [] (·.2.bytes) ++ (ExtensionFilter.masking.apply postData).text, htables.symm, ?_⟩
  have hlineFeed : Bytes.ofString "\n" = [Bytes.lineFeed] := by decide
  simp only [← MaskedData.Block.text_eq] at hcontent
  rw [hcontent, ← banner_eq, hlineFeed]
  simp [sampleStart]

end Script

end MaskedDump
