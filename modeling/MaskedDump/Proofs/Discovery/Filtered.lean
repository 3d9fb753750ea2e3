import MaskedDump.Proofs.Discovery.Sequences
import MaskedDump.Proofs.Discovery.Tables
import MaskedDump.Proofs.Dump.Phases
import MaskedDump.Proofs.ExtensionFilter
import MaskedDump.Rehearsal.Rules
import Mathlib.Data.List.Basic

/-!
# Discovery in filtered definitions

A line that the filter removes begins like no header, neither that of a table nor that of a
sequence. So as long as no name goes over a line end, the lines that have a header are the same
before and after the filter, and so are the tables and sequences that are listed. The pre-data
section relies on it: the tables of the filtered export are looked up among those of a second export
that is not filtered.

Results:
* `tableName?_announced`, `sequenceName?_announced`: an announcement has no header;
* `tables_apply`, `sequences_apply`: what is listed before and after the filter;
* `discovery_apply`: both, and the tables with data when both exports are the same.
-/

namespace MaskedDump.Discovery

open Bytes ExtensionFilter

variable {extensions : List String}

/-! ## Announcements -/

/-- How announcements begin, whatever the extension is called. -/
def announcementHeads : List Bytes :=
  [ofString "-- Name: ", ofString "CREATE EXTENSION IF NOT EXISTS ",
    ofString "-- Name: EXTENSION ", ofString "COMMENT ON EXTENSION "]

theorem exists_announcementHead {line : Bytes} (h : Announces extensions line) :
    ∃ head ∈ announcementHeads, head <+: line := by
  obtain ⟨extension, -, announcement, hannouncement, hbegins⟩ := h
  have hhead : ∀ (head name rest : String), announcement = head ++ name ++ rest →
      ofString head <+: line := by
    rintro head name rest rfl
    refine List.IsPrefix.trans ?_ hbegins
    rw [ofString_append, ofString_append, List.append_assoc]
    exact List.prefix_append _ _
  simp only [announcements, List.mem_cons, List.not_mem_nil, or_false] at hannouncement
  rcases hannouncement with h | h | h | h
  · exact ⟨_, .head _, hhead "-- Name: " _ _ h⟩
  · exact ⟨_, .tail _ (.head _), hhead "CREATE EXTENSION IF NOT EXISTS " _ _ h⟩
  · exact ⟨_, .tail _ (.tail _ (.head _)), hhead "-- Name: EXTENSION " _ _ h⟩
  · exact ⟨_, .tail _ (.tail _ (.tail _ (.head _))), hhead "COMMENT ON EXTENSION " _ _ h⟩

theorem tableName?_announced {line : Bytes} (h : Announces extensions line) :
    tableName? line = none := by
  have hunlike : ∀ head ∈ announcementHeads, ∀ opening ∈ tableOpenings, Unlike opening head := by
    decide
  obtain ⟨head, hhead, hbegins⟩ := exists_announcementHead h
  rw [tableName?, tableHeader?_eq_none fun opening hopening =>
    (hunlike head hhead opening hopening).not_begins hbegins]
  rfl

/-- A clause begins with a space or with its own first letter, and no announcement does. -/
theorem OpensSequence.unlike_announcement {opening head : Bytes} (h : OpensSequence opening)
    (hhead : head ∈ announcementHeads) : Unlike opening head := by
  have hstatement : ∀ head ∈ announcementHeads, Unlike (ofString "CREATE SEQUENCE ") head := by
    decide
  have hclause : ∀ head ∈ announcementHeads, Unlike (ofString "SEQUENCE NAME ") head := by decide
  have hfirst : ∀ head ∈ announcementHeads,
      head ≠ [] ∧ head.head?.all fun b => !isSpace b := by
    decide
  cases h with
  | statement => exact hstatement head hhead
  | clause indent hindent =>
    cases indent with
    | nil => exact hclause head hhead
    | cons b indent =>
      obtain ⟨hne, hb⟩ := hfirst head hhead
      obtain ⟨b', head, rfl⟩ := List.exists_cons_of_ne_nil hne
      have hspace := hindent b List.mem_cons_self
      have hdiffer : b ≠ b' := by
        rintro rfl
        simp [hspace] at hb
      rw [List.cons_append]
      exact ⟨fun h => hdiffer (List.cons_prefix_cons.mp h).1,
        fun h => hdiffer (List.cons_prefix_cons.mp h).1.symm⟩

theorem sequenceName?_announced {line : Bytes} (h : Announces extensions line) :
    sequenceName? line = none := by
  cases hname : sequenceName? line with
  | none => rfl
  | some name =>
    obtain ⟨head, hhead, hbegins⟩ := exists_announcementHead h
    obtain ⟨_, rest, rfl, ⟨name, hopening, -⟩⟩ := sequenceName?_eq_some_iff.mp hname
    refine absurd ?_ ((hopening.unlike_announcement hhead).not_begins hbegins)
    rw [List.append_assoc]
    exact List.prefix_append _ _

/-! ## Lines before and after the filter -/

/-- An announcement stands in front of the line feed of its line. -/
theorem announces_body (hnames : ∀ extension ∈ extensions, '\n' ∉ extension.toList) {line : Bytes}
    (h : Announces extensions line) : Announces extensions (line.takeWhile (· ≠ lineFeed)) := by
  obtain ⟨extension, hextension, announcement, hannouncement, hbegins⟩ := h
  have hopening := mem_openings_ofExtensions.mpr
    ⟨extension, hextension, announcement, hannouncement, rfl⟩
  refine ⟨extension, hextension, announcement, hannouncement, ?_⟩
  obtain ⟨rest, rfl⟩ := hbegins
  rw [List.takeWhile_append_of_pos]
  · exact List.prefix_append _ _
  · rintro b hb
    refine decide_eq_true ?_
    rintro rfl
    exact lineFeed_not_mem_openings hnames _ hopening hb

/-- What is collected from lines that announce nothing is collected before and after the filter. -/
theorem filterMap_pieces_apply (hnames : ∀ extension ∈ extensions, '\n' ∉ extension.toList)
    {α : Type} {f : Bytes → Option α} (hnil : f [] = none)
    (hf : ∀ line, Announces extensions line → f line = none) (raw : Bytes) :
    (pieces ((ofExtensions extensions).apply raw).text).filterMap f =
      (pieces raw).filterMap f := by
  rw [filterMap_pieces hnil, filterMap_pieces hnil, lines_apply_ofExtensions hnames,
    List.filterMap_filter]
  refine List.filterMap_congr fun line _ => ?_
  by_cases h : Announces extensions line
  · rw [hf _ (announces_body hnames h)]
    simp [h]
  · simp [h]

/-! ## What is listed -/

theorem lineFeed_not_mem_scan {test : Bytes → Option Header} {ddl : Bytes}
    (h : ∀ name ∈ names test ddl, lineFeed ∉ name.bytes) :
    ∀ name ∈ scan test 0 true ddl, lineFeed ∉ name :=
  fun name hname => h ⟨name⟩ (mem_names.mpr hname)

theorem tables_apply (hnames : ∀ extension ∈ extensions, '\n' ∉ extension.toList) {raw : Bytes}
    (hraw : ∀ name ∈ tables raw, lineFeed ∉ name.bytes)
    (hfiltered : ∀ name ∈ tables ((ofExtensions extensions).apply raw).text,
      lineFeed ∉ name.bytes) :
    tables ((ofExtensions extensions).apply raw).text = tables raw := by
  rw [tables, tables, names, names, scan_lines (lineFeed_not_mem_scan hraw),
    scan_lines (lineFeed_not_mem_scan hfiltered),
    filterMap_pieces_apply hnames rfl fun _ => tableName?_announced]

theorem sequences_apply (hnames : ∀ extension ∈ extensions, '\n' ∉ extension.toList) {raw : Bytes}
    (hraw : ∀ name ∈ sequences raw, lineFeed ∉ name.bytes)
    (hfiltered : ∀ name ∈ sequences ((ofExtensions extensions).apply raw).text,
      lineFeed ∉ name.bytes) :
    sequences ((ofExtensions extensions).apply raw).text = sequences raw := by
  rw [sequences, sequences, names, names, scan_sequence_lines (lineFeed_not_mem_scan hraw),
    scan_sequence_lines (lineFeed_not_mem_scan hfiltered),
    filterMap_pieces_apply hnames rfl fun _ => sequenceName?_announced]

/-! ## The pre-data section -/

/-- Filtering does not change which tables and sequences are listed, as long as no listed name has a
line feed. So when every export of the pre-data section says the same, all tables get data. -/
theorem discovery_apply {σ : Type} (hnames : ∀ extension ∈ extensions, '\n' ∉ extension.toList)
    (raw : Bytes)
    (hraw : ∀ name ∈ tables raw ++ sequences raw, lineFeed ∉ name.bytes)
    (hfiltered : ∀ name ∈ tables ((ofExtensions extensions).apply raw).text ++
      sequences ((ofExtensions extensions).apply raw).text, lineFeed ∉ name.bytes) :
    tables ((ofExtensions extensions).apply raw).text = tables raw ∧
      sequences ((ofExtensions extensions).apply raw).text = sequences raw ∧
      ∀ (c : Collaborators σ) (options : ExportOptions) (excluded : List Identifier) (w : World σ)
        (made : List Exchange),
        (PreData.dump c options excluded (ofExtensions extensions) w).2.exchanges =
          w.exchanges ++ made →
        (∀ args result, .dump args result ∈ made → result = .ok raw) →
        ∃ found, (PreData.dump c options excluded (ofExtensions extensions) w).1 = .ok found ∧
          found.tables = tables raw ∧ found.sequences = sequences raw ∧
          found.dataTables = found.tables := by
  obtain ⟨htablesRaw, hsequencesRaw⟩ := List.forall_mem_append.mp hraw
  obtain ⟨htablesFiltered, hsequencesFiltered⟩ := List.forall_mem_append.mp hfiltered
  have htables := tables_apply hnames htablesRaw htablesFiltered
  have hsequences := sequences_apply hnames hsequencesRaw hsequencesFiltered
  refine ⟨htables, hsequences, fun c options excluded w made hmade hanswers => ?_⟩
  obtain ⟨course, hcourse, hresult, hexchanges, -⟩ :=
    PreData.dump_follows c options excluded (ofExtensions extensions) w
  obtain rfl := List.append_cancel_left (hmade.symm.trans hexchanges)
  rw [hresult]
  cases hcourse with
  | unexported => nomatch hanswers _ _ List.mem_cons_self
  | unlisted => nomatch hanswers _ _ (List.mem_cons_of_mem _ List.mem_cons_self)
  | single =>
    obtain rfl := Except.ok.inj (hanswers _ _ List.mem_cons_self)
    exact ⟨_, rfl, htables, hsequences, rfl⟩
  | double =>
    obtain rfl := Except.ok.inj (hanswers _ _ List.mem_cons_self)
    obtain rfl := Except.ok.inj (hanswers _ _ (List.mem_cons_of_mem _ List.mem_cons_self))
    refine ⟨_, rfl, htables, hsequences, ?_⟩
    -- every table of the filtered export is one of the second export
    rw [PreData.dataTables_ofExports]
    exact List.filter_eq_self.mpr fun table htable => by simpa [htables] using htable

/-- Definitions with blank lines and announcements between the headers, of which the last one is cut
off by the end of the text. -/
def announcing : Bytes :=
  ofString
    ("CREATE EXTENSION IF NOT EXISTS anon WITH SCHEMA anon;\nCREATE TABLE s.t (\n);\n\n"
      ++ "COMMENT ON EXTENSION anon IS 'x';\n    SEQUENCE NAME s.q\n"
      ++ "-- Name: EXTENSION anon; Type: COMMENT;\nCREATE UNLOGGED TABLE s.u\n"
      ++ "COMMENT ON EXTENSION anon IS 'y';")

/-- The start of a dump whose export tool answers every call with these definitions. -/
def announcingStart : World Rehearsal.Rules where
  tools := { exports := [{ fits := [], reply := announcing }] }
  files := { entries := [], workPlace := [] }

/-- The data of some tables is left out, but the second export leaves out none of these tables, so
both get data. -/
theorem discovery_apply_announcing :
    (∀ name ∈ tables announcing ++ sequences announcing, lineFeed ∉ name.bytes) ∧
      tables ((ofExtensions ["anon"]).apply announcing).text =
        [.ofString "s.t", .ofString "s.u"] ∧
      sequences ((ofExtensions ["anon"]).apply announcing).text = [.ofString "s.q"] ∧
      ∃ found, (PreData.dump Rehearsal.Rules.responder.amongTools { excludeTableData := ["none"] }
          [] (ofExtensions ["anon"]) announcingStart).1 = .ok found ∧
        found.dataTables = [.ofString "s.t", .ofString "s.u"] := by
  have htables : tables announcing = [.ofString "s.t", .ofString "s.u"] := by decide +kernel
  have hsequences : sequences announcing = [.ofString "s.q"] := by decide +kernel
  have hnames : ∀ extension ∈ ["anon"], '\n' ∉ extension.toList := by decide
  have hraw : ∀ name ∈ tables announcing ++ sequences announcing, lineFeed ∉ name.bytes := by
    rw [htables, hsequences]
    decide
  have hfiltered : ∀ name ∈ tables ((ofExtensions ["anon"]).apply announcing).text ++
      sequences ((ofExtensions ["anon"]).apply announcing).text, lineFeed ∉ name.bytes := by
    decide +kernel
  obtain ⟨htables', hsequences', hdump⟩ :=
    discovery_apply (σ := Rehearsal.Rules) hnames announcing hraw hfiltered
  have hanswers : ∀ args args' : List Bytes, ∀ other result,
      Exchange.dump other result ∈ [.dump args (.ok announcing), .dump args' (.ok announcing)] →
      result = Except.ok announcing := by
    simp only [List.mem_cons, List.not_mem_nil, or_false, Exchange.dump.injEq]
    rintro args args' other result (⟨-, h⟩ | ⟨-, h⟩) <;> exact h
  obtain ⟨found, hfound, hfoundTables, -, hdata⟩ := hdump Rehearsal.Rules.responder.amongTools
    { excludeTableData := ["none"] } [] announcingStart _ rfl (hanswers _ _)
  exact ⟨hraw, htables'.trans htables, hsequences'.trans hsequences, found, hfound,
    hdata.trans (hfoundTables.trans htables)⟩

end MaskedDump.Discovery
