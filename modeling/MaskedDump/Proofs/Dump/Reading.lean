import MaskedDump.Proofs.Discovery.Names
import MaskedDump.Proofs.Dump.Blocks
import MaskedDump.Rehearsal.Rules

/-!
# Reading blocks back

The data phase writes rows as they come, between a header and a terminator. Who replays the dump
takes the lines behind a header for rows, up to the first one that ends the rows of a table. So the
blocks are read back as they were written just if the rows of each table are whole lines, none of
which is such a line.

Results:
* `readRows?_eq_some_iff`: rows are read up to the first line that ends them;
* `readBlock?_eq_some_iff`, `readBlocks?_eq_some_iff`: what is read is what was put together from
  names that can be printed and rows that can be told from the terminator;
* `stream_readBack`: the blocks of the data phase are read back just if all rows are such rows.
-/

namespace MaskedDump.MaskedData

open Bytes Course

variable {σ : Type}

/-- The line that ends the rows of a table. -/
def endOfRows : Bytes := ofString "\\.\n"

/-- Whether rows can be told from the terminator behind them: they are whole lines, and none of them
ends the rows of a table. -/
def Readable (rows : Bytes) : Prop := Closed rows ∧ endOfRows ∉ lines rows

/-! ## The rows of a table -/

/-- The lines in front of the first one that ends the rows of a table, and those behind it. -/
def splitRows? : List Bytes → Option (List Bytes × List Bytes)
  | [] => none
  | line :: rest =>
    if line = endOfRows then some ([], rest)
    else (splitRows? rest).map fun (rows, behind) => (line :: rows, behind)

/-- Reads rows, the line that ends them, and an empty line. -/
def readRows? (text : Bytes) : Option (Bytes × Bytes) := do
  let (rows, behind) ← splitRows? (lines text)
  let rest ← after? [lineFeed] behind.flatten
  return (rows.flatten, rest)

theorem splitRows?_eq_some_iff {text rows behind : List Bytes} :
    splitRows? text = some (rows, behind) ↔
      endOfRows ∉ rows ∧ text = rows ++ endOfRows :: behind := by
  induction text generalizing rows with
  | nil => simp [splitRows?]
  | cons line rest ih =>
    rw [splitRows?]
    by_cases hline : line = endOfRows
    · rw [if_pos hline, hline]
      constructor
      · rintro ⟨⟩
        exact ⟨List.not_mem_nil, rfl⟩
      · rintro ⟨hrows, hsplit⟩
        cases rows with
        | nil =>
          obtain ⟨-, rfl⟩ := List.cons.inj hsplit
          rfl
        | cons row rows =>
          obtain ⟨rfl, -⟩ := List.cons.inj hsplit
          exact absurd List.mem_cons_self hrows
    · rw [if_neg hline, Option.map_eq_some_iff]
      constructor
      · rintro ⟨⟨more, _⟩, hmore, heq⟩
        obtain ⟨rfl, rfl⟩ := Prod.mk.inj heq
        obtain ⟨hrows, rfl⟩ := ih.mp hmore
        exact ⟨List.not_mem_cons_of_ne_of_not_mem (Ne.symm hline) hrows, rfl⟩
      · rintro ⟨hrows, hsplit⟩
        cases rows with
        | nil => exact absurd (List.cons.inj hsplit).1 hline
        | cons row rows =>
          obtain ⟨rfl, rfl⟩ := List.cons.inj hsplit
          exact ⟨_, ih.mpr ⟨(List.ne_and_not_mem_of_not_mem_cons hrows).2, rfl⟩, rfl⟩

theorem terminator_eq : terminator = endOfRows ++ [lineFeed] := by decide

theorem isLine_endOfRows : IsLine endOfRows := ⟨ofString "\\.", by decide, by decide⟩

theorem readRows?_eq_some_iff {text rows rest : Bytes} :
    readRows? text = some (rows, rest) ↔ Readable rows ∧ text = rows ++ (terminator ++ rest) := by
  simp only [readRows?, Option.bind_eq_bind, Option.bind_eq_some_iff, Option.pure_def, Prod.exists,
    terminator_eq]
  constructor
  · rintro ⟨rows, behind, hsplit, rest, hrest, ⟨⟩⟩
    obtain ⟨hrows, htext⟩ := splitRows?_eq_some_iff.mp hsplit
    have hlines : ∀ line ∈ rows, IsLine line := isLine_of_lines_eq htext
    have hflatten : lines rows.flatten = rows := by
      have h := lines_flatten_append hlines []
      rwa [List.append_nil, lines, List.append_nil] at h
    refine ⟨⟨closed_flatten hlines, hflatten.symm ▸ hrows⟩, ?_⟩
    rw [← flatten_lines text, htext, List.flatten_append, List.flatten_cons,
      after?_eq_some_iff.mp hrest, List.append_assoc endOfRows]
  · rintro ⟨⟨hclosed, hrows⟩, rfl⟩
    have hlines : lines (rows ++ (endOfRows ++ [lineFeed] ++ rest)) =
        lines rows ++ endOfRows :: lines ([lineFeed] ++ rest) := by
      rw [lines_append hclosed, List.append_assoc, lines_isLine_append isLine_endOfRows]
    refine ⟨_, _, splitRows?_eq_some_iff.mpr ⟨hrows, hlines⟩, rest, ?_, ?_⟩
    · rw [flatten_lines]
      exact after?_eq_some_iff.mpr rfl
    · rw [flatten_lines]

/-! ## Blocks -/

/-- Reads the block of a table: its name and its rows. -/
def readBlock? (text : Bytes) : Option ((Identifier × Bytes) × Bytes) := do
  let named ← after? (ofString "COPY ") text
  let (name, behind) ← Sql.name? named
  let body ← after? (ofString " FROM STDIN WITH CSV;\n") behind
  let (rows, rest) ← readRows? body
  return ((⟨name⟩, rows), rest)

/-- The block of a table with its rows. -/
def blockText (block : Identifier × Bytes) : Bytes := header block.1 ++ block.2 ++ terminator

/-- Whether a block can be read back: its table has a name that can be printed, and its rows can be
told from the terminator. -/
def Restorable (block : Identifier × Bytes) : Prop :=
  (∃ name : Sql.Name, block.1.bytes = name.text) ∧ Readable block.2

theorem readBlock?_eq_some_iff {text rest : Bytes} {block : Identifier × Bytes} :
    readBlock? text = some (block, rest) ↔ Restorable block ∧ text = blockText block ++ rest := by
  obtain ⟨⟨table⟩, rows⟩ := block
  simp only [readBlock?, Option.bind_eq_bind, Option.bind_eq_some_iff, Option.pure_def, Prod.exists,
    blockText, header, List.append_assoc]
  constructor
  · rintro ⟨named, hnamed, name, behind, hname, body, hbody, rows, rest, hrows, ⟨⟩⟩
    obtain ⟨hreadable, rfl⟩ := readRows?_eq_some_iff.mp hrows
    refine ⟨⟨Sql.text_of_name? hname, hreadable⟩, ?_⟩
    rw [after?_eq_some_iff.mp hnamed, ← Sql.name?_append hname, after?_eq_some_iff.mp hbody]
  · rintro ⟨⟨⟨name, hname⟩, hreadable⟩, rfl⟩
    obtain rfl : table = name.text := hname
    have hends : Sql.EndsName
        (ofString " FROM STDIN WITH CSV;\n" ++ (rows ++ (terminator ++ rest))) :=
      Sql.endsName_cons (b := space) (by decide) (by decide) (by decide) _
    exact ⟨_, after?_eq_some_iff.mpr rfl, _, _, Sql.name?_text name hends, _,
      after?_eq_some_iff.mpr rfl, _, _, readRows?_eq_some_iff.mpr ⟨hreadable, rfl⟩, rfl⟩

theorem blockText_ne_nil (block : Identifier × Bytes) : blockText block ≠ [] :=
  List.append_ne_nil_of_right_ne_nil _ (by decide)

theorem length_lt_of_readBlock? {text rest : Bytes} {block : Identifier × Bytes}
    (h : readBlock? text = some (block, rest)) : rest.length < text.length := by
  obtain ⟨-, rfl⟩ := readBlock?_eq_some_iff.mp h
  have hpos := List.length_pos_iff.mpr (blockText_ne_nil block)
  rw [List.length_append]
  omega

/-- Reads blocks until the end of a text. -/
def readBlocks? (text : Bytes) : Option (List (Identifier × Bytes)) :=
  if text = [] then some []
  else
    match h : readBlock? text with
    | none => none
    | some (block, rest) =>
      have := length_lt_of_readBlock? h
      (readBlocks? rest).map (block :: ·)
termination_by text.length

theorem readBlocks?_of_ne_nil {text : Bytes} (h : text ≠ []) :
    readBlocks? text =
      (readBlock? text).bind fun (block, rest) => (readBlocks? rest).map (block :: ·) := by
  rw [readBlocks?, if_neg h]
  split
  · rename_i hnone
    rw [hnone, Option.bind_none]
  · rename_i hsome
    simp only [hsome, Option.bind_some]

/-- The blocks that are read are those that the text was put together from, by induction over
them. -/
theorem readBlocks?_eq_some_iff {text : Bytes} {blocks : List (Identifier × Bytes)} :
    readBlocks? text = some blocks ↔
      (∀ block ∈ blocks, Restorable block) ∧ text = blocks.flatMap blockText := by
  induction blocks generalizing text with
  | nil =>
    by_cases htext : text = []
    · simp [htext, readBlocks?]
    · simp [readBlocks?_of_ne_nil htext, htext, Option.bind_eq_some_iff]
  | cons block more ih =>
    constructor
    · intro h
      have htext : text ≠ [] := by
        rintro rfl
        rw [readBlocks?, if_pos rfl] at h
        nomatch h
      rw [readBlocks?_of_ne_nil htext] at h
      obtain ⟨⟨first, rest⟩, hfirst, hmore⟩ := Option.bind_eq_some_iff.mp h
      obtain ⟨others, hothers, heq⟩ := Option.map_eq_some_iff.mp hmore
      obtain ⟨rfl, rfl⟩ := List.cons.inj heq
      obtain ⟨hblock, rfl⟩ := readBlock?_eq_some_iff.mp hfirst
      obtain ⟨hblocks, rfl⟩ := ih.mp hothers
      exact ⟨List.forall_mem_cons.mpr ⟨hblock, hblocks⟩, rfl⟩
    · rintro ⟨hblocks, rfl⟩
      obtain ⟨hblock, hmore⟩ := List.forall_mem_cons.mp hblocks
      have hfirst : readBlock? ((block :: more).flatMap blockText) =
          some (block, more.flatMap blockText) :=
        readBlock?_eq_some_iff.mpr ⟨hblock, List.flatMap_cons⟩
      have htext : (block :: more).flatMap blockText ≠ [] :=
        List.append_ne_nil_of_left_ne_nil (blockText_ne_nil block) _
      rw [readBlocks?_of_ne_nil htext, hfirst, Option.bind_some]
      dsimp only
      rw [ih.mpr ⟨hmore, rfl⟩]
      rfl

/-! ## The data phase -/

/-- A data phase that did not fail has written blocks of rows for its tables. If they were listed
for some definitions, the blocks can be read back just if the rows of each of them are whole lines,
and no line among them ends the rows of a table. -/
theorem stream_readBack (c : Collaborators σ) {ddl : Bytes} {tables : List Identifier}
    (htables : ∀ table ∈ tables, table ∈ Discovery.tables ddl) {w : World σ} {summary : DataSummary}
    (hok : (stream c tables w).1 = .ok summary) :
    ∃ (blocks : List Block) (written : Bytes),
      blocks.map Block.table = tables ∧
      (stream c tables w).2.exchanges = w.exchanges ++ blocks.flatMap Block.exchanges ∧
      (stream c tables w).2.sink.content = w.sink.content ++ written ∧
      (readBlocks? written = some (blocks.map fun b => (b.table, b.rows.bytes)) ↔
        ∀ b ∈ blocks, Closed b.rows.bytes ∧ endOfRows ∉ lines b.rows.bytes) := by
  obtain ⟨course, hcourse, hresult, hexchanges, hcontent⟩ := stream_follows c tables w
  cases hcourse with
  | broken => exact absurd (hok.symm.trans hresult) nofun
  | whole blocks hblocks =>
    refine ⟨blocks, blocks.flatMap Block.text, hblocks, hexchanges, hcontent, ?_⟩
    have hnamed : ∀ b ∈ blocks, ∃ name : Sql.Name, b.table.bytes = name.text := by
      intro b hb
      have hmem : b.table ∈ tables := hblocks ▸ List.mem_map_of_mem hb
      obtain ⟨_, _, name, _, hname, -⟩ := Discovery.mem_tables (htables b.table hmem)
      exact ⟨name, hname⟩
    rw [readBlocks?_eq_some_iff, List.flatMap_map, List.forall_mem_map]
    exact ⟨fun h b hb => (h.1 b hb).2, fun h => ⟨fun b hb => ⟨hnamed b hb, h b hb⟩, rfl⟩⟩

/-- A table whose name goes over a line end. -/
def quotedTable : Identifier := .ofString "s.\"a\nb\""

/-- The definition of that table. -/
def quotedDefinition : Bytes := ofString "CREATE TABLE s.\"a\nb\" (\n);\n"

/-- A row of it with a field that goes over two line ends. The line between them looks like the end
of the rows. -/
def quotedRow : Bytes := ofString "1,\"\n\\.\n\"\n"

/-- A database in which the table has that row. -/
def quotedStart : World Rehearsal.Rules where
  tools := { statements := [{ fits := ofString "COPY", reply := quotedRow }] }
  files := { entries := [], workPlace := [] }

/-- The row is not read back. -/
theorem stream_readBack_quoted :
    (∀ table ∈ [quotedTable], table ∈ Discovery.tables quotedDefinition) ∧
      (stream Rehearsal.Rules.responder.amongTools [quotedTable] quotedStart).1 = .ok ⟨1, 9⟩ ∧
      readBlocks? (stream Rehearsal.Rules.responder.amongTools [quotedTable]
        quotedStart).2.sink.content ≠ some [(quotedTable, quotedRow)] := by
  have htables : ∀ table ∈ [quotedTable], table ∈ Discovery.tables quotedDefinition := by
    decide +kernel
  have hok : (stream Rehearsal.Rules.responder.amongTools [quotedTable] quotedStart).1 =
      .ok ⟨1, 9⟩ := by decide +kernel
  obtain ⟨blocks, written, hblocks, hexchanges, hcontent, hread⟩ := stream_readBack _ htables hok
  obtain ⟨b, rfl, hb⟩ := List.map_eq_singleton_iff.mp hblocks
  have hrows : b.rows.bytes = quotedRow := by
    have hdelivered : ((stream Rehearsal.Rules.responder.amongTools [quotedTable]
        quotedStart).2.exchanges.filterMap Exchange.delivery?).map Delivery.bytes =
          [quotedRow] := by decide +kernel
    rw [hexchanges] at hdelivered
    exact List.singleton_inj.mp hdelivered
  refine ⟨htables, hok, fun hfound => ?_⟩
  rw [hcontent, ← hb, ← hrows] at hfound
  have hreadable := (hread.mp hfound) b List.mem_cons_self
  rw [hrows] at hreadable
  exact absurd hreadable.2 (by decide +kernel)

end MaskedDump.MaskedData
