import MaskedDump.Program.ClientTools
import MaskedDump.Proofs.Blanks
import MaskedDump.Proofs.Dump.Scoping
import Mathlib.Data.List.Basic

/-!
# Listings of sequences

The query tool prints one row for each sequence and ends it as the system ends its lines. One line
end is taken off the output as a whole; the rest is split at line feeds, blanks are cut off the
pieces, and empty ones are left out. So what is read of a row is read of it alone, wherever it
stands, and it is the row itself just if that has no line feed. A quoted name may have one, and is
torn there.

Results:
* `rowsOfReply_append`, `rowsOfReply_append_blank`: a line feed parts what is read on both sides of
  it, and blanks behind a text are not read;
* `rowsOfReply_printed`: what is read of an output is what is read of its rows;
* `isRow_name`: a printed name is a row that can be read back, but for line feeds;
* `answers_installed`: what the installed query tool answers with, however it is called;
* `listSequences_printed`: the rows are listed as they are just if none has a line feed.
-/

namespace MaskedDump.Catalog

open Bytes Program

variable {σ : Type}

/-! ## Printed rows -/

/-- Whether a text can be told from the blanks around it: it is not empty and does not begin or end
with one. -/
structure IsRow (row : Bytes) : Prop extends Tight row where
  nonempty : row ≠ []

theorem isRow_iff {row : Bytes} :
    IsRow row ↔ row ≠ [] ∧ row.head?.all (!isBlank ·) = true ∧
      row.getLast?.all (!isBlank ·) = true := by
  have hall : ∀ o : Option UInt8,
      o.all (!isBlank ·) = true ↔ ∀ b, o = some b → isBlank b = false := by
    intro o
    cases o <;> simp
  rw [hall, hall]
  exact ⟨fun h => ⟨h.nonempty, h.first, h.last⟩, fun ⟨hnonempty, hfirst, hlast⟩ =>
    ⟨⟨hfirst, hlast⟩, hnonempty⟩⟩

instance : DecidablePred IsRow := fun _ => decidable_of_iff _ isRow_iff.symm

/-- How a row is ended. -/
inductive RowEnd
  | lineFeed
  | carriageReturn

/-- The end of a row as it is printed: a line feed, or one behind a carriage return. -/
def RowEnd.bytes : RowEnd → Bytes
  | .lineFeed => [10]
  | .carriageReturn => [13, 10]

/-- Rows as they are printed, each with its end, and what is printed behind them. -/
def printed (rows : List (Bytes × RowEnd)) (more : Bytes) : Bytes :=
  rows.flatMap (fun row => row.1 ++ row.2.bytes) ++ more

/-- What is read of a reply: its pieces without outer blanks, empty ones left out. -/
def rowsOfReply (reply : Bytes) : List Bytes :=
  ((pieces reply).map trim).filter (!·.isEmpty)

theorem sequencesOfReply_eq (reply : Bytes) :
    sequencesOfReply reply = (rowsOfReply reply).map Identifier.mk := rfl

/-! ## Reading rows -/

theorem rowsOfReply_append (a b : Bytes) :
    rowsOfReply (a ++ Bytes.lineFeed :: b) = rowsOfReply a ++ rowsOfReply b := by
  simp only [rowsOfReply, pieces_append, List.map_append, List.filter_append]

theorem rowsOfReply_of_not_mem {text : Bytes} (h : Bytes.lineFeed ∉ text) :
    rowsOfReply text = [trim text].filter (!·.isEmpty) := by
  rw [rowsOfReply, pieces_of_not_mem h, List.map_singleton]

theorem rowsOfReply_concat_blank (text : Bytes) {b : UInt8} (hb : isBlank b = true)
    (hne : b ≠ Bytes.lineFeed) : rowsOfReply (text ++ [b]) = rowsOfReply text := by
  by_cases htext : Bytes.lineFeed ∈ text
  · -- the blank stands behind the last piece, which is in the rest
    obtain ⟨line, rest, hsplit, -⟩ := List.eq_append_cons_of_mem htext
    have hlength : rest.length < text.length := by
      rw [hsplit, List.length_append, List.length_cons]
      omega
    rw [hsplit, List.append_assoc, List.cons_append, rowsOfReply_append, rowsOfReply_append,
      rowsOfReply_concat_blank rest hb hne]
  · have hblank : Blank [b] := List.forall_mem_singleton.mpr hb
    have hmem : Bytes.lineFeed ∉ text ++ [b] := by
      rw [List.mem_append, List.mem_singleton]
      rintro (h | h)
      · exact htext h
      · exact hne h.symm
    rw [rowsOfReply_of_not_mem hmem, trim_append_blank hblank, rowsOfReply_of_not_mem htext]
termination_by text.length

/-- Blanks behind a text are not read, also where they are lines of their own. -/
theorem rowsOfReply_append_blank (text : Bytes) {blanks : Bytes} (h : Blank blanks) :
    rowsOfReply (text ++ blanks) = rowsOfReply text := by
  induction blanks generalizing text with
  | nil => rw [List.append_nil]
  | cons b rest ih =>
    obtain ⟨hb, hrest⟩ := List.forall_mem_cons.mp h
    by_cases hline : b = Bytes.lineFeed
    · have hnothing : rowsOfReply rest = [] := ih [] hrest
      rw [hline, rowsOfReply_append, hnothing, List.append_nil]
    · rw [List.append_cons, ih _ hrest, rowsOfReply_concat_blank text hb hline]

/-- The line end that is taken off an output makes no difference to what is read. -/
theorem rowsOfReply_dropLineEnd (output : Bytes) :
    rowsOfReply (dropLineEnd output) = rowsOfReply output := by
  have hsplit : ∃ ending, Blank ending ∧ output = dropLineEnd output ++ ending := by
    unfold dropLineEnd
    split
    · rename_i rest hrest
      exact ⟨[13, 10], by decide, by rw [← List.reverse_reverse output, hrest]; simp⟩
    · rename_i rest _ hrest
      exact ⟨[10], by decide, by rw [← List.reverse_reverse output, hrest]; simp⟩
    · exact ⟨[], by decide, (List.append_nil _).symm⟩
  obtain ⟨ending, hblank, hsplit⟩ := hsplit
  calc rowsOfReply (dropLineEnd output)
      = rowsOfReply (dropLineEnd output ++ ending) := (rowsOfReply_append_blank _ hblank).symm
    _ = rowsOfReply output := by rw [← hsplit]

/-- What is read of a row does not depend on how it ends, or on what stands behind it. -/
theorem rowsOfReply_row (row : Bytes) (ending : RowEnd) (more : Bytes) :
    rowsOfReply (row ++ ending.bytes ++ more) = rowsOfReply row ++ rowsOfReply more := by
  cases ending with
  | lineFeed =>
    rw [List.append_assoc]
    exact rowsOfReply_append row more
  | carriageReturn =>
    have hparted : row ++ RowEnd.carriageReturn.bytes ++ more =
        (row ++ [13]) ++ Bytes.lineFeed :: more := by
      simp [RowEnd.bytes, Bytes.lineFeed]
    rw [hparted, rowsOfReply_append, rowsOfReply_concat_blank row rfl (by decide)]

theorem rowsOfReply_printed (rows : List (Bytes × RowEnd)) {blanks : Bytes} (h : Blank blanks) :
    rowsOfReply (printed rows blanks) = rows.flatMap fun row => rowsOfReply row.1 := by
  induction rows with
  | nil => exact rowsOfReply_append_blank [] h
  | cons row rows ih =>
    have hparted : printed (row :: rows) blanks =
        row.1 ++ row.2.bytes ++ printed rows blanks := by
      simp [printed]
    rw [hparted, rowsOfReply_row, ih, List.flatMap_cons]

/-! ## Rows that are read back -/

theorem rowsOfReply_isRow {row : Bytes} (h : IsRow row) (hline : Bytes.lineFeed ∉ row) :
    rowsOfReply row = [row] := by
  rw [rowsOfReply_of_not_mem hline, h.trim_self]
  exact List.filter_eq_self.mpr (List.forall_mem_singleton.mpr (by simp [h.nonempty]))

/-- Nothing that is read has a line feed. -/
theorem lineFeed_not_mem_of_mem_rowsOfReply {row reply : Bytes} (h : row ∈ rowsOfReply reply) :
    Bytes.lineFeed ∉ row := by
  obtain ⟨piece, hpiece, rfl⟩ := List.mem_map.mp (List.mem_filter.mp h).1
  exact fun hmem => lineFeed_not_mem_of_mem_pieces hpiece (trim_subset hmem)

/-- An output is read as its rows just if none of them has a line feed. -/
theorem rowsOfReply_printed_eq_iff {rows : List (Bytes × RowEnd)} {blanks : Bytes}
    (hrows : ∀ row ∈ rows, IsRow row.1) (hblanks : Blank blanks) :
    rowsOfReply (printed rows blanks) = rows.map Prod.fst ↔
      ∀ row ∈ rows, Bytes.lineFeed ∉ row.1 := by
  constructor
  · intro h row hrow
    have hread : row.1 ∈ rowsOfReply (printed rows blanks) := by
      rw [h]
      exact List.mem_map_of_mem hrow
    exact lineFeed_not_mem_of_mem_rowsOfReply hread
  · intro h
    rw [rowsOfReply_printed rows hblanks, List.map_eq_flatMap]
    refine List.flatMap_congr fun row hrow => ?_
    exact rowsOfReply_isRow (hrows row hrow) (h row hrow)

/-! ## Names as rows -/

/-- What is put together from rows is a row. -/
theorem IsRow.append {a b : Bytes} (ha : IsRow a) (hb : IsRow b) (mid : Bytes) :
    IsRow (a ++ mid ++ b) where
  nonempty h := ha.nonempty (List.append_eq_nil_iff.mp (List.append_eq_nil_iff.mp h).1).1
  first x hx := by
    refine ha.first x ?_
    rwa [List.append_assoc, List.head?_append_of_ne_nil _ ha.nonempty] at hx
  last x hx := by
    refine hb.last x ?_
    rwa [List.getLast?_append_of_ne_nil _ hb.nonempty] at hx

theorem isBlank_of_isBare {b : UInt8} (h : Sql.isBare b = true) : isBlank b = false := by
  cases hb : isBlank b with
  | false => rfl
  | true => simp [Sql.isBare, isSpace, hb] at h

theorem isRow_component (component : Sql.Component) : IsRow component.text := by
  cases component with
  | quoted content nonempty =>
    have hquote : IsRow [doubleQuote] := by decide
    exact hquote.append hquote (Sql.escapeQuotes content)
  | bare spelling nonempty all_bare =>
    refine ⟨⟨fun b hb => ?_, fun b hb => ?_⟩, nonempty⟩
    · exact isBlank_of_isBare (all_bare b (List.mem_of_head? hb))
    · exact isBlank_of_isBare (all_bare b (List.mem_of_getLast? hb))

/-- Every name that can be printed is a row, whatever its quoted components hold. -/
theorem isRow_name (name : Sql.Name) : IsRow name.text := by
  cases name with
  | plain component => exact isRow_component component
  | qualified qualifier component =>
    have h := (isRow_component qualifier).append (isRow_component component) [dot]
    rwa [List.append_assoc] at h

/-! ## The listing -/

/-- Whether some collaborators answer the request for the sequences with a text. -/
def Answers (c : Collaborators σ) (excluded : List Identifier) (w : World σ) (reply : Bytes) :
    Prop :=
  (c.query (sequencesQuery excluded) w.toSurroundings).1.result = .ok reply

theorem Answers.listSequences {c : Collaborators σ} {excluded : List Identifier} {w : World σ}
    {reply : Bytes} (h : Answers c excluded w reply) :
    (listSequences c excluded w).1 = .ok ((rowsOfReply reply).map Identifier.mk) := by
  rw [SequenceState.listSequences_apply h, sequencesOfReply_eq]

/-- The installed query tool answers with its output less one line end, however it is called. -/
theorem answers_installed {launch : Launcher} {room : Option Nat} {options : QueryOptions}
    {excluded : List Identifier} {w : World σ} {output diagnostics : Bytes}
    (h : (launch none (ClientTools.queryCall options (sequencesQuery excluded)) w.files).1 =
      .ended output diagnostics (some 0)) :
    Answers (ClientTools.responder launch room options).amongFiles excluded w
      (dropLineEnd output) := by
  show (captured ClientTools.queryTool (launch none
    (ClientTools.queryCall options (sequencesQuery excluded)) w.files).1).map dropLineEnd = _
  rw [h]
  rfl

/-- Let rows be printed that are told from the blanks around them, each with either end, and blank
lines behind them. When one line end is taken off that output, as it is off the output of the
installed query tool, the rows are listed as they are, in their order and as often as they are
printed, just if none of them has a line feed. When it is left on, the same is listed. Names,
qualified or not, are such rows. -/
theorem listSequences_printed (excluded : List Identifier) (w : World σ)
    {rows : List (Bytes × RowEnd)} {blanks : Bytes} (hrows : ∀ row ∈ rows, IsRow row.1)
    (hblanks : Blank blanks) :
    let output := printed rows blanks
    (∀ c : Collaborators σ, Answers c excluded w (dropLineEnd output) →
        ((listSequences c excluded w).1 = .ok (rows.map fun row => ⟨row.1⟩) ↔
          ∀ row ∈ rows, Bytes.lineFeed ∉ row.1)) ∧
      (∀ c c' : Collaborators σ, Answers c excluded w (dropLineEnd output) →
        Answers c' excluded w output →
          (listSequences c' excluded w).1 = (listSequences c excluded w).1) ∧
      (∀ (launch : Launcher) (room : Option Nat) (options : QueryOptions) (diagnostics : Bytes),
        (launch none (ClientTools.queryCall options (sequencesQuery excluded)) w.files).1 =
            .ended output diagnostics (some 0) →
          Answers (ClientTools.responder launch room options).amongFiles excluded w
            (dropLineEnd output)) ∧
      ∀ name : Sql.Name, IsRow name.text := by
  intro output
  refine ⟨fun c hc => ?_, fun c c' hc hc' => ?_, fun launch room options diagnostics =>
    answers_installed, isRow_name⟩
  · have hmap : (rows.map fun row => (⟨row.1⟩ : Identifier)) =
        (rows.map Prod.fst).map Identifier.mk := by
      rw [List.map_map]
      rfl
    have hinjective : Function.Injective Identifier.mk := fun _ _ h => Identifier.mk.inj h
    rw [hc.listSequences, rowsOfReply_dropLineEnd, hmap, Except.ok.injEq,
      hinjective.list_map.eq_iff, rowsOfReply_printed_eq_iff hrows hblanks]
  · rw [hc'.listSequences, hc.listSequences, rowsOfReply_dropLineEnd]

/-! ## A quoted name over two lines -/

/-- The options of a query tool that is told nothing but how to print. -/
def bareOptions : QueryOptions := { args := QueryOptions.bareValues, clientEncoding := none }

/-- Tools of which the query tool prints a text, whatever it is asked. The others say nothing. -/
def printing (output : Bytes) : Launcher := fun _ call fs =>
  (.ended (if call.program = ClientTools.queryTool then output else []) [] (some 0), fs)

/-- A world without files. -/
def bareWorld : World Unit where
  tools := ()
  files := { entries := [], workPlace := [] }

/-- A name with a blank inside and a plain one, with different ends and a blank line behind them,
are listed as they are. A name that runs over two lines is not. -/
theorem listSequences_printed_quoted :
    let plain : List (Bytes × RowEnd) :=
      [(Bytes.ofString "s.\"a b\"", .carriageReturn), (Bytes.ofString "s.c", .lineFeed)]
    let torn : List (Bytes × RowEnd) := [(Bytes.ofString "s.\"a\nb\"", .lineFeed)]
    let listed (output : Bytes) : Except Failure (List Identifier) :=
      (listSequences (ClientTools.responder (printing output) none bareOptions).amongFiles []
        bareWorld).1
    (∀ row ∈ plain ++ torn, IsRow row.1) ∧ Blank [10] ∧ Blank [] ∧
      printed plain [10] = Bytes.ofString "s.\"a b\"\r\ns.c\n\n" ∧
      listed (printed plain [10]) = .ok [.ofString "s.\"a b\"", .ofString "s.c"] ∧
      printed torn [] = Bytes.ofString "s.\"a\nb\"\n" ∧
      listed (printed torn []) ≠ .ok [.ofString "s.\"a\nb\""] := by
  intro plain torn listed
  have hrows : ∀ row ∈ plain ++ torn, IsRow row.1 := by decide +kernel
  have hline : Blank [10] := by decide
  have hnothing : Blank [] := by decide
  obtain ⟨hlisted, -, hanswers, -⟩ := listSequences_printed [] bareWorld
    (fun row hrow => hrows row (List.mem_append_left _ hrow)) hline
  obtain ⟨hlost, -, hanswers', -⟩ := listSequences_printed [] bareWorld
    (fun row hrow => hrows row (List.mem_append_right _ hrow)) hnothing
  have hwhole := hlisted _ (hanswers (printing (printed plain [10])) none bareOptions [] rfl)
  have hparted := hlost _ (hanswers' (printing (printed torn [])) none bareOptions [] rfl)
  refine ⟨hrows, hline, hnothing, by decide +kernel, hwhole.mpr (by decide +kernel),
    by decide +kernel, fun h => ?_⟩
  exact absurd (hparted.mp h) (by decide +kernel)

end MaskedDump.Catalog
