import MaskedDump.ExtensionFilter
import MaskedDump.Proofs.Discovery.Names
import MaskedDump.Proofs.Recoding.Basic

/-!
# Recoded definitions

Discovery and the removal of extension statements look for ASCII openings and for the bytes around
names. In recoded definitions they find what they find in the definitions, recoded.

Results:
* `scan_bytes`: a scan of a recoded text meets the recoded names, if its test does;
* `tables_bytes`, `sequences_bytes`: the tables and sequences of recoded definitions;
* `apply_bytes`: recoded definitions without extension statements.
-/

namespace MaskedDump.Recoding

open Bytes Discovery

variable (ρ : Recoding)

/-! ## Headers -/

/-- A header with its name recoded. It takes as many bytes. -/
def header (found : Header) : Header := ⟨ρ.bytes found.name, found.length⟩

theorem header?_bytes {ended : Bytes → Option Nat}
    (hended : ∀ after, ended (ρ.bytes after) = ended after) (lead : Nat) (text : Bytes) :
    header? ended lead (ρ.bytes text) = (header? ended lead text).map ρ.header := by
  rw [header?, header?, name?_bytes]
  cases Sql.name? text with
  | none => rfl
  | some found =>
    simp only [Option.map_some, lexeme, hended, length_bytes, Option.map_map]
    rfl

theorem opened_bytes {opening : Bytes} (hopening : IsAscii opening) {ended : Bytes → Option Nat}
    (hended : ∀ after, ended (ρ.bytes after) = ended after) (lead : Nat) (text : Bytes) :
    (after? opening (ρ.bytes text)).bind (header? ended lead) =
      ((after? opening text).bind (header? ended lead)).map ρ.header := by
  rw [after?_bytes ρ hopening]
  cases after? opening text with
  | none => rfl
  | some rest => exact ρ.header?_bytes hended lead rest

theorem tableNameEnd_bytes (after : Bytes) : tableNameEnd (ρ.bytes after) = tableNameEnd after := by
  cases after with
  | nil => rfl
  | cons b rest =>
    have hspace := ρ.perm_eq_iff (a := space) (by decide) b
    have hfeed := ρ.perm_eq_iff (a := lineFeed) (by decide) b
    simp only [bytes_cons, tableNameEnd, hspace, hfeed]

theorem sequenceNameEnd_bytes (after : Bytes) :
    sequenceNameEnd (ρ.bytes after) = sequenceNameEnd after := by
  cases after with
  | nil => rfl
  | cons b rest => simp only [bytes_cons, sequenceNameEnd, isSpace_perm]

theorem tableHeader?_bytes (text : Bytes) :
    tableHeader? (ρ.bytes text) = (tableHeader? text).map ρ.header := by
  have hopenings : ∀ opening ∈ tableOpenings, IsAscii opening := by decide
  unfold tableHeader?
  generalize tableOpenings = openings at hopenings ⊢
  induction openings with
  | nil => rfl
  | cons opening rest ih =>
    obtain ⟨hopening, hrest⟩ := List.forall_mem_cons.mp hopenings
    rw [List.findSome?_cons, List.findSome?_cons, opened_bytes ρ hopening ρ.tableNameEnd_bytes,
      ih hrest]
    cases (after? opening text).bind (header? tableNameEnd opening.length) <;> rfl

theorem sequenceHeader?_bytes (text : Bytes) :
    sequenceHeader? (ρ.bytes text) = (sequenceHeader? text).map ρ.header := by
  have hopening : IsAscii sequenceOpening := by decide
  have hclause : IsAscii sequenceClause := by decide
  simp only [sequenceHeader?, opened_bytes ρ hopening ρ.sequenceNameEnd_bytes,
    bytes_takeWhile ρ ρ.isSpace_perm, bytes_dropWhile ρ ρ.isSpace_perm, length_bytes,
    opened_bytes ρ hclause ρ.sequenceNameEnd_bytes]
  cases (after? sequenceOpening text).bind (header? sequenceNameEnd sequenceOpening.length) <;> rfl

/-! ## Scans -/

theorem scan_bytes {test : Bytes → Option Header}
    (htest : ∀ text, test (ρ.bytes text) = (test text).map ρ.header) (skip : Nat) (fresh : Bool)
    (text : Bytes) :
    scan test skip fresh (ρ.bytes text) = (scan test skip fresh text).map ρ.bytes := by
  have hfeed : ∀ b, (ρ.perm b == lineFeed) = (b == lineFeed) := ρ.perm_beq (by decide)
  fun_induction scan test skip fresh text with
  | case1 => rw [bytes_nil, scan, List.map_nil]
  | case2 _ _ b rest ih => rw [bytes_cons, scan, hfeed, ih]
  | case3 b rest ih => rw [bytes_cons, scan, hfeed, ih]
  | case4 b rest found hfound ih =>
    rw [bytes_cons, scan, ← bytes_cons, htest, hfound, hfeed, Option.map_some]
    simp only [header, ih, List.map_cons]
  | case5 b rest hnone ih =>
    rw [bytes_cons, scan, ← bytes_cons, htest, hnone, hfeed, Option.map_none]
    exact ih

theorem names_bytes {test : Bytes → Option Header}
    (htest : ∀ text, test (ρ.bytes text) = (test text).map ρ.header) (ddl : Bytes) :
    names test (ρ.bytes ddl) = (names test ddl).map ρ.identifier := by
  rw [names, names, scan_bytes ρ htest, eraseDups_map ρ.bytes_injective, List.map_map, List.map_map]
  rfl

theorem tables_bytes (ddl : Bytes) : tables (ρ.bytes ddl) = (tables ddl).map ρ.identifier :=
  ρ.names_bytes ρ.tableHeader?_bytes ddl

theorem sequences_bytes (ddl : Bytes) :
    sequences (ρ.bytes ddl) = (sequences ddl).map ρ.identifier :=
  ρ.names_bytes ρ.sequenceHeader?_bytes ddl

/-- A recoded name is among the recoded names exactly when the name is among the names. -/
theorem identifier_mem_map {name : Identifier} {names : List Identifier} :
    ρ.identifier name ∈ names.map ρ.identifier ↔ name ∈ names := by
  constructor
  · intro h
    obtain ⟨other, hother, heq⟩ := List.mem_map.mp h
    rwa [← ρ.identifier_injective heq]
  · exact List.mem_map_of_mem

/-- The names among others, recoded. -/
theorem filter_mem_map (names others : List Identifier) :
    (names.map ρ.identifier).filter (· ∈ others.map ρ.identifier) =
      (names.filter (· ∈ others)).map ρ.identifier := by
  rw [List.filter_map]
  congr 1
  refine List.filter_congr fun name _ => ?_
  rw [Function.comp_apply, decide_eq_decide]
  exact ρ.identifier_mem_map

/-! ## Removal of extension statements -/

/-- A filtered text, recoded. -/
def filtered (result : ExtensionFilter.Filtered) : ExtensionFilter.Filtered :=
  ⟨ρ.bytes result.text, result.changed⟩

theorem strike_bytes {opening : Bytes} (hopening : IsAscii opening) (text : Bytes) :
    ExtensionFilter.strike opening (ρ.bytes text) =
      ρ.filtered (ExtensionFilter.strike opening text) := by
  fun_induction ExtensionFilter.strike opening text with
  | case1 => rw [bytes_nil, ExtensionFilter.strike]; rfl
  | case2 b rest tail htail ih =>
    have htail' := (ρ.after?_bytes hopening (b :: rest)).trans (congrArg _ htail)
    rw [bytes_cons] at htail' ⊢
    rw [ExtensionFilter.strike]
    split
    · rename_i tail' h
      obtain rfl : ρ.bytes tail = tail' := Option.some.inj (htail'.symm.trans h)
      rw [bytes_afterLine, ih]
      rfl
    · rename_i h
      rw [htail'] at h
      nomatch h
  | case3 b rest hnone kept ih =>
    have hnone' := (ρ.after?_bytes hopening (b :: rest)).trans (congrArg _ hnone)
    rw [bytes_cons] at hnone' ⊢
    rw [ExtensionFilter.strike]
    split
    · rename_i tail' h
      rw [hnone'] at h
      nomatch h
    · rw [← bytes_cons, bytes_firstLine, bytes_afterLine, ih]
      simp only [filtered, bytes_append]
      rfl

/-- The passes one after the other. -/
theorem passes_bytes {openings : List Bytes} (hopenings : ∀ opening ∈ openings, IsAscii opening)
    (sofar : ExtensionFilter.Filtered) :
    openings.foldl (fun sofar opening =>
        let next := ExtensionFilter.strike opening sofar.text
        ⟨next.text, sofar.changed || next.changed⟩) (ρ.filtered sofar) =
      ρ.filtered (openings.foldl (fun sofar opening =>
        let next := ExtensionFilter.strike opening sofar.text
        ⟨next.text, sofar.changed || next.changed⟩) sofar) := by
  induction openings generalizing sofar with
  | nil => rfl
  | cons opening rest ih =>
    obtain ⟨hopening, hrest⟩ := List.forall_mem_cons.mp hopenings
    rw [List.foldl_cons, List.foldl_cons, ← ih hrest]
    simp only [filtered, strike_bytes ρ hopening]

/-- What a filter with ASCII openings leaves of a recoded text. -/
theorem apply_bytes {filter : ExtensionFilter}
    (hopenings : ∀ opening ∈ filter.openings, IsAscii opening) (ddl : Bytes) :
    filter.apply (ρ.bytes ddl) = ρ.filtered (filter.apply ddl) :=
  ρ.passes_bytes hopenings ⟨ddl, false⟩

theorem masking_bytes (ddl : Bytes) :
    (ExtensionFilter.masking.apply (ρ.bytes ddl)).text =
      ρ.bytes (ExtensionFilter.masking.apply ddl).text := by
  have hopenings : ∀ opening ∈ ExtensionFilter.masking.openings, IsAscii opening := by decide
  rw [apply_bytes ρ hopenings, filtered]

end MaskedDump.Recoding
