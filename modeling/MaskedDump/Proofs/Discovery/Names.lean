import MaskedDump.Discovery
import MaskedDump.Proofs.Lines
import MaskedDump.Proofs.Sql.Name
import Mathlib.Logic.Function.Basic

/-!
# Discovered names

A scan lists each name once, where it is first met. Behind every listed name stands a header: a
place at a line start where the test found that name. A name may go over several lines, but only
inside quotes.

Results:
* `nodup_names`: no name is listed twice;
* `quote_mem_of_name`: behind every line feed in a name there is a quote;
* `heads_of_mem_scan`: a name that a scan meets is that of a header at a line start of the text;
* `header?_text`, `header?_eq_some`: a header is found where a printed name ends, and only there;
* `tableHeader?_eq_some`: the header of a table is an opening and a name behind it;
* `mem_tables`: every listed table is created at a line start of the text.
-/

namespace MaskedDump.Discovery

theorem nodup_eraseDups : ∀ names : List Bytes, names.eraseDups.Nodup
  | [] => List.nodup_nil
  | name :: rest => by
    rw [List.eraseDups_cons, List.nodup_cons]
    refine ⟨?_, nodup_eraseDups (rest.filter (!· == name))⟩
    rw [List.mem_eraseDups]
    simp
termination_by names => names.length
decreasing_by exact Nat.lt_succ_of_le (List.length_filter_le _ _)

/-- Names that are told apart behind a translation are repeated where their translations are. -/
theorem eraseDups_map {α β : Type} [BEq α] [LawfulBEq α] [BEq β] [LawfulBEq β] {f : α → β}
    (hf : Function.Injective f) : ∀ names : List α, (names.map f).eraseDups = names.eraseDups.map f
  | [] => rfl
  | name :: rest => by
    have hfilter : (rest.map f).filter (!· == f name) = (rest.filter (!· == name)).map f := by
      rw [List.filter_map]
      congr 1
      refine List.filter_congr fun other _ => ?_
      rw [Function.comp_apply, Bool.not_inj_iff, Bool.eq_iff_iff, beq_iff_eq, beq_iff_eq]
      exact hf.eq_iff
    rw [List.map_cons, List.eraseDups_cons, List.eraseDups_cons, hfilter,
      eraseDups_map hf (rest.filter (!· == name)), List.map_cons]
termination_by names => names.length
decreasing_by exact Nat.lt_succ_of_le (List.length_filter_le _ _)

theorem nodup_names (test : Bytes → Option Header) (ddl : Bytes) : (names test ddl).Nodup :=
  List.Pairwise.map Identifier.mk (fun _ _ hne heq => hne (Identifier.mk.inj heq))
    (nodup_eraseDups _)

theorem mem_names {test : Bytes → Option Header} {ddl : Bytes} {name : Identifier} :
    name ∈ names test ddl ↔ name.bytes ∈ scan test 0 true ddl := by
  obtain ⟨bytes⟩ := name
  simp [names, List.mem_eraseDups]

/-! ## Names over several lines -/

/-- Only a quoted component has a line feed, and its closing quote stands behind it. -/
theorem quote_mem_of_component {component : Sql.Component} {lead rest : Bytes}
    (h : component.text = lead ++ Bytes.lineFeed :: rest) : Bytes.doubleQuote ∈ rest := by
  cases component with
  | quoted content =>
    have hquote : Bytes.lineFeed ∉ [Bytes.doubleQuote] := by decide
    rw [Sql.Component.text, ← List.cons_append] at h
    obtain ⟨_, -, rfl⟩ := Bytes.eq_append_of_not_mem_right hquote h
    exact List.mem_concat_self
  | bare spelling _ all_bare =>
    rw [Sql.Component.text] at h
    have hbare := all_bare Bytes.lineFeed (h ▸ List.mem_append_right _ List.mem_cons_self)
    exact absurd hbare (by decide)

/-- Behind a line feed in a name stands the quote that closes its component. -/
theorem quote_mem_of_name {name : Sql.Name} {lead rest : Bytes}
    (h : name.text = lead ++ Bytes.lineFeed :: rest) : Bytes.doubleQuote ∈ rest := by
  have hdot : Bytes.dot ≠ Bytes.lineFeed := by decide
  obtain ⟨_, _, _, _, _, hcomponent, -, rfl, -⟩ := Sql.Name.exists_component hdot h
  exact List.mem_append_left _ (quote_mem_of_component hcomponent)

/-! ## The place of a name -/

/-- Whether the test finds a name at a line start of a text. The text itself begins a line if it is
`fresh`. -/
def Heads (test : Bytes → Option Header) (name : Bytes) (fresh : Bool) (text : Bytes) : Prop :=
  ∃ lead rest found, text = lead ++ rest ∧ Bytes.Closed lead ∧ (lead = [] → fresh = true) ∧
    test rest = some found ∧ found.name = name

theorem Heads.cons {test : Bytes → Option Header} {name text : Bytes} {fresh : Bool} {b : UInt8}
    (h : Heads test name (b == Bytes.lineFeed) text) : Heads test name fresh (b :: text) := by
  obtain ⟨lead, rest, found, rfl, hlead, hfresh, hfound⟩ := h
  refine ⟨b :: lead, rest, found, rfl, ?_, nofun, hfound⟩
  exact Bytes.closed_cons.mpr ⟨hlead, fun hnil => eq_of_beq (hfresh hnil)⟩

/-- The scan resumes behind a header, and tests again only where a line starts. -/
theorem heads_of_mem_scan {test : Bytes → Option Header} {skip : Nat} {fresh : Bool}
    {text name : Bytes} (h : name ∈ scan test skip fresh text) : Heads test name fresh text := by
  fun_induction scan test skip fresh text with
  | case1 => simp at h
  | case2 _ _ b rest ih => exact (ih h).cons
  | case3 b rest ih => exact (ih h).cons
  | case4 b rest found hfound ih =>
    rcases List.mem_cons.mp h with hname | h
    · exact ⟨[], b :: rest, found, rfl, Bytes.closed_nil, fun _ => rfl, hfound, hname.symm⟩
    · exact (ih h).cons
  | case5 b rest hnone ih => exact (ih h).cons

/-- A name is found where it ends. -/
theorem header?_text {ended : Bytes → Option Nat} {after : Bytes} {more : Nat} (name : Sql.Name)
    (hafter : Sql.EndsName after) (hmore : ended after = some more) (lead : Nat) :
    header? ended lead (name.text ++ after) =
      some ⟨name.text, lead + name.text.length + more⟩ := by
  rw [header?, Sql.name?_text name hafter]
  exact congrArg (Option.map _) hmore

/-- What is found is a name, and what ends it. -/
theorem header?_eq_some {ended : Bytes → Option Nat} {lead : Nat} {text : Bytes} {found : Header}
    (h : header? ended lead text = some found) :
    ∃ (name : Sql.Name) (after : Bytes), found.name = name.text ∧ text = name.text ++ after ∧
      (ended after).isSome := by
  unfold header? at h
  cases hname : Sql.name? text with
  | none => simp [hname] at h
  | some read =>
    obtain ⟨lexeme, after⟩ := read
    obtain ⟨more, hmore, rfl⟩ := Option.map_eq_some_iff.mp (by simpa only [hname] using h)
    obtain ⟨name, rfl⟩ := Sql.text_of_name? hname
    exact ⟨name, after, rfl, (Sql.name?_append hname).symm, by rw [hmore]; rfl⟩

/-- The header of a table is an opening, a name behind it, and what ends the name. -/
theorem tableHeader?_eq_some {text : Bytes} {found : Header}
    (h : tableHeader? text = some found) :
    ∃ opening ∈ tableOpenings, ∃ (name : Sql.Name) (after : Bytes), found.name = name.text ∧
      text = opening ++ (name.text ++ after) ∧ (tableNameEnd after).isSome := by
  obtain ⟨opening, hopening, h⟩ := List.exists_of_findSome?_eq_some h
  obtain ⟨rest, hrest, h⟩ := Option.bind_eq_some_iff.mp h
  obtain ⟨name, after, hname, rfl, hend⟩ := header?_eq_some h
  exact ⟨opening, hopening, name, after, hname, Bytes.after?_eq_some_iff.mp hrest, hend⟩

/-- Every table listed for a text is named in it, behind an opening at a line start. -/
theorem mem_tables {ddl : Bytes} {table : Identifier} (h : table ∈ tables ddl) :
    ∃ (lead opening : Bytes) (name : Sql.Name) (after : Bytes), table.bytes = name.text ∧
      ddl = lead ++ (opening ++ (name.text ++ after)) ∧ Bytes.Closed lead ∧
      opening ∈ tableOpenings := by
  obtain ⟨lead, rest, found, rfl, hlead, -, hfound, hname⟩ := heads_of_mem_scan (mem_names.mp h)
  obtain ⟨opening, hopening, name, after, htext, rfl, -⟩ := tableHeader?_eq_some hfound
  exact ⟨lead, opening, name, after, hname.symm.trans htext, rfl, hlead, hopening⟩

end MaskedDump.Discovery
