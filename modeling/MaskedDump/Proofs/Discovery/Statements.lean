import MaskedDump.Proofs.Discovery.Tables
import MaskedDump.Sql.Literal

/-!
# Discovered statements

Definitions are statements, one behind the other, and discovery is meant to find those that create
tables. It looks at the beginnings of lines alone, though, and knows nothing of quotes. A literal, a
quoted name or the body of a function may go over several lines, and one of these may begin like a
statement that creates a table. Where none does, the tables that are discovered are those of the
statements. Where one does, a table that does not exist may be discovered, and if it has an opened
quote behind it, tables that do exist are taken for a part of its name.

Results:
* `scan_closed`: lines that do not begin like a table are passed over;
* `tables_statements`: the tables of statements whose quotes hide no such line;
* `tables_swallowing`: what is discovered when a quote hides one.
-/

namespace MaskedDump.Discovery

open Bytes

/-! ## Lines inside a text -/

/-- Whether a line that begins inside a text begins with `opening`. -/
def BeginsInside (opening bs : Bytes) : Prop :=
  ∃ lead rest, bs = lead ++ lineFeed :: rest ∧ opening <+: rest

theorem beginsInside_iff {opening : Bytes} (hopening : opening ≠ []) (bs : Bytes) :
    BeginsInside opening bs ↔ BeginsLine opening (afterLine bs) := by
  constructor
  · rintro ⟨lead, rest, rfl, hbegins⟩
    induction lead with
    | nil =>
      rw [List.nil_append, afterLine, if_pos rfl]
      exact ⟨[], rest, rfl, closed_nil, hbegins⟩
    | cons x lead ih =>
      rw [List.cons_append, afterLine]
      split
      · rw [List.append_cons]
        exact ⟨lead ++ [lineFeed], rest, rfl, closed_concat, hbegins⟩
      · exact ih
  · rintro ⟨lead, rest, hafter, hlead, hbegins⟩
    rcases firstLine_cases bs with ⟨line, -, hbs, -⟩ | ⟨-, -, hnil⟩
    · rw [hbs, hafter]
      rcases hlead.eq_nil_or_concat with rfl | ⟨lead, rfl⟩
      · exact ⟨line, rest, rfl, hbegins⟩
      · exact ⟨line ++ lineFeed :: lead, rest, by simp, hbegins⟩
    · have hrest : rest = [] := (List.append_eq_nil_iff.mp (hafter.symm.trans hnil)).2
      rw [hrest] at hbegins
      exact absurd (List.prefix_nil.mp hbegins) hopening

/-- A line begins where the text does, or inside it. -/
theorem begins_or_beginsInside {opening bs : Bytes} (h : BeginsLine opening bs) :
    opening <+: bs ∨ BeginsInside opening bs := by
  obtain ⟨lead, rest, rfl, hlead, hbegins⟩ := h
  rcases hlead.eq_nil_or_concat with rfl | ⟨lead, rfl⟩
  · exact .inl hbegins
  · exact .inr ⟨lead, rest, by simp, hbegins⟩

theorem BeginsInside.of_cons {opening b : Bytes} {x : UInt8} (hx : x ≠ lineFeed)
    (h : BeginsInside opening (x :: b)) : BeginsInside opening b := by
  obtain ⟨lead, rest, heq, hbegins⟩ := h
  cases lead with
  | nil => exact absurd (List.cons.inj heq).1 hx
  | cons y lead => exact ⟨lead, rest, (List.cons.inj heq).2, hbegins⟩

/-- A line that begins in the first part of a text ends, as far as an opening goes, before a byte
that the opening does not have. -/
theorem BeginsInside.of_append {opening a b : Bytes} {x : UInt8} (hx : x ≠ lineFeed)
    (hopening : x ∉ opening) (h : BeginsInside opening (a ++ x :: b)) :
    BeginsInside opening a ∨ BeginsInside opening b := by
  obtain ⟨lead, rest, heq, hbegins⟩ := h
  rcases List.append_eq_append_iff.mp heq with ⟨mid, -, hmid⟩ | ⟨mid, rfl, hmid⟩
  · have hinside : BeginsInside opening (x :: b) := ⟨mid, rest, hmid, hbegins⟩
    exact .inr (hinside.of_cons hx)
  · cases mid with
    | nil => exact absurd (List.cons.inj hmid).1.symm hx
    | cons y mid =>
      obtain ⟨rfl, rfl⟩ := List.cons.inj hmid
      exact .inl ⟨lead, mid, rfl, prefix_of_not_mem hopening hbegins⟩

/-! ## Passing over lines -/

theorem onOneLine_tableOpenings : ∀ opening ∈ tableOpenings, OnOneLine opening := by decide

/-- Whole lines that do not begin like a table are passed over. -/
theorem scan_closed {text : Bytes} (hclosed : Closed text)
    (hno : ∀ opening ∈ tableOpenings, ¬ BeginsLine opening text) (rest : Bytes) :
    scan tableHeader? 0 true (text ++ rest) = scan tableHeader? 0 true rest := by
  rcases firstLine_cases text with ⟨line, hline, htext, -⟩ | ⟨hnone, -, -⟩
  · -- the first line has no header, and the lines behind it are fewer
    have hlength : (afterLine text).length < text.length := by
      refine length_afterLine_lt ?_
      rw [htext]
      simp
    have hclosed' : Closed (afterLine text) := closed_afterLine hclosed
    have hno' : ∀ opening ∈ tableOpenings, ¬ BeginsLine opening (afterLine text) :=
      fun opening hopening h =>
        hno opening hopening (h.of_afterLine (onOneLine_tableOpenings opening hopening) [])
    have hheader : tableHeader? (text ++ rest) = none := by
      refine tableHeader?_eq_none fun opening hopening hbegins => ?_
      rw [htext, List.append_assoc, List.cons_append] at hbegins
      have hbegins' := prefix_of_not_mem (onOneLine_tableOpenings opening hopening).2 hbegins
      refine hno opening hopening ⟨[], text, rfl, closed_nil, ?_⟩
      rw [htext]
      exact hbegins'.trans (List.prefix_append _ _)
    rw [scan_passed hheader]
    have hmem : lineFeed ∈ text := htext ▸ List.mem_append_cons_self
    rw [afterLine_append hmem, scan_closed hclosed' hno' rest]
  · rw [hclosed.eq_nil hnone, List.nil_append]
termination_by text.length

/-! ## Statements -/

/-- The dollar around a tag. -/
def dollar : UInt8 := 36

/-- A text that stands between quotes. Its bytes are arbitrary. -/
inductive Quoted
  /-- A string literal. -/
  | literal (value : Bytes)
  /-- A quoted name. -/
  | name (content : Bytes)
  /-- The body of a function, between dollars with a tag. -/
  | body (tag value : Bytes)

/-- The byte that a quoted text begins and ends with. -/
def Quoted.mark : Quoted → UInt8
  | literal _ => singleQuote
  | name _ => doubleQuote
  | body _ _ => dollar

/-- What stands between the two marks. -/
def Quoted.inside : Quoted → Bytes
  | literal value => Sql.doubleQuotes value
  | name content => Sql.escapeQuotes content
  | body tag value => tag ++ [dollar] ++ value ++ [dollar] ++ tag

/-- A quoted text as it is printed. -/
def Quoted.text (quoted : Quoted) : Bytes := quoted.mark :: (quoted.inside ++ [quoted.mark])

/-- A part of a statement: code, and then quoted texts with the code behind each. -/
structure Phrase where
  lead : Bytes
  more : List (Quoted × Bytes) := []

/-- A phrase as it is printed. -/
def Phrase.text (phrase : Phrase) : Bytes :=
  phrase.lead ++ phrase.more.flatMap fun (quoted, code) => quoted.text ++ code

/-- A statement, with the comments and empty lines around it. -/
inductive Statement
  /-- A statement that creates a table: its name, and what stands behind it. -/
  | table (unlogged : Bool) (name : Sql.Name) (definition : Phrase)
  /-- Any other statement. -/
  | other (phrase : Phrase)

namespace Statement

/-- A statement as it is printed. -/
def text : Statement → Bytes
  | table unlogged name definition =>
    tableOpening unlogged ++ (name.text ++ space :: definition.text)
  | other phrase => phrase.text

/-- The table that a statement creates, if it does. -/
def table? : Statement → Option Identifier
  | table _ name _ => some ⟨name.text⟩
  | other _ => none

/-- What may hold quoted texts. -/
def phrase : Statement → Phrase
  | table _ _ definition => definition
  | other phrase => phrase

end Statement

/-- Whether no line that begins inside a text looks like a statement that creates a table. -/
def HidesNoTable (bs : Bytes) : Prop :=
  ∀ opening ∈ tableOpenings, ∀ line ∈ pieces (afterLine bs), ¬ opening <+: line

instance : DecidablePred HidesNoTable := fun bs =>
  inferInstanceAs
    (Decidable (∀ opening ∈ tableOpenings, ∀ line ∈ pieces (afterLine bs), ¬ opening <+: line))

/-- Whether a statement is printed as the export tool does it: it ends with a line, and outside
quotes a line that looks like a statement that creates a table is one. -/
def Statement.Printed (s : Statement) : Prop :=
  s.phrase.text.getLast? = some lineFeed ∧ HidesNoTable s.phrase.lead ∧
    (∀ part ∈ s.phrase.more, HidesNoTable part.2) ∧
    (s.table? = none → ∀ opening ∈ tableOpenings, ¬ opening <+: s.text)

instance : DecidablePred Statement.Printed := fun s =>
  inferInstanceAs (Decidable (s.phrase.text.getLast? = some lineFeed ∧
    HidesNoTable s.phrase.lead ∧ (∀ part ∈ s.phrase.more, HidesNoTable part.2) ∧
    (s.table? = none → ∀ opening ∈ tableOpenings, ¬ opening <+: s.text)))

/-- Whether no line inside its quotes looks like a statement that creates a table. -/
def Statement.Harmless (s : Statement) : Prop :=
  ∀ part ∈ s.phrase.more, HidesNoTable part.1.text

instance : DecidablePred Statement.Harmless := fun s =>
  inferInstanceAs (Decidable (∀ part ∈ s.phrase.more, HidesNoTable part.1.text))

theorem hidesNoTable_iff {bs : Bytes} :
    HidesNoTable bs ↔ ∀ opening ∈ tableOpenings, ¬ BeginsInside opening bs := by
  refine forall₂_congr fun opening hopening => ?_
  obtain ⟨hne, hfeed⟩ := onOneLine_tableOpenings opening hopening
  rw [beginsInside_iff hne, beginsLine_iff_piece hfeed]
  simp

/-- No mark is a line feed or stands in an opening. -/
theorem Quoted.mark_ne (quoted : Quoted) :
    quoted.mark ≠ lineFeed ∧ ∀ opening ∈ tableOpenings, quoted.mark ∉ opening := by
  have hsingle : singleQuote ≠ lineFeed ∧ ∀ opening ∈ tableOpenings, singleQuote ∉ opening := by
    decide
  have hdouble : doubleQuote ≠ lineFeed ∧ ∀ opening ∈ tableOpenings, doubleQuote ∉ opening := by
    decide
  have hdollar : dollar ≠ lineFeed ∧ ∀ opening ∈ tableOpenings, dollar ∉ opening := by
    decide
  cases quoted with
  | literal value => exact hsingle
  | name content => exact hdouble
  | body tag value => exact hdollar

/-- A line that begins between the marks begins inside the quoted text. -/
theorem Quoted.beginsInside {opening : Bytes} {quoted : Quoted}
    (h : BeginsInside opening quoted.inside) : BeginsInside opening quoted.text := by
  obtain ⟨lead, rest, hinside, hbegins⟩ := h
  refine ⟨quoted.mark :: lead, rest ++ [quoted.mark], ?_,
    hbegins.trans (List.prefix_append _ _)⟩
  rw [Quoted.text, hinside, List.append_assoc, List.cons_append, List.cons_append]

/-- A line that begins inside a phrase begins inside its code or inside a quoted text. -/
theorem Phrase.beginsInside {opening : Bytes} (hopening : opening ∈ tableOpenings)
    (more : List (Quoted × Bytes)) (lead : Bytes)
    (h : BeginsInside opening (Phrase.text ⟨lead, more⟩)) :
    BeginsInside opening lead ∨
      ∃ part ∈ more, BeginsInside opening part.1.text ∨ BeginsInside opening part.2 := by
  induction more generalizing lead with
  | nil =>
    rw [Phrase.text, List.flatMap_nil, List.append_nil] at h
    exact .inl h
  | cons part more ih =>
    obtain ⟨quoted, code⟩ := part
    obtain ⟨hfeed, hmark⟩ := quoted.mark_ne
    have htext : Phrase.text ⟨lead, (quoted, code) :: more⟩ =
        lead ++ quoted.mark :: (quoted.inside ++ quoted.mark :: Phrase.text ⟨code, more⟩) := by
      simp [Phrase.text, Quoted.text]
    rw [htext] at h
    rcases h.of_append hfeed (hmark opening hopening) with hlead | hquoted
    · exact .inl hlead
    refine .inr ?_
    rcases hquoted.of_append hfeed (hmark opening hopening) with hinside | hrest
    · exact ⟨_, List.mem_cons_self, .inl (Quoted.beginsInside hinside)⟩
    · rcases ih code hrest with hcode | ⟨part, hpart, hbegins⟩
      · exact ⟨_, List.mem_cons_self, .inr hcode⟩
      · exact ⟨part, List.mem_cons_of_mem _ hpart, hbegins⟩

/-- Where quotes hide no table, no line that begins inside a statement looks like one. -/
theorem Statement.not_beginsInside {s : Statement} (hprinted : s.Printed) (hharmless : s.Harmless)
    {opening : Bytes} (hopening : opening ∈ tableOpenings) :
    ¬ BeginsInside opening s.phrase.text := by
  obtain ⟨-, hlead, hmore, -⟩ := hprinted
  intro h
  rcases Phrase.beginsInside hopening _ _ h with hbegins | ⟨part, hpart, hbegins | hbegins⟩
  · exact hidesNoTable_iff.mp hlead opening hopening hbegins
  · exact hidesNoTable_iff.mp (hharmless part hpart) opening hopening hbegins
  · exact hidesNoTable_iff.mp (hmore part hpart) opening hopening hbegins

/-! ## Scanning statements -/

/-- The scan meets the table that a statement creates, and goes on behind the statement. -/
theorem scan_statement {s : Statement} (hprinted : s.Printed) (hharmless : s.Harmless)
    (rest : Bytes) :
    scan tableHeader? 0 true (s.text ++ rest) =
      s.table?.toList.map Identifier.bytes ++ scan tableHeader? 0 true rest := by
  have hinside : ∀ opening ∈ tableOpenings, ¬ BeginsInside opening s.phrase.text :=
    fun _ => s.not_beginsInside hprinted hharmless
  obtain ⟨hended, -, -, hother⟩ := hprinted
  have hclosed : Closed s.phrase.text := .inr hended
  cases s with
  | other phrase =>
    refine scan_closed hclosed (fun opening hopening hbegins => ?_) rest
    rcases begins_or_beginsInside hbegins with hbegins | hbegins
    · exact hother rfl opening hopening hbegins
    · exact hinside opening hopening hbegins
  | table unlogged name definition =>
    have htext : (Statement.table unlogged name definition).text ++ rest =
        tableOpening unlogged ++ (name.text ++ [space]) ++ (definition.text ++ rest) := by
      simp [Statement.text]
    have hheader : TableHeader (tableOpening unlogged ++ (name.text ++ [space])) name.text
        (definition.text ++ rest) := .intro unlogged name (.space _)
    have hopen : ¬ Closed (tableOpening unlogged ++ (name.text ++ [space])) := by
      rw [← List.append_assoc, closed_append_iff (List.cons_ne_nil space [])]
      decide
    have hfeed : lineFeed ∈ definition.text := List.mem_of_getLast? hended
    have hrest : Closed (afterLine definition.text) := closed_afterLine hclosed
    have hno : ∀ opening ∈ tableOpenings, ¬ BeginsLine opening (afterLine definition.text) := by
      intro opening hopening hbegins
      have hne := (onOneLine_tableOpenings opening hopening).1
      exact hinside opening hopening ((beginsInside_iff hne _).mpr hbegins)
    rw [htext, tables_finds.scan_eq _ _ _ hheader, decide_eq_false hopen, scan_stale,
      afterLine_append hfeed, scan_closed hrest hno]
    rfl

/-- The names of all statements are met, in their order, by induction over the statements. -/
theorem scan_statements {statements : List Statement} (hprinted : ∀ s ∈ statements, s.Printed)
    (hharmless : ∀ s ∈ statements, s.Harmless) :
    scan tableHeader? 0 true (statements.flatMap Statement.text) =
      (statements.filterMap Statement.table?).map Identifier.bytes := by
  induction statements with
  | nil => rfl
  | cons s rest ih =>
    obtain ⟨hprinted, hprintedRest⟩ := List.forall_mem_cons.mp hprinted
    obtain ⟨hharmless, hharmlessRest⟩ := List.forall_mem_cons.mp hharmless
    rw [List.flatMap_cons, scan_statement hprinted hharmless, ih hprintedRest hharmlessRest]
    cases htable : s.table? with
    | none => rw [List.filterMap_cons_none htable]; rfl
    | some table => rw [List.filterMap_cons_some htable]; rfl

/-- The tables that are discovered in a text are those that its statements create, each once, where
it is first created, if no quote hides a line that looks like such a statement. -/
theorem tables_statements {statements : List Statement} (hprinted : ∀ s ∈ statements, s.Printed)
    (hharmless : ∀ s ∈ statements, s.Harmless) :
    tables (statements.flatMap Statement.text) =
      (statements.filterMap Statement.table?).eraseDups := by
  have hinjective : Function.Injective Identifier.bytes := by
    rintro ⟨a⟩ ⟨b⟩ rfl
    rfl
  rw [tables, names, scan_statements hprinted hharmless, eraseDups_map hinjective, List.map_map]
  exact List.map_id _

/-- A bare component. -/
def bareWord (s : String) (h : ofString s ≠ [] ∧ (ofString s).all Sql.isBare) :
    Sql.Component := .bare (ofString s) h.1 (List.all_eq_true.mp h.2)

/-- Definitions with a function whose body goes over several lines, a table that is created twice,
and a comment on it over several lines. -/
def harmless : List Statement :=
  [.other
      { lead := ofString "CREATE FUNCTION public.f() RETURNS void\n    LANGUAGE sql\n    AS "
        more := [(.body (ofString "x") (ofString "\n  CREATE TABLE t ();\n"), ofString ";\n\n")] },
    .table true (.qualified (bareWord "public" (by decide)) (.quoted (ofString "t\nt") (by decide)))
      { lead := ofString "(\n    id integer\n);\n\n" },
    .table true (.qualified (bareWord "public" (by decide)) (.quoted (ofString "t\nt") (by decide)))
      { lead := ofString "(\n    id integer\n);\n\n" },
    .other
      { lead := ofString "COMMENT ON TABLE public."
        more :=
          [(.name (ofString "t\nt"), ofString " IS "),
            (.literal (ofString "it's\na table"), ofString ";\n")] }]

theorem tables_harmless :
    (∀ s ∈ harmless, s.Printed) ∧ (∀ s ∈ harmless, s.Harmless) ∧
      tables (harmless.flatMap Statement.text) = [.ofString "public.\"t\nt\""] := by
  have hprinted : ∀ s ∈ harmless, s.Printed := by decide +kernel
  have hharmless : ∀ s ∈ harmless, s.Harmless := by decide +kernel
  refine ⟨hprinted, hharmless, (tables_statements hprinted hharmless).trans ?_⟩
  decide +kernel

/-- Definitions with a comment, one of whose lines looks like the beginning of a table. -/
def swallowing : List Statement :=
  [.other
      { lead := ofString "COMMENT ON SCHEMA public IS "
        more := [(.literal (ofString "see\nCREATE TABLE \""), ofString ";\n\n")] },
    .table false (.qualified (bareWord "public" (by decide)) (bareWord "a" (by decide)))
      { lead := ofString "(\n    id integer\n);\n\n" },
    .other
      { lead := ofString "COMMENT ON TABLE public.a IS "
        more := [(.literal (ofString "24\" rack"), ofString ";\n")] }]

/-- The table that these definitions create is not discovered. It is taken for a part of the name of
another one, which they do not create. -/
theorem tables_swallowing :
    (∀ s ∈ swallowing, s.Printed) ∧
      swallowing.filterMap Statement.table? = [.ofString "public.a"] ∧
      tables (swallowing.flatMap Statement.text) =
        [.ofString
          ("\"';\n\nCREATE TABLE public.a (\n    id integer\n);\n\n"
            ++ "COMMENT ON TABLE public.a IS '24\"")] := by
  exact ⟨by decide +kernel, by decide +kernel, by decide +kernel⟩

end MaskedDump.Discovery
