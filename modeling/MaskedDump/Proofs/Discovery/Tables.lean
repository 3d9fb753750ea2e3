import MaskedDump.Proofs.Discovery.Names
import MaskedDump.Proofs.Discovery.Scan

/-!
# Headers of tables

The header of a table is an opening, a printed name, and a space, a line feed or the end of the text
behind it. A line start has at most one of them, so it does not matter how it is looked for.

Results:
* `tableHeader?_text`: the header of a printed name is found;
* `tableName?_eq_some_iff`: what is found at the head of a text is the header that stands there;
* `tables_finds`: the scan for tables goes on behind their headers;
* `scan_lines`: where no name has a line feed, each line is looked at on its own;
* `tables_met`: the tables that are listed are those that are met.
-/

namespace MaskedDump.Discovery

open Bytes

/-! ## Headers -/

/-- The opening of a statement that creates a table. -/
def tableOpening (unlogged : Bool) : Bytes :=
  Bytes.ofString (if unlogged then "CREATE UNLOGGED TABLE " else "CREATE TABLE ")

/-- What ends the name of a table in front of a text: a space, a line feed, or the end of the text.
-/
inductive EndsTable : Bytes → Bytes → Prop
  | space (rest : Bytes) : EndsTable [space] rest
  | lineFeed (rest : Bytes) : EndsTable [lineFeed] rest
  | textEnd : EndsTable [] []

/-- Headers of tables, with the names in them and the texts behind them. -/
inductive TableHeader : Bytes → Bytes → Bytes → Prop
  | intro (unlogged : Bool) (name : Sql.Name) {ending rest : Bytes} : EndsTable ending rest →
      TableHeader (tableOpening unlogged ++ (name.text ++ ending)) name.text rest

/-- Whether the header of a table with some name stands at the head of a text. -/
def NamesTable (text name : Bytes) : Prop :=
  ∃ head rest, text = head ++ rest ∧ TableHeader head name rest

/-- The name of the table whose header stands at the head of a text. -/
def tableName? (text : Bytes) : Option Bytes := (tableHeader? text).map Header.name

theorem tableOpenings_eq : tableOpenings = [tableOpening false, tableOpening true] := rfl

theorem mem_tableOpenings {opening : Bytes} :
    opening ∈ tableOpenings ↔ ∃ unlogged, opening = tableOpening unlogged := by
  simp [tableOpenings_eq]

theorem tableOpening_ne_nil (unlogged : Bool) : tableOpening unlogged ≠ [] := by
  cases unlogged <;> decide

theorem lineFeed_not_mem_tableOpening (unlogged : Bool) : lineFeed ∉ tableOpening unlogged := by
  cases unlogged <;> decide

/-! ## Ends of names -/

theorem EndsTable.endsName {ending rest : Bytes} (h : EndsTable ending rest) :
    Sql.EndsName (ending ++ rest) := by
  cases h with
  | space => exact Sql.endsName_cons (by decide) (by decide) (by decide) rest
  | lineFeed => exact Sql.endsName_cons (by decide) (by decide) (by decide) rest
  | textEnd => exact Sql.endsName_nil

theorem endsTable_of_isSome {after : Bytes} (h : (tableNameEnd after).isSome) :
    ∃ ending rest, after = ending ++ rest ∧ EndsTable ending rest := by
  cases after with
  | nil => exact ⟨[], [], rfl, .textEnd⟩
  | cons b rest =>
    rw [tableNameEnd] at h
    split at h
    · rename_i hb
      exact ⟨[space], rest, by rw [hb]; rfl, .space rest⟩
    · split at h
      · rename_i hb
        exact ⟨[lineFeed], rest, by rw [hb]; rfl, .lineFeed rest⟩
      · cases h

/-! ## Finding headers -/

/-- The header of a table is found where its name ends. -/
theorem tableHeader?_text (unlogged : Bool) (name : Sql.Name) {after : Bytes}
    (hafter : Sql.EndsName after) {more : Nat} (hmore : tableNameEnd after = some more) :
    tableHeader? (tableOpening unlogged ++ (name.text ++ after)) =
      some ⟨name.text, (tableOpening unlogged).length + name.text.length + more⟩ := by
  have hopening : ∀ opening text : Bytes, after? opening (opening ++ text) = some text :=
    fun _ _ => after?_eq_some_iff.mpr rfl
  have hheader := header?_text name hafter hmore
  rw [tableHeader?, tableOpenings_eq, List.findSome?_cons]
  cases unlogged with
  | false => rw [hopening, Option.bind_some, hheader]
  | true =>
    have hother :
        after? (tableOpening false) (tableOpening true ++ (name.text ++ after)) = none := by
      have hunlike : Unlike (tableOpening false) (tableOpening true) := by decide
      cases hfound : after? (tableOpening false) (tableOpening true ++ (name.text ++ after)) with
      | none => rfl
      | some found =>
        have hbegins : tableOpening false <+: tableOpening true ++ (name.text ++ after) :=
          ⟨found, (after?_eq_some_iff.mp hfound).symm⟩
        exact absurd hbegins (hunlike.not_begins (List.prefix_append _ _))
    rw [hother, Option.bind_none, List.findSome?_cons, hopening, Option.bind_some, hheader]

theorem EndsTable.tableNameEnd {ending rest : Bytes} (h : EndsTable ending rest) :
    ∃ more, Discovery.tableNameEnd (ending ++ rest) = some more := by
  cases h with
  | space => exact ⟨1, rfl⟩
  | lineFeed => exact ⟨0, rfl⟩
  | textEnd => exact ⟨0, rfl⟩

/-- What is found at the head of a text is the header that stands there. -/
theorem tableName?_eq_some_iff {text name : Bytes} :
    tableName? text = some name ↔ NamesTable text name := by
  constructor
  · intro h
    obtain ⟨found, hfound, rfl⟩ := Option.map_eq_some_iff.mp h
    obtain ⟨opening, hopening, name, after, htext, rfl, hend⟩ := tableHeader?_eq_some hfound
    obtain ⟨unlogged, rfl⟩ := mem_tableOpenings.mp hopening
    obtain ⟨ending, rest, rfl, hending⟩ := endsTable_of_isSome hend
    rw [htext]
    exact ⟨_, rest, by simp, .intro unlogged name hending⟩
  · rintro ⟨_, rest, rfl, ⟨unlogged, name, hending⟩⟩
    obtain ⟨more, hmore⟩ := hending.tableNameEnd
    rw [tableName?, List.append_assoc, List.append_assoc,
      tableHeader?_text _ _ hending.endsName hmore]
    rfl

theorem tableHeader?_eq_none {text : Bytes} (h : ∀ opening ∈ tableOpenings, ¬ opening <+: text) :
    tableHeader? text = none := by
  cases hfound : tableHeader? text with
  | none => rfl
  | some found =>
    obtain ⟨opening, hopening, _, _, -, htext, -⟩ := tableHeader?_eq_some hfound
    exact absurd ⟨_, htext.symm⟩ (h opening hopening)

/-! ## The scan for tables -/

/-- No header begins with a line feed. -/
theorem scan_lineFeed (fresh : Bool) (rest : Bytes) :
    scan tableHeader? 0 fresh (lineFeed :: rest) = scan tableHeader? 0 true rest := by
  cases fresh with
  | false => rfl
  | true =>
    refine scan_passed (tableHeader?_eq_none fun opening hopening hbegins => ?_)
    obtain ⟨unlogged, rfl⟩ := mem_tableOpenings.mp hopening
    obtain ⟨tail, htail⟩ := hbegins
    cases unlogged <;> nomatch (List.cons.inj htail).1

/-- The scan for tables goes on behind their headers. -/
theorem tables_finds : Finds tableHeader? TableHeader where
  sound text found hfound := by
    have hname : tableName? text = some found.name := by rw [tableName?, hfound]; rfl
    obtain ⟨head, rest, rfl, hheader⟩ := tableName?_eq_some_iff.mp hname
    exact ⟨head, rest, rfl, hheader⟩
  head_ne_nil := by
    rintro _ _ _ ⟨unlogged, name, -⟩
    exact List.append_ne_nil_of_left_ne_nil (tableOpening_ne_nil unlogged) _
  scan_eq := by
    rintro _ _ rest ⟨unlogged, name, hending⟩
    have hhead : ∀ more : Bytes, tableOpening unlogged ++ (name.text ++ more) ≠ [] :=
      fun _ => List.append_ne_nil_of_left_ne_nil (tableOpening_ne_nil unlogged) _
    cases hending with
    | space =>
      have hheader : tableHeader? (tableOpening unlogged ++ (name.text ++ [space]) ++ rest) =
          some ⟨name.text, (tableOpening unlogged).length + name.text.length + 1⟩ := by
        rw [List.append_assoc, List.append_assoc]
        exact tableHeader?_text unlogged name (EndsTable.space rest).endsName rfl
      exact scan_header (hhead _) hheader (by simp [Nat.add_assoc])
    | lineFeed =>
      -- the test leaves the line feed to the scan
      have hheader : tableHeader? (tableOpening unlogged ++ name.text ++ lineFeed :: rest) =
          some ⟨name.text, (tableOpening unlogged).length + name.text.length⟩ := by
        rw [List.append_assoc]
        exact tableHeader?_text unlogged name (EndsTable.lineFeed rest).endsName rfl
      have hscan :
          scan tableHeader? 0 true (tableOpening unlogged ++ name.text ++ lineFeed :: rest) =
            name.text :: scan tableHeader? 0 true rest := by
        rw [scan_header (List.append_ne_nil_of_left_ne_nil (tableOpening_ne_nil unlogged) _) hheader
          (by simp), scan_lineFeed]
      have hclosed : Closed (tableOpening unlogged ++ (name.text ++ [lineFeed])) := by
        rw [← List.append_assoc]
        exact closed_concat
      rw [decide_eq_true hclosed, ← hscan]
      simp
    | textEnd =>
      have hheader : tableHeader? (tableOpening unlogged ++ (name.text ++ []) ++ []) =
          some ⟨name.text, (tableOpening unlogged).length + name.text.length⟩ := by
        rw [List.append_assoc, List.append_assoc]
        exact tableHeader?_text unlogged name EndsTable.textEnd.endsName rfl
      exact scan_header (hhead _) hheader (by simp)

/-! ## Line by line -/

/-- An opening and a name without a line feed have none together. -/
theorem lineFeed_not_mem_head (unlogged : Bool) {name ending : Bytes} (hname : lineFeed ∉ name)
    (hending : lineFeed ∉ ending) : lineFeed ∉ tableOpening unlogged ++ (name ++ ending) := by
  simp [lineFeed_not_mem_tableOpening unlogged, hname, hending]

/-- A header whose name has no line feed stands on its line. -/
theorem namesTable_line {line name : Bytes} (hline : lineFeed ∉ line) (hname : lineFeed ∉ name)
    (rest : Bytes) : NamesTable (line ++ lineFeed :: rest) name ↔ NamesTable line name := by
  constructor
  · rintro ⟨_, after, hsplit, ⟨unlogged, name, hending⟩⟩
    cases hending with
    | space =>
      have hhead : lineFeed ∉ tableOpening unlogged ++ (name.text ++ [space]) :=
        lineFeed_not_mem_head unlogged hname (by decide)
      obtain ⟨more, hmore⟩ := prefix_of_not_mem hhead ⟨after, hsplit.symm⟩
      exact ⟨_, more, hmore.symm, .intro unlogged name (.space more)⟩
    | lineFeed =>
      have hhead := lineFeed_not_mem_head unlogged hname List.not_mem_nil
      have hfirst : line ++ lineFeed :: rest =
          (tableOpening unlogged ++ (name.text ++ [])) ++ lineFeed :: after := by
        rw [hsplit]
        simp
      obtain ⟨hlines, -⟩ := append_lineFeed_inj hline hhead hfirst
      exact ⟨_, [], by rw [List.append_nil, hlines], .intro unlogged name .textEnd⟩
    | textEnd =>
      have hhead := lineFeed_not_mem_head unlogged hname List.not_mem_nil
      rw [List.append_nil] at hsplit
      exact absurd (hsplit ▸ List.mem_append_cons_self) hhead
  · rintro ⟨_, after, rfl, ⟨unlogged, name, hending⟩⟩
    cases hending with
    | space =>
      exact ⟨_, after ++ lineFeed :: rest, List.append_assoc _ _ _, .intro unlogged name (.space _)⟩
    | lineFeed => exact absurd (by simp) hline
    | textEnd => exact ⟨_, rest, by simp, .intro unlogged name (.lineFeed rest)⟩

theorem lineFeed_not_mem_of_namesTable {line name : Bytes} (hline : lineFeed ∉ line)
    (h : NamesTable line name) : lineFeed ∉ name := by
  obtain ⟨_, rest, rfl, ⟨unlogged, name, -⟩⟩ := h
  exact fun hmem => hline (by simp [hmem])

/-- If the name at the head of a text has no line feed, it is that on the first line. -/
theorem tableName?_line {line rest : Bytes} (hline : lineFeed ∉ line)
    (h : ∀ name, tableName? (line ++ lineFeed :: rest) = some name → lineFeed ∉ name) :
    tableName? (line ++ lineFeed :: rest) = tableName? line := by
  refine Option.ext fun name => ⟨fun hname => ?_, fun hname => ?_⟩
  · have hfeed := h name hname
    rw [tableName?_eq_some_iff] at hname ⊢
    exact (namesTable_line hline hfeed rest).mp hname
  · rw [tableName?_eq_some_iff] at hname ⊢
    exact (namesTable_line hline (lineFeed_not_mem_of_namesTable hline hname) rest).mpr hname

/-- Behind a header on one line the scan goes on with the next line. -/
theorem TableHeader.scan_behind {head name rest : Bytes} (h : TableHeader head name rest)
    (hname : lineFeed ∉ name) :
    scan tableHeader? 0 (decide (Closed head)) rest =
      scan tableHeader? 0 true (afterLine (head ++ rest)) := by
  refine Discovery.scan_behind tableHeader? (tables_finds.head_ne_nil _ _ _ h) ?_ rest
  obtain ⟨unlogged, name, hending⟩ := h
  cases hending with
  | space => exact .inl (lineFeed_not_mem_head unlogged hname (by decide))
  | lineFeed =>
    refine .inr ⟨tableOpening unlogged ++ name.text, ?_, (List.append_assoc _ _ _).symm⟩
    have hhead := lineFeed_not_mem_head unlogged hname List.not_mem_nil
    rwa [List.append_nil] at hhead
  | textEnd => exact .inl (lineFeed_not_mem_head unlogged hname List.not_mem_nil)

/-- Where no name goes over a line end, each line is looked at on its own. -/
theorem scan_lines {text : Bytes} (h : ∀ name ∈ scan tableHeader? 0 true text, lineFeed ∉ name) :
    scan tableHeader? 0 true text = (pieces text).filterMap tableName? := by
  have hfirst : ∀ name, tableName? text = some name → lineFeed ∉ name := by
    intro name hname
    obtain ⟨head, rest, rfl, hheader⟩ := tableName?_eq_some_iff.mp hname
    rw [tables_finds.scan_eq _ _ _ hheader] at h
    exact h name List.mem_cons_self
  have hscan : scan tableHeader? 0 true text =
      (tableName? text).toList ++ scan tableHeader? 0 true (afterLine text) := by
    cases hname : tableName? text with
    | none => exact scan_passed (Option.map_eq_none_iff.mp hname)
    | some name =>
      have hfeed := hfirst name hname
      obtain ⟨head, rest, rfl, hheader⟩ := tableName?_eq_some_iff.mp hname
      rw [tables_finds.scan_eq _ _ _ hheader, hheader.scan_behind hfeed]
      rfl
  rcases firstLine_cases text with ⟨line, hline, htext, -⟩ | ⟨hnone, -, hafter⟩
  · -- the lines behind the first one are fewer
    have hlength : (afterLine text).length < text.length := by
      refine length_afterLine_lt ?_
      rw [htext]
      simp
    have hname : tableName? text = tableName? line := by
      rw [htext] at hfirst ⊢
      exact tableName?_line hline hfirst
    have hrest := scan_lines fun name hmem => h name (hscan ▸ List.mem_append_right _ hmem)
    have hpieces : pieces text = line :: pieces (afterLine text) := by
      rw [← pieces_line_append hline, ← htext]
    rw [hscan, hpieces, List.filterMap_cons, hname, hrest]
    cases tableName? line <;> rfl
  · rw [hscan, hafter, pieces_of_not_mem hnone, scan, List.append_nil, List.filterMap_cons]
    cases tableName? text <;> rfl
termination_by text.length

/-! ## The tables of a text -/

/-- No text has the headers of two tables at its head. The tables that are listed for a text are
those whose headers are met in it from left to right, each once, where it is first met. If none of
their names has a line feed, they are those of the lines that begin with a header. -/
theorem tables_met (ddl : Bytes) :
    (∀ text name name', NamesTable text name → NamesTable text name' → name = name') ∧
      (∀ line name, tableName? line = some name ↔ NamesTable line name) ∧
      ∃ met, (∀ names, Meets TableHeader [] ddl names ↔ names = met) ∧
        tables ddl = met.eraseDups.map Identifier.mk ∧
        ((∀ name ∈ met, lineFeed ∉ name) →
          tables ddl = ((pieces ddl).filterMap tableName?).eraseDups.map Identifier.mk) := by
  refine ⟨fun text name name' hname hname' => ?_, fun _ _ => tableName?_eq_some_iff,
    scan tableHeader? 0 true ddl, fun names => tables_finds.meets_iff, rfl, fun hmet => ?_⟩
  · rw [← tableName?_eq_some_iff] at hname hname'
    exact Option.some.inj (hname.symm.trans hname')
  · rw [← scan_lines hmet]
    rfl

/-- Two lines begin with the header of one table. Of the other lines one has a name with three
components, one an empty one, and one ends in a carriage return. -/
theorem tables_met_lines :
    tables (ofString
        ("CREATE TABLE \"a\"\"b\".\"c.d\"\nCREATE TABLE s.t.u (\nCREATE TABLE \"\" (\n"
          ++ "CREATE TABLE s.t\r\nCREATE UNLOGGED TABLE \"a\"\"b\".\"c.d\" (")) =
      [.ofString "\"a\"\"b\".\"c.d\""] := by
  obtain ⟨-, -, met, hmet, -, hlines⟩ := tables_met (ofString
    ("CREATE TABLE \"a\"\"b\".\"c.d\"\nCREATE TABLE s.t.u (\nCREATE TABLE \"\" (\n"
      ++ "CREATE TABLE s.t\r\nCREATE UNLOGGED TABLE \"a\"\"b\".\"c.d\" ("))
  have hscan := (hmet _).mp (tables_finds.meets_iff.mpr rfl)
  rw [hlines (hscan ▸ by decide +kernel)]
  decide +kernel

end MaskedDump.Discovery
