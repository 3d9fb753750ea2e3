import MaskedDump.Proofs.Discovery.Names
import MaskedDump.Proofs.Discovery.Scan

/-!
# Headers of sequences

The header of a sequence is an opening, a printed name, and a space byte or the end of the text
behind it. There are two openings: that of a statement, and that of the clause of an identity
column. The clause may be indented, and blank lines in front of it count as indentation, so a header
may begin some lines before its name. It may also end with the line feed in front of the next
header. Neither makes the scan miss a name, as a line of spaces alone has no header of its own.

Results:
* `sequenceHeader?_text`, `sequenceHeader?_eq_some`: the header of a printed name is found, and
  nothing else is;
* `sequences_finds`: the scan for sequences goes on behind their headers;
* `scan_blank`: a blank line changes nothing;
* `scan_sequence_lines`: where no name has a line feed, each line is looked at on its own;
* `sequences_met`: the sequences that are listed are those that are met.
-/

namespace MaskedDump.Discovery

open Bytes

/-! ## Headers -/

/-- What stands in front of the name of a sequence: the opening of a statement, or spaces, line
feeds among them, and the opening of a clause. -/
inductive OpensSequence : Bytes → Prop
  | statement : OpensSequence (ofString "CREATE SEQUENCE ")
  | clause (indent : Bytes) : (∀ b ∈ indent, isSpace b) →
      OpensSequence (indent ++ ofString "SEQUENCE NAME ")

/-- What ends the name of a sequence in front of a text: a space byte, or the end of the text. -/
inductive EndsSequence : Bytes → Bytes → Prop
  | space {b : UInt8} (rest : Bytes) : isSpace b → EndsSequence [b] rest
  | textEnd : EndsSequence [] []

/-- Headers of sequences, with the names in them and the texts behind them. -/
inductive SequenceHeader : Bytes → Bytes → Bytes → Prop
  | intro {opening ending rest : Bytes} (name : Sql.Name) : OpensSequence opening →
      EndsSequence ending rest →
      SequenceHeader (opening ++ (name.text ++ ending)) name.text rest

/-- Whether the header of a sequence with some name stands at the head of a text. -/
def NamesSequence (text name : Bytes) : Prop :=
  ∃ head rest, text = head ++ rest ∧ SequenceHeader head name rest

/-- The name of the sequence whose header stands at the head of a text. -/
def sequenceName? (text : Bytes) : Option Bytes := (sequenceHeader? text).map Header.name

theorem sequenceOpening_eq : sequenceOpening = ofString "CREATE SEQUENCE " := rfl

theorem sequenceClause_eq : sequenceClause = ofString "SEQUENCE NAME " := rfl

theorem OpensSequence.ne_nil {opening : Bytes} (h : OpensSequence opening) : opening ≠ [] := by
  cases h with
  | statement => decide
  | clause indent => exact List.append_ne_nil_of_right_ne_nil indent (by decide)

theorem SequenceHeader.ne_nil {head name rest : Bytes} (h : SequenceHeader head name rest) :
    head ≠ [] := by
  obtain ⟨name, hopening, -⟩ := h
  exact List.append_ne_nil_of_left_ne_nil hopening.ne_nil _

/-- Every opening has a letter. -/
theorem OpensSequence.letter {opening : Bytes} (h : OpensSequence opening) :
    ∃ b ∈ opening, ¬ isSpace b := by
  cases h with
  | statement => exact ⟨67, by decide, by decide⟩
  | clause indent => exact ⟨83, List.mem_append_right indent (by decide), by decide⟩

/-! ## Ends of names -/

theorem endsName_of_isSpace {b : UInt8} (hb : isSpace b) (rest : Bytes) :
    Sql.EndsName (b :: rest) := by
  have hquote : b ≠ doubleQuote := by
    rintro rfl
    exact absurd hb (by decide)
  have hdot : b ≠ dot := by
    rintro rfl
    exact absurd hb (by decide)
  exact Sql.endsName_cons hquote (by simp [Sql.isBare, hb]) hdot rest

theorem EndsSequence.endsName {ending rest : Bytes} (h : EndsSequence ending rest) :
    Sql.EndsName (ending ++ rest) := by
  cases h with
  | space _ hb => exact endsName_of_isSpace hb rest
  | textEnd => exact Sql.endsName_nil

theorem EndsSequence.sequenceNameEnd {ending rest : Bytes} (h : EndsSequence ending rest) :
    Discovery.sequenceNameEnd (ending ++ rest) = some ending.length := by
  cases h with
  | space _ hb => exact if_pos hb
  | textEnd => rfl

theorem endsSequence_of_isSome {after : Bytes} (h : (sequenceNameEnd after).isSome) :
    ∃ ending rest, after = ending ++ rest ∧ EndsSequence ending rest := by
  cases after with
  | nil => exact ⟨[], [], rfl, .textEnd⟩
  | cons b rest =>
    rw [sequenceNameEnd] at h
    split at h
    · rename_i hb
      exact ⟨[b], rest, rfl, .space rest hb⟩
    · cases h

/-! ## Finding headers -/

/-- A clause does not begin like a statement, however it is indented. -/
theorem after?_sequenceOpening_clause {indent : Bytes} (hindent : ∀ b ∈ indent, isSpace b)
    (rest : Bytes) : after? sequenceOpening (indent ++ (sequenceClause ++ rest)) = none := by
  have hopening : ∀ found, (sequenceOpening ++ found).head? = some 67 := fun _ => rfl
  have hclause : (sequenceClause ++ rest).head? = some 83 := rfl
  cases hfound : after? sequenceOpening (indent ++ (sequenceClause ++ rest)) with
  | none => rfl
  | some found =>
    have hhead := congrArg List.head? (after?_eq_some_iff.mp hfound)
    rw [hopening] at hhead
    cases indent with
    | nil => exact absurd (hclause.symm.trans hhead) (by decide)
    | cons b indent =>
      obtain rfl : b = 67 := Option.some.inj hhead
      exact absurd (hindent 67 List.mem_cons_self) (by decide)

/-- The indentation of a clause is all the spaces in front of it. -/
theorem indent_sequenceClause {indent : Bytes} (hindent : ∀ b ∈ indent, isSpace b)
    (rest : Bytes) :
    (indent ++ (sequenceClause ++ rest)).takeWhile isSpace = indent ∧
      (indent ++ (sequenceClause ++ rest)).dropWhile isSpace = sequenceClause ++ rest := by
  have hclause : (sequenceClause ++ rest).takeWhile isSpace = [] ∧
      (sequenceClause ++ rest).dropWhile isSpace = sequenceClause ++ rest := ⟨rfl, rfl⟩
  rw [List.takeWhile_append_of_pos hindent, List.dropWhile_append_of_pos hindent, hclause.1,
    hclause.2, List.append_nil]
  exact ⟨rfl, rfl⟩

/-- The header of a sequence is found where its name ends. -/
theorem sequenceHeader?_text {opening ending rest : Bytes} (hopening : OpensSequence opening)
    (name : Sql.Name) (hending : EndsSequence ending rest) :
    sequenceHeader? (opening ++ (name.text ++ ending) ++ rest) =
      some ⟨name.text, (opening ++ (name.text ++ ending)).length⟩ := by
  have hheader := header?_text name hending.endsName hending.sequenceNameEnd
  have hlength : (opening ++ (name.text ++ ending)).length =
      opening.length + name.text.length + ending.length := by simp [Nat.add_assoc]
  rw [hlength, List.append_assoc, List.append_assoc, sequenceHeader?]
  cases hopening with
  | statement =>
    rw [← sequenceOpening_eq, after?_eq_some_iff.mpr rfl, Option.bind_some, hheader]
  | clause indent hindent =>
    obtain ⟨htake, hdrop⟩ := indent_sequenceClause hindent (name.text ++ (ending ++ rest))
    rw [← sequenceClause_eq, List.append_assoc, after?_sequenceOpening_clause hindent,
      Option.bind_none]
    dsimp only
    rw [htake, hdrop, after?_eq_some_iff.mpr rfl, Option.bind_some, hheader, List.length_append]

/-- What is found behind an opening is a name that ends there. -/
theorem OpensSequence.namesSequence {opening text : Bytes} (hopening : OpensSequence opening)
    {lead : Nat} {found : Header} (h : header? sequenceNameEnd lead text = some found) :
    NamesSequence (opening ++ text) found.name := by
  obtain ⟨name, after, hname, rfl, hend⟩ := header?_eq_some h
  obtain ⟨ending, rest, rfl, hending⟩ := endsSequence_of_isSome hend
  rw [hname]
  exact ⟨_, rest, by simp, .intro name hopening hending⟩

/-- What is found is the header of a sequence. -/
theorem sequenceHeader?_eq_some {text : Bytes} {found : Header}
    (h : sequenceHeader? text = some found) : NamesSequence text found.name := by
  unfold sequenceHeader? at h
  split at h
  · rename_i hstatement
    obtain rfl := Option.some.inj h
    obtain ⟨rest, hrest, hheader⟩ := Option.bind_eq_some_iff.mp hstatement
    rw [after?_eq_some_iff.mp hrest]
    exact OpensSequence.statement.namesSequence hheader
  · obtain ⟨rest, hrest, hheader⟩ := Option.bind_eq_some_iff.mp h
    have hindent : ∀ b ∈ text.takeWhile isSpace, isSpace b :=
      fun b hb => List.all_eq_true.mp List.all_takeWhile b hb
    rw [← List.takeWhile_append_dropWhile (p := isSpace) (l := text),
      after?_eq_some_iff.mp hrest, ← List.append_assoc]
    exact (OpensSequence.clause _ hindent).namesSequence hheader

/-- What is found at the head of a text is the header that stands there. -/
theorem sequenceName?_eq_some_iff {text name : Bytes} :
    sequenceName? text = some name ↔ NamesSequence text name := by
  constructor
  · intro h
    obtain ⟨found, hfound, rfl⟩ := Option.map_eq_some_iff.mp h
    exact sequenceHeader?_eq_some hfound
  · rintro ⟨_, rest, rfl, ⟨name, hopening, hending⟩⟩
    rw [sequenceName?, sequenceHeader?_text hopening name hending]
    rfl

/-- The scan for sequences goes on behind their headers. -/
theorem sequences_finds : Finds sequenceHeader? SequenceHeader where
  sound _ _ := sequenceHeader?_eq_some
  head_ne_nil _ _ _ := SequenceHeader.ne_nil
  scan_eq := by
    rintro _ _ rest ⟨name, hopening, hending⟩
    exact scan_header (List.append_ne_nil_of_left_ne_nil hopening.ne_nil _)
      (sequenceHeader?_text hopening name hending) rfl

/-! ## Blank lines -/

/-- The opening of a clause may be indented further. -/
theorem OpensSequence.indented {blank opening more : Bytes} (h : OpensSequence opening)
    (hblank : ∀ b ∈ blank, isSpace b) (hne : blank ≠ []) {rest : Bytes}
    (hsplit : blank ++ rest = opening ++ more) :
    ∃ opening', opening = blank ++ opening' ∧ OpensSequence opening' := by
  cases h with
  | statement =>
    obtain ⟨b, blank, rfl⟩ := List.exists_cons_of_ne_nil hne
    obtain rfl : b = 67 := (List.cons.inj hsplit).1
    exact absurd (hblank 67 List.mem_cons_self) (by decide)
  | clause indent hindent =>
    rw [List.append_assoc] at hsplit
    rcases List.append_eq_append_iff.mp hsplit with ⟨mid, rfl, -⟩ | ⟨mid, rfl, hmid⟩
    · refine ⟨mid ++ ofString "SEQUENCE NAME ", List.append_assoc _ _ _, .clause mid ?_⟩
      exact fun b hb => hindent b (List.mem_append_right _ hb)
    · cases mid with
      | nil => exact ⟨ofString "SEQUENCE NAME ", by simp, .clause [] nofun⟩
      | cons b mid =>
        obtain rfl : (83 : UInt8) = b := (List.cons.inj hmid).1
        exact absurd (hblank 83 (by simp)) (by decide)

/-- A header that begins with a blank line goes on with a header. -/
theorem SequenceHeader.behind_blank {blank rest head name after : Bytes}
    (h : SequenceHeader head name after) (hblank : ∀ b ∈ blank, isSpace b) (hne : blank ≠ [])
    (hsplit : blank ++ rest = head ++ after) :
    ∃ head', head = blank ++ head' ∧ rest = head' ++ after ∧ SequenceHeader head' name after := by
  obtain ⟨name, hopening, hending⟩ := h
  rw [List.append_assoc] at hsplit
  obtain ⟨opening', rfl, hopening'⟩ := hopening.indented hblank hne hsplit
  refine ⟨_, List.append_assoc _ _ _, ?_, .intro name hopening' hending⟩
  rw [List.append_assoc] at hsplit
  rw [List.append_assoc]
  exact List.append_cancel_left hsplit

/-- A blank line changes nothing for the scan: a header that begins with it is met behind it. -/
theorem scan_blank {line rest : Bytes} (hline : lineFeed ∉ line) (hblank : ∀ b ∈ line, isSpace b) :
    scan sequenceHeader? 0 true (line ++ lineFeed :: rest) = scan sequenceHeader? 0 true rest := by
  cases htest : sequenceHeader? (line ++ lineFeed :: rest) with
  | none => rw [scan_passed htest, afterLine_append_of_not_mem hline, afterLine, if_pos rfl]
  | some found =>
    obtain ⟨head, after, hsplit, hheader⟩ := sequenceHeader?_eq_some htest
    have hspaces : ∀ b ∈ line ++ [lineFeed], isSpace b :=
      List.forall_mem_append.mpr ⟨hblank, List.forall_mem_singleton.mpr rfl⟩
    have hsplit' : line ++ [lineFeed] ++ rest = head ++ after := by
      rw [← hsplit, List.append_assoc, List.singleton_append]
    obtain ⟨head', rfl, rfl, hheader'⟩ := hheader.behind_blank hspaces (by simp) hsplit'
    rw [hsplit, sequences_finds.scan_eq _ _ _ hheader, sequences_finds.scan_eq _ _ _ hheader',
      decide_eq_decide.mpr (closed_append_iff hheader'.ne_nil _)]

/-- A blank line has no header of its own. -/
theorem sequenceName?_blank {line : Bytes} (hblank : ∀ b ∈ line, isSpace b) :
    sequenceName? line = none := by
  cases hname : sequenceName? line with
  | none => rfl
  | some name =>
    obtain ⟨_, rest, rfl, ⟨name, hopening, -⟩⟩ := sequenceName?_eq_some_iff.mp hname
    obtain ⟨b, hb, hletter⟩ := hopening.letter
    exact absurd (hblank b (by simp [hb])) hletter

/-! ## Line by line -/

/-- An opening that begins on a line with a letter ends there. -/
theorem OpensSequence.lineFeed_not_mem {opening line rest more : Bytes}
    (h : OpensSequence opening) (hline : lineFeed ∉ line) (hletter : ∃ b ∈ line, ¬ isSpace b)
    (hsplit : line ++ lineFeed :: rest = opening ++ more) : lineFeed ∉ opening := by
  cases h with
  | statement => decide
  | clause indent hindent =>
    have hclause : lineFeed ∉ ofString "SEQUENCE NAME " := by decide
    intro hmem
    obtain ⟨first, behind, hfirst, hfeed⟩ :=
      List.eq_append_cons_of_mem ((List.mem_append.mp hmem).resolve_right hclause)
    -- the line is all of the indentation before its first line feed
    rw [hfirst, List.append_assoc, List.append_assoc, List.cons_append] at hsplit
    obtain ⟨rfl, -⟩ := append_lineFeed_inj hline hfeed hsplit
    obtain ⟨b, hb, hb'⟩ := hletter
    exact hb' (hindent b (hfirst ▸ List.mem_append_left _ hb))

/-- A header with its opening and its name on one line ends on that line, or with it. -/
theorem EndsSequence.onLine {opening ending rest : Bytes} {name : Sql.Name}
    (h : EndsSequence ending rest) (hopening : lineFeed ∉ opening)
    (hname : lineFeed ∉ name.text) :
    lineFeed ∉ opening ++ (name.text ++ ending) ∨ IsLine (opening ++ (name.text ++ ending)) := by
  cases h with
  | textEnd => exact .inl (by simp [hopening, hname])
  | @space b _ hb =>
    by_cases hfeed : b = lineFeed
    · refine .inr ⟨opening ++ name.text, by simp [hopening, hname], ?_⟩
      rw [hfeed, List.append_assoc]
    · exact .inl (by simp [hopening, hname, Ne.symm hfeed])

/-- A header whose name has no line feed stands on its line, if that is not blank. -/
theorem namesSequence_line {line name : Bytes} (hline : lineFeed ∉ line)
    (hletter : ∃ b ∈ line, ¬ isSpace b) (hname : lineFeed ∉ name) (rest : Bytes) :
    NamesSequence (line ++ lineFeed :: rest) name ↔ NamesSequence line name := by
  constructor
  · rintro ⟨_, after, hsplit, @⟨opening, _, _, name, hopening, hending⟩⟩
    have hfeed := hopening.lineFeed_not_mem hline hletter (hsplit.trans (List.append_assoc _ _ _))
    have hsolid : lineFeed ∉ opening ++ name.text := by simp [hfeed, hname]
    cases hending with
    | textEnd =>
      rw [List.append_nil, List.append_nil] at hsplit
      exact absurd (hsplit ▸ List.mem_append_cons_self) hsolid
    | @space b _ hb =>
      by_cases hb' : b = lineFeed
      · have hfirst : line ++ lineFeed :: rest = opening ++ name.text ++ lineFeed :: after := by
          rw [hsplit, hb']
          simp
        obtain ⟨rfl, -⟩ := append_lineFeed_inj hline hsolid hfirst
        exact ⟨_, [], by simp, .intro name hopening .textEnd⟩
      · have hhead : lineFeed ∉ opening ++ (name.text ++ [b]) := by
          simp [hfeed, hname, Ne.symm hb']
        obtain ⟨more, rfl⟩ := prefix_of_not_mem hhead ⟨after, hsplit.symm⟩
        exact ⟨_, more, rfl, .intro name hopening (.space more hb)⟩
  · rintro ⟨_, after, rfl, ⟨name, hopening, hending⟩⟩
    cases hending with
    | space _ hb =>
      exact ⟨_, after ++ lineFeed :: rest, List.append_assoc _ _ _,
        .intro name hopening (.space _ hb)⟩
    | textEnd =>
      exact ⟨_, rest, by simp, .intro name hopening (.space (b := lineFeed) rest (by decide))⟩

theorem lineFeed_not_mem_of_namesSequence {line name : Bytes} (hline : lineFeed ∉ line)
    (h : NamesSequence line name) : lineFeed ∉ name := by
  obtain ⟨_, rest, rfl, ⟨name, -, -⟩⟩ := h
  exact fun hmem => hline (by simp [hmem])

/-- If the name at the head of a text has no line feed, it is that on the first line, if this is not
blank. -/
theorem sequenceName?_line {line rest : Bytes} (hline : lineFeed ∉ line)
    (hletter : ∃ b ∈ line, ¬ isSpace b)
    (h : ∀ name, sequenceName? (line ++ lineFeed :: rest) = some name → lineFeed ∉ name) :
    sequenceName? (line ++ lineFeed :: rest) = sequenceName? line := by
  refine Option.ext fun name => ⟨fun hname => ?_, fun hname => ?_⟩
  · have hfeed := h name hname
    rw [sequenceName?_eq_some_iff] at hname ⊢
    exact (namesSequence_line hline hletter hfeed rest).mp hname
  · rw [sequenceName?_eq_some_iff] at hname ⊢
    have hfeed := lineFeed_not_mem_of_namesSequence hline hname
    exact (namesSequence_line hline hletter hfeed rest).mpr hname

/-- Where no opening goes over a line end, the scan looks at the head of the text and goes on with
the next line. -/
theorem scan_sequence_head {text : Bytes}
    (hopening : ∀ opening more, OpensSequence opening → text = opening ++ more →
      lineFeed ∉ opening)
    (hname : ∀ name, sequenceName? text = some name → lineFeed ∉ name) :
    scan sequenceHeader? 0 true text =
      (sequenceName? text).toList ++ scan sequenceHeader? 0 true (afterLine text) := by
  cases hfound : sequenceName? text with
  | none => exact scan_passed (Option.map_eq_none_iff.mp hfound)
  | some name =>
    have hfeed := hname name hfound
    obtain ⟨_, rest, rfl, ⟨name, hopens, hending⟩⟩ := sequenceName?_eq_some_iff.mp hfound
    have hheader : SequenceHeader _ name.text rest := .intro name hopens hending
    have hline := hending.onLine (hopening _ _ hopens (List.append_assoc _ _ _)) hfeed
    rw [sequences_finds.scan_eq _ _ _ hheader, scan_behind _ hheader.ne_nil hline]
    rfl

/-- Where no name goes over a line end, each line is looked at on its own. -/
theorem scan_sequence_lines {text : Bytes}
    (h : ∀ name ∈ scan sequenceHeader? 0 true text, lineFeed ∉ name) :
    scan sequenceHeader? 0 true text = (pieces text).filterMap sequenceName? := by
  have hname : ∀ name, sequenceName? text = some name → lineFeed ∉ name := by
    intro name hname
    obtain ⟨head, rest, rfl, hheader⟩ := sequenceName?_eq_some_iff.mp hname
    rw [sequences_finds.scan_eq _ _ _ hheader] at h
    exact h name List.mem_cons_self
  rcases firstLine_cases text with ⟨line, hline, htext, -⟩ | ⟨hnone, -, hafter⟩
  · -- the lines behind the first one are fewer
    have hlength : (afterLine text).length < text.length := by
      refine length_afterLine_lt ?_
      rw [htext]
      simp
    have hscan : scan sequenceHeader? 0 true text =
        (sequenceName? line).toList ++ scan sequenceHeader? 0 true (afterLine text) := by
      by_cases hblank : ∀ b ∈ line, isSpace b
      · rw [sequenceName?_blank hblank, htext, scan_blank hline hblank,
          afterLine_append_of_not_mem hline, afterLine, if_pos rfl]
        rfl
      · have hletter : ∃ b ∈ line, ¬ isSpace b := by simpa using hblank
        have hopening : ∀ opening more, OpensSequence opening → text = opening ++ more →
            lineFeed ∉ opening := fun opening more hopens hsplit =>
          hopens.lineFeed_not_mem hline hletter (htext.symm.trans hsplit)
        rw [scan_sequence_head hopening hname]
        rw [htext] at hname ⊢
        rw [sequenceName?_line hline hletter hname, ← htext]
    have hrest := scan_sequence_lines fun name hmem =>
      h name (hscan ▸ List.mem_append_right _ hmem)
    have hpieces : pieces text = line :: pieces (afterLine text) := by
      rw [← pieces_line_append hline, ← htext]
    rw [hscan, hpieces, List.filterMap_cons, hrest]
    cases sequenceName? line <;> rfl
  · have hopening : ∀ opening more, OpensSequence opening → text = opening ++ more →
        lineFeed ∉ opening := by
      rintro opening more - rfl hmem
      exact hnone (List.mem_append_left _ hmem)
    rw [scan_sequence_head hopening hname, hafter, pieces_of_not_mem hnone, scan, List.append_nil,
      List.filterMap_cons]
    cases sequenceName? text <;> rfl
termination_by text.length

/-! ## The sequences of a text -/

/-- No text has the headers of two sequences at its head. The sequences that are listed for a text
are those whose headers are met in it from left to right, each once, where it is first met. If none
of their names has a line feed, they are those of the lines that have a header, and no such line is
missed. -/
theorem sequences_met (ddl : Bytes) :
    (∀ text name name', NamesSequence text name → NamesSequence text name' → name = name') ∧
      (∀ line name, sequenceName? line = some name ↔ NamesSequence line name) ∧
      ∃ met, (∀ names, Meets SequenceHeader [] ddl names ↔ names = met) ∧
        sequences ddl = met.eraseDups.map Identifier.mk ∧
        ((∀ name ∈ met, lineFeed ∉ name) →
          sequences ddl = ((pieces ddl).filterMap sequenceName?).eraseDups.map Identifier.mk ∧
            ∀ line ∈ pieces ddl, ∀ name, NamesSequence line name → ⟨name⟩ ∈ sequences ddl) := by
  refine ⟨fun text name name' hname hname' => ?_, fun _ _ => sequenceName?_eq_some_iff,
    scan sequenceHeader? 0 true ddl, fun names => sequences_finds.meets_iff, rfl, fun hmet => ?_⟩
  · rw [← sequenceName?_eq_some_iff] at hname hname'
    exact Option.some.inj (hname.symm.trans hname')
  · refine ⟨by rw [← scan_sequence_lines hmet]; rfl, fun line hline name hname => ?_⟩
    rw [sequences, mem_names, scan_sequence_lines hmet]
    exact List.mem_filterMap.mpr ⟨line, hline, sequenceName?_eq_some_iff.mpr hname⟩

/-- Blank lines in front of a clause, a header that ends with the line feed in front of the next
one, and one that is repeated. Of the other lines one has a carriage return in place of a name, and
one begins like no header. -/
theorem sequences_met_lines :
    sequences (ofString
        ("CREATE SEQUENCE s.a\nCREATE SEQUENCE \"b c\"\r\n\t\n\n    SEQUENCE NAME s.d\n"
          ++ "SEQUENCE NAME s.a START\nCREATE SEQUENCE \r\nCREATE TEMPORARY SEQUENCE s.e")) =
      [.ofString "s.a", .ofString "\"b c\"", .ofString "s.d"] := by
  obtain ⟨-, -, met, hmet, -, hlines⟩ := sequences_met (ofString
    ("CREATE SEQUENCE s.a\nCREATE SEQUENCE \"b c\"\r\n\t\n\n    SEQUENCE NAME s.d\n"
      ++ "SEQUENCE NAME s.a START\nCREATE SEQUENCE \r\nCREATE TEMPORARY SEQUENCE s.e"))
  have hscan := (hmet _).mp (sequences_finds.meets_iff.mpr rfl)
  rw [(hlines (hscan ▸ by decide +kernel)).1]
  decide +kernel

end MaskedDump.Discovery
