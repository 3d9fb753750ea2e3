import MaskedDump.ExtensionFilter
import MaskedDump.Proofs.Lines

/-!
# Filtered definitions

A pass removes whole lines and joins the others, so it makes no line that was not there before. The
passes together are therefore one look at each line: it stays if it begins as none of the openings.
What order the passes have, and whether one is made twice, does not matter.

Results:
* `lines_strike`: what one pass leaves of the lines;
* `lines_apply`: what all passes leave of them, for openings without a line feed;
* `not_beginsLine_apply`: no line of a filtered text begins as one of the openings;
* `apply_ofExtensions`: the filter for some extensions removes the lines that announce one of them,
  and does nothing else.
-/

namespace MaskedDump

open Bytes

/-- How the export tool begins the lines that announce an extension and the comment on it. -/
def announcements (extension : String) : List String :=
  ["-- Name: " ++ extension ++ "; Type: EXTENSION;",
    "CREATE EXTENSION IF NOT EXISTS " ++ extension ++ " ",
    "-- Name: EXTENSION " ++ extension ++ "; Type: COMMENT;",
    "COMMENT ON EXTENSION " ++ extension ++ " "]

namespace ExtensionFilter

/-! ## Passes -/

/-- What a pass leaves of the lines of a text, and whether it removes one. -/
theorem lines_strike {opening : Bytes} (hopening : lineFeed ∉ opening) (text : Bytes) :
    lines (strike opening text).text = (lines text).filter (!opening.isPrefixOf ·) ∧
      (strike opening text).changed = (lines text).any opening.isPrefixOf := by
  fun_induction strike opening text with
  | case1 => exact ⟨rfl, rfl⟩
  | case2 b rest tail htail ih =>
    have htext : b :: rest = opening ++ tail := after?_eq_some_iff.mp htail
    have hbegins : opening.isPrefixOf (firstLine (b :: rest)) = true := by
      rw [htext, firstLine_append_of_not_mem hopening, List.isPrefixOf_iff_prefix]
      exact List.prefix_append _ _
    rw [lines_eq_cons (List.cons_ne_nil b rest), List.filter_cons_of_neg (by simp [hbegins]),
      List.any_cons, hbegins, Bool.true_or, htext, afterLine_append_of_not_mem hopening]
    exact ⟨ih.1, rfl⟩
  | case3 b rest hnone kept ih =>
    have hbegins : opening.isPrefixOf (firstLine (b :: rest)) = false := by
      rw [Bool.eq_false_iff, ne_eq, List.isPrefixOf_iff_prefix]
      intro hfirst
      have htext := hfirst.trans ⟨_, firstLine_append_afterLine (b :: rest)⟩
      obtain ⟨tail, htail⟩ := htext
      rw [after?_eq_some_iff.mpr htail.symm] at hnone
      nomatch hnone
    have hkept : afterLine (b :: rest) = [] → kept.text = [] := by
      intro hafter
      simp only [kept, hafter, strike]
    rw [lines_firstLine_append (List.cons_ne_nil b rest) hkept,
      lines_eq_cons (List.cons_ne_nil b rest), List.filter_cons_of_pos (by simp [hbegins]),
      List.any_cons, hbegins, Bool.false_or, ih.1]
    exact ⟨rfl, ih.2⟩

/-- A text after one more pass. -/
def Filtered.pass (sofar : Filtered) (opening : Bytes) : Filtered :=
  ⟨(strike opening sofar.text).text, sofar.changed || (strike opening sofar.text).changed⟩

/-- The passes one after the other, by induction over them: each one looks at the lines that those
before it have left. -/
theorem lines_passes {openings : List Bytes} (hopenings : ∀ opening ∈ openings, lineFeed ∉ opening)
    (sofar : Filtered) :
    lines (openings.foldl Filtered.pass sofar).text =
        (lines sofar.text).filter (fun line => !openings.any (·.isPrefixOf line)) ∧
      (openings.foldl Filtered.pass sofar).changed =
        (sofar.changed || (lines sofar.text).any fun line => openings.any (·.isPrefixOf line)) := by
  induction openings generalizing sofar with
  | nil => exact ⟨(List.filter_eq_self.mpr fun _ _ => rfl).symm, by simp⟩
  | cons opening rest ih =>
    obtain ⟨hopening, hrest⟩ := List.forall_mem_cons.mp hopenings
    obtain ⟨hlines, hchanged⟩ := lines_strike hopening sofar.text
    obtain ⟨hlinesRest, hchangedRest⟩ := ih hrest (sofar.pass opening)
    rw [List.foldl_cons, hlinesRest, hchangedRest, Filtered.pass, hlines, hchanged]
    refine ⟨?_, ?_⟩
    · rw [List.filter_filter]
      refine List.filter_congr fun line _ => ?_
      rw [List.any_cons, Bool.not_or, Bool.and_comm]
    · -- a line that is still there behind the first pass was not removed by it
      rw [List.any_filter, Bool.or_assoc]
      congr 1
      rw [Bool.eq_iff_iff]
      simp only [Bool.or_eq_true, List.any_eq_true, Bool.and_eq_true, List.any_cons]
      grind

/-! ## The filter -/

/-- Whether a filter removes a line. -/
def removes (filter : ExtensionFilter) (line : Bytes) : Bool :=
  filter.openings.any (·.isPrefixOf line)

/-- All passes together look at each line once: it goes if it begins as one of the openings. -/
theorem lines_apply {filter : ExtensionFilter}
    (hopenings : ∀ opening ∈ filter.openings, lineFeed ∉ opening) (ddl : Bytes) :
    lines (filter.apply ddl).text = (lines ddl).filter (!filter.removes ·) ∧
      (filter.apply ddl).changed = (lines ddl).any filter.removes :=
  lines_passes hopenings ⟨ddl, false⟩

/-- No line of a filtered text begins as one of the openings. -/
theorem not_beginsLine_apply {filter : ExtensionFilter}
    (hopenings : ∀ opening ∈ filter.openings, OnOneLine opening) (ddl : Bytes) {opening : Bytes}
    (hmem : opening ∈ filter.openings) : ¬ BeginsLine opening (filter.apply ddl).text := by
  rw [beginsLine_iff_line (hopenings opening hmem),
    (lines_apply (fun opening h => (hopenings opening h).2) ddl).1]
  rintro ⟨line, hline, hbegins⟩
  have hkept : filter.removes line = false := by simpa using (List.mem_filter.mp hline).2
  exact Bool.eq_false_iff.mp hkept
    (List.any_eq_true.mpr ⟨opening, hmem, List.isPrefixOf_iff_prefix.mpr hbegins⟩)

/-! ## The filter for some extensions -/

/-- Whether a line announces one of some extensions, or the comment on it. -/
def Announces (extensions : List String) (line : Bytes) : Prop :=
  ∃ extension ∈ extensions, ∃ opening ∈ announcements extension, ofString opening <+: line

instance (extensions : List String) : DecidablePred (Announces extensions) := fun line =>
  inferInstanceAs (Decidable (∃ extension ∈ extensions,
    ∃ opening ∈ announcements extension, ofString opening <+: line))

theorem openingsOf_eq (extension : String) :
    openingsOf extension = (announcements extension).map ofString := rfl

theorem mem_openings_ofExtensions {extensions : List String} {opening : Bytes} :
    opening ∈ (ofExtensions extensions).openings ↔
      ∃ extension ∈ extensions, ∃ announcement ∈ announcements extension,
        ofString announcement = opening := by
  simp only [ofExtensions, List.mem_flatMap, openingsOf_eq, List.mem_map]

theorem removes_ofExtensions (extensions : List String) (line : Bytes) :
    (ofExtensions extensions).removes line = decide (Announces extensions line) := by
  rw [Bool.eq_iff_iff, decide_eq_true_iff]
  simp only [removes, List.any_eq_true, mem_openings_ofExtensions, List.isPrefixOf_iff_prefix]
  constructor
  · rintro ⟨_, ⟨extension, hextension, announcement, hannouncement, rfl⟩, hbegins⟩
    exact ⟨extension, hextension, announcement, hannouncement, hbegins⟩
  · rintro ⟨extension, hextension, announcement, hannouncement, hbegins⟩
    exact ⟨_, ⟨extension, hextension, announcement, hannouncement, rfl⟩, hbegins⟩

theorem lineFeed_not_mem_openings {extensions : List String}
    (hnames : ∀ extension ∈ extensions, '\n' ∉ extension.toList) :
    ∀ opening ∈ (ofExtensions extensions).openings, lineFeed ∉ opening := by
  intro opening hopening
  obtain ⟨extension, hextension, announcement, hannouncement, rfl⟩ :=
    mem_openings_ofExtensions.mp hopening
  have hname := hnames extension hextension
  refine lineFeed_not_mem_ofString ?_
  simp only [announcements, List.mem_cons, List.not_mem_nil, or_false] at hannouncement
  rcases hannouncement with rfl | rfl | rfl | rfl <;> simp [hname]

theorem lines_apply_ofExtensions {extensions : List String}
    (hnames : ∀ extension ∈ extensions, '\n' ∉ extension.toList) (ddl : Bytes) :
    lines ((ofExtensions extensions).apply ddl).text =
      (lines ddl).filter (¬ Announces extensions ·) := by
  rw [(lines_apply (lineFeed_not_mem_openings hnames) ddl).1]
  refine List.filter_congr fun line _ => ?_
  rw [removes_ofExtensions, decide_not]

theorem apply_ofExtensions_eq {extensions : List String}
    (hnames : ∀ extension ∈ extensions, '\n' ∉ extension.toList) (ddl : Bytes) :
    (ofExtensions extensions).apply ddl =
      ⟨((lines ddl).filter (¬ Announces extensions ·)).flatten,
        decide (∃ line ∈ lines ddl, Announces extensions line)⟩ := by
  have hchanged : ((ofExtensions extensions).apply ddl).changed =
      decide (∃ line ∈ lines ddl, Announces extensions line) := by
    rw [(lines_apply (lineFeed_not_mem_openings hnames) ddl).2, Bool.eq_iff_iff,
      decide_eq_true_iff]
    simp only [List.any_eq_true, removes_ofExtensions, decide_eq_true_iff]
  rw [← lines_apply_ofExtensions hnames, flatten_lines, ← hchanged]

/-- The filter for some extensions removes the lines that announce one of them, and keeps all others
as they are. It says that it changed the text if there is such a line. So it does not matter in what
order the extensions are named, or whether one is named twice, and a filtered text is not changed
again. -/
theorem apply_ofExtensions {extensions : List String}
    (hnames : ∀ extension ∈ extensions, '\n' ∉ extension.toList) (ddl : Bytes) :
    ((ofExtensions extensions).apply ddl).text =
        ((lines ddl).filter (¬ Announces extensions ·)).flatten ∧
      (((ofExtensions extensions).apply ddl).changed = true ↔
        ∃ line ∈ lines ddl, Announces extensions line) ∧
      (∀ others : List String, (∀ extension, extension ∈ others ↔ extension ∈ extensions) →
        (ofExtensions others).apply ddl = (ofExtensions extensions).apply ddl) ∧
      (ofExtensions extensions).apply ((ofExtensions extensions).apply ddl).text =
        ⟨((ofExtensions extensions).apply ddl).text, false⟩ := by
  refine ⟨?_, ?_, fun others hothers => ?_, ?_⟩
  · rw [apply_ofExtensions_eq hnames]
  · rw [apply_ofExtensions_eq hnames, decide_eq_true_iff]
  · have hannounces : ∀ line, Announces others line ↔ Announces extensions line := by
      simp only [Announces, hothers, implies_true]
    have hnamesOthers : ∀ extension ∈ others, '\n' ∉ extension.toList :=
      fun extension h => hnames extension ((hothers extension).mp h)
    rw [apply_ofExtensions_eq hnames, apply_ofExtensions_eq hnamesOthers]
    simp only [hannounces]
  · -- every line that is left announces nothing
    have hleft : ∀ line ∈ lines ((ofExtensions extensions).apply ddl).text,
        ¬ Announces extensions line := by
      intro line hline
      rw [lines_apply_ofExtensions hnames] at hline
      simpa using (List.mem_filter.mp hline).2
    have hnone : ¬ ∃ line ∈ lines ((ofExtensions extensions).apply ddl).text,
        Announces extensions line :=
      fun ⟨line, hline, hannounces⟩ => hleft line hline hannounces
    rw [apply_ofExtensions_eq hnames ((ofExtensions extensions).apply ddl).text,
      List.filter_eq_self.mpr fun line hline => decide_eq_true (hleft line hline), flatten_lines,
      decide_eq_false hnone]

/-- One extension's name begins with another's, and one has a dot. What looks like a pattern for it
stays, and so does what does not begin a line. -/
theorem apply_ofExtensions_dotted :
    (∀ extension ∈ ["a.b", "a"], '\n' ∉ extension.toList) ∧
      ((ofExtensions ["a.b", "a"]).apply (ofString
        ("-- Name: a.b; Type: EXTENSION; Schema: -\nCREATE EXTENSION IF NOT EXISTS aXb WITH\n"
          ++ "  COMMENT ON EXTENSION a IS 1;\nCOMMENT ON EXTENSION a IS 2;"))).text =
        ofString
          "CREATE EXTENSION IF NOT EXISTS aXb WITH\n  COMMENT ON EXTENSION a IS 1;\n" := by
  have hnames : ∀ extension ∈ ["a.b", "a"], '\n' ∉ extension.toList := by decide
  exact ⟨hnames, (apply_ofExtensions hnames _).1.trans (by decide +kernel)⟩

end ExtensionFilter

end MaskedDump
