import MaskedDump.Proofs.ExtensionFilter
import MaskedDump.Proofs.Sql.Literal

/-!
# Comments on extensions

The comment on an extension is a statement that ends with a literal, and a literal may go over
several lines. The filter removes the line that begins the statement. Where the comment has a line
feed, the lines behind it are left to be looked at on their own, and they stay unless they happen to
look like announcements themselves. A dump then holds a piece of the comment, with the closing quote
of a literal that was never opened.

Results:
* `text_apply_append`: texts that are put together from whole lines are filtered one by one;
* `apply_comment`: what is left of a comment, and when it is nothing;
* `apply_comment_twoLines`: a comment that is not removed.
-/

namespace MaskedDump.ExtensionFilter

open Bytes

/-! ## Texts put together -/

theorem text_apply {filter : ExtensionFilter}
    (hopenings : ∀ opening ∈ filter.openings, lineFeed ∉ opening) (ddl : Bytes) :
    (filter.apply ddl).text = ((lines ddl).filter (!filter.removes ·)).flatten := by
  rw [← (lines_apply hopenings ddl).1, flatten_lines]

/-- A text behind a closed one is filtered as if it stood alone. -/
theorem text_apply_append {filter : ExtensionFilter}
    (hopenings : ∀ opening ∈ filter.openings, lineFeed ∉ opening) {a : Bytes} (ha : Closed a)
    (b : Bytes) :
    (filter.apply (a ++ b)).text = (filter.apply a).text ++ (filter.apply b).text := by
  rw [text_apply hopenings, text_apply hopenings, text_apply hopenings, lines_append ha,
    List.filter_append, List.flatten_append]

/-- Behind a line that is removed the filter goes on with the next line. -/
theorem text_apply_removed {filter : ExtensionFilter}
    (hopenings : ∀ opening ∈ filter.openings, lineFeed ∉ opening) {text : Bytes}
    (htext : filter.removes (firstLine text) = true) :
    (filter.apply text).text = (filter.apply (afterLine text)).text := by
  cases text with
  | nil => rfl
  | cons b rest =>
    rw [text_apply hopenings, text_apply hopenings, lines_eq_cons (List.cons_ne_nil b rest),
      List.filter_cons_of_neg (by simp [htext])]

/-! ## Comments -/

/-- The statement that comments on an extension, as the export tool prints it. -/
def commentStatement (extension : String) (comment : Bytes) : Bytes :=
  ofString ("COMMENT ON EXTENSION " ++ extension ++ " IS ") ++
    (Sql.quoteLiteral comment ++ ofString ";\n")

/-- The lines of such a statement behind the first one. -/
def commentRest (comment : Bytes) : Bytes := afterLine (Sql.quoteLiteral comment ++ ofString ";\n")

theorem closed_commentRest (comment : Bytes) : Closed (commentRest comment) := by
  have hend : Closed (Sql.quoteLiteral comment ++ ofString ";\n") := by
    rw [closed_append_iff (by decide)]
    decide
  exact closed_afterLine hend

theorem closed_commentStatement (extension : String) (comment : Bytes) :
    Closed (commentStatement extension comment) := by
  rw [commentStatement, ← List.append_assoc, closed_append_iff (by decide)]
  decide

/-- A comment on one line leaves no line behind. -/
theorem commentRest_eq_nil {comment : Bytes} (h : lineFeed ∉ comment) :
    commentRest comment = [] := by
  rw [commentRest, afterLine_append_of_not_mem (Sql.lineFeed_not_mem_quoteLiteral h)]
  rfl

theorem lineFeed_not_mem_commentLead {extension : String} (hname : '\n' ∉ extension.toList) :
    lineFeed ∉ ofString ("COMMENT ON EXTENSION " ++ extension ++ " IS ") :=
  lineFeed_not_mem_ofString (by simp [hname])

/-- The first line of the statement is an announcement. -/
theorem announces_commentStatement {extensions : List String} {extension : String}
    (hextension : extension ∈ extensions) (hname : '\n' ∉ extension.toList) (comment : Bytes) :
    Announces extensions (firstLine (commentStatement extension comment)) := by
  have hlead : "COMMENT ON EXTENSION " ++ extension ++ " IS " =
      "COMMENT ON EXTENSION " ++ extension ++ " " ++ "IS " := by
    have hblank : " IS " = " " ++ "IS " := by decide
    rw [hblank]
    simp only [String.append_assoc]
  refine ⟨extension, hextension, "COMMENT ON EXTENSION " ++ extension ++ " ",
    by simp [announcements], ?_⟩
  rw [commentStatement, firstLine_append_of_not_mem (lineFeed_not_mem_commentLead hname), hlead,
    ofString_append _ "IS ", List.append_assoc]
  exact List.prefix_append _ _

/-- What the filter leaves of the statement is what it leaves of the lines behind the first one. -/
theorem text_apply_commentStatement {extensions : List String}
    (hnames : ∀ extension ∈ extensions, '\n' ∉ extension.toList) {extension : String}
    (hextension : extension ∈ extensions) (comment : Bytes) :
    ((ofExtensions extensions).apply (commentStatement extension comment)).text =
      ((ofExtensions extensions).apply (commentRest comment)).text := by
  have hname := hnames extension hextension
  have hremoved := announces_commentStatement hextension hname comment
  rw [text_apply_removed (lineFeed_not_mem_openings hnames)
    (by rw [removes_ofExtensions, decide_eq_true hremoved]), commentStatement,
    afterLine_append_of_not_mem (lineFeed_not_mem_commentLead hname), commentRest]

/-- A text of whole lines is removed altogether if each of its lines is. -/
theorem text_apply_eq_nil_iff {extensions : List String}
    (hnames : ∀ extension ∈ extensions, '\n' ∉ extension.toList) {text : Bytes}
    (htext : Closed text) :
    ((ofExtensions extensions).apply text).text = [] ↔
      ∀ line ∈ lines text, Announces extensions line := by
  rw [apply_ofExtensions_eq hnames, List.flatten_eq_nil_iff]
  constructor
  · intro h line hline
    refine Classical.byContradiction fun hkept => ?_
    obtain ⟨body, -, hbody⟩ := htext.isLine line hline
    have hnil := h line (List.mem_filter.mpr ⟨hline, decide_eq_true hkept⟩)
    simp [hbody] at hnil
  · intro h line hline
    obtain ⟨hline, hkept⟩ := List.mem_filter.mp hline
    exact absurd (h line hline) (of_decide_eq_true hkept)

/-! ## What is left of a comment -/

/-- Among definitions, a comment on a masking extension leaves what the filter leaves of its lines
behind the first one. It is removed altogether if all these lines are announcements, and so it is if
the comment has no line feed. -/
theorem apply_comment {extension : String} (hextension : extension ∈ maskingExtensions)
    (comment : Bytes) {before : Bytes} (hbefore : Closed before) (behind : Bytes) :
    (masking.apply (before ++ commentStatement extension comment ++ behind)).text =
        (masking.apply before).text ++ (masking.apply (commentRest comment)).text ++
          (masking.apply behind).text ∧
      ((masking.apply (before ++ commentStatement extension comment ++ behind)).text =
          (masking.apply before).text ++ (masking.apply behind).text ↔
        ∀ line ∈ lines (commentRest comment), Announces maskingExtensions line) ∧
      (lineFeed ∉ comment →
        (masking.apply (before ++ commentStatement extension comment ++ behind)).text =
          (masking.apply before).text ++ (masking.apply behind).text) := by
  have hnames : ∀ extension ∈ maskingExtensions, '\n' ∉ extension.toList := by decide
  have hopenings := lineFeed_not_mem_openings hnames
  have hwhole : (masking.apply (before ++ commentStatement extension comment ++ behind)).text =
      (masking.apply before).text ++ (masking.apply (commentRest comment)).text ++
        (masking.apply behind).text := by
    have hclosed := closed_commentStatement extension comment
    rw [masking, text_apply_append hopenings (hbefore.append hclosed),
      text_apply_append hopenings hbefore, text_apply_commentStatement hnames hextension]
  have hrest : (masking.apply (before ++ commentStatement extension comment ++ behind)).text =
      (masking.apply before).text ++ (masking.apply behind).text ↔
      ∀ line ∈ lines (commentRest comment), Announces maskingExtensions line := by
    rw [hwhole, ← text_apply_eq_nil_iff hnames (closed_commentRest comment)]
    simp [masking]
  refine ⟨hwhole, hrest, fun hcomment => hrest.mpr ?_⟩
  rw [commentRest_eq_nil hcomment]
  exact nofun

/-- A comment on one line is removed, with the quotes in it. -/
theorem apply_comment_oneLine :
    ("pgcrypto" ∈ maskingExtensions ∧ Closed (ofString "SET x;\n") ∧
        lineFeed ∉ ofString "it's masked") ∧
      (masking.apply (ofString "SET x;\n" ++ commentStatement "pgcrypto" (ofString "it's masked")
        ++ ofString "CREATE TABLE t (")).text = ofString "SET x;\nCREATE TABLE t (" := by
  have hextension : "pgcrypto" ∈ maskingExtensions := by decide
  have hbefore : Closed (ofString "SET x;\n") := by decide
  have hcomment : lineFeed ∉ ofString "it's masked" := by decide
  obtain ⟨-, -, hwhole⟩ := apply_comment hextension (ofString "it's masked") hbefore
    (ofString "CREATE TABLE t (")
  exact ⟨⟨hextension, hbefore, hcomment⟩, (hwhole hcomment).trans (by decide +kernel)⟩

/-- The second line of a comment stays, and the quote behind it opens a literal that takes in the
statements behind the comment. -/
theorem apply_comment_twoLines :
    (masking.apply (ofString "SET x;\n" ++ commentStatement "anon" (ofString "masking\nengine")
        ++ ofString "CREATE TABLE t ();\n")).text =
        ofString "SET x;\nengine';\nCREATE TABLE t ();\n" ∧
      (masking.apply (ofString "SET x;\n" ++ commentStatement "anon" (ofString "masking\nengine")
        ++ ofString "CREATE TABLE t ();\n")).text ≠
        (masking.apply (ofString "SET x;\n")).text ++
          (masking.apply (ofString "CREATE TABLE t ();\n")).text := by
  exact ⟨by decide +kernel, by decide +kernel⟩

end MaskedDump.ExtensionFilter
