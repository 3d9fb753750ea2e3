import MaskedDump.Proofs.Discovery.Names
import MaskedDump.Proofs.Dump.Content
import MaskedDump.Proofs.ExtensionFilter

/-!
# No mention of the masking extensions

A dump puts texts of four kinds one behind the other: its own lines, definitions that went through
the filter, headers that repeat names from these definitions, and streams of the collaborators. Each
is closed before the next one begins, so no line is made of parts of two of them. A name over
several lines is no exception: its inner lines are lines of the filtered definitions, and its last
one holds a quote, which no opening has.

Results:
* `clean_header`: no line of the header of a table begins as an opening, if no line of the
  definitions that create the table does;
* `Script.write_no_extension_line`: no line that a dump writes, failed or not, begins as the export
  tool announces one of the masking extensions.
-/

namespace MaskedDump

open Bytes Course

variable {σ : Type}

/-- Whether no line of a text announces one of the masking extensions. -/
def NoExtensionLine (bs : Bytes) : Prop :=
  ∀ line ∈ pieces bs, ∀ extension ∈ ["anon", "pgcrypto", "tsm_system_rows"],
    ∀ opening ∈ announcements extension, ¬ ofString opening <+: line

instance : DecidablePred NoExtensionLine := fun bs =>
  inferInstanceAs (Decidable (∀ line ∈ pieces bs,
    ∀ extension ∈ ["anon", "pgcrypto", "tsm_system_rows"],
      ∀ opening ∈ announcements extension, ¬ ofString opening <+: line))

/-- Whether no line of a text begins as one of the openings of the filter. -/
def Clean (bs : Bytes) : Prop :=
  ∀ opening ∈ ExtensionFilter.masking.openings, ¬ BeginsLine opening bs

/-! ## The openings -/

theorem onOneLine_openings : ∀ opening ∈ ExtensionFilter.masking.openings, OnOneLine opening := by
  decide

theorem openings_unlike_header : ∀ opening ∈ ExtensionFilter.masking.openings,
    doubleQuote ∉ opening ∧ Unlike opening (ofString "COPY ") := by
  decide

theorem openings_unlike_banner : ∀ opening ∈ ExtensionFilter.masking.openings,
    ¬ opening <+: ofString "--" ∧
      Unlike opening (ofString "-- Dump generated by PostgreSQL Anonymizer ") := by
  decide

theorem mem_openings {opening : Bytes} :
    opening ∈ ExtensionFilter.masking.openings ↔
      ∃ extension ∈ ["anon", "pgcrypto", "tsm_system_rows"],
        ∃ announcement ∈ announcements extension, ofString announcement = opening :=
  ExtensionFilter.mem_openings_ofExtensions

theorem clean_iff {bs : Bytes} : Clean bs ↔ NoExtensionLine bs := by
  constructor
  · intro h line hline extension hextension announcement hannouncement hbegins
    have hopening := mem_openings.mpr ⟨extension, hextension, announcement, hannouncement, rfl⟩
    refine h _ hopening ?_
    rw [beginsLine_iff_piece (onOneLine_openings _ hopening).2]
    exact ⟨line, hline, hbegins⟩
  · intro h opening hopening hbegins
    rw [beginsLine_iff_piece (onOneLine_openings _ hopening).2] at hbegins
    obtain ⟨line, hline, hbegins⟩ := hbegins
    obtain ⟨extension, hextension, announcement, hannouncement, rfl⟩ := mem_openings.mp hopening
    exact h line hline extension hextension announcement hannouncement hbegins

/-! ## Clean texts -/

theorem clean_nil : Clean [] :=
  fun opening hopening => not_beginsLine_nil (onOneLine_openings opening hopening).1

theorem Clean.mono {a b : Bytes} (hb : Clean b) (hab : a <+: b) : Clean a :=
  fun opening hopening h => hb opening hopening (h.mono hab)

theorem Clean.append {a b : Bytes} (ha : Clean a) (hclosed : Closed a) (hb : Clean b) :
    Clean (a ++ b) := by
  intro opening hopening h
  rcases h.of_append (onOneLine_openings opening hopening).2 hclosed with h | h
  · exact ha opening hopening h
  · exact hb opening hopening h

theorem Clean.concat {a : Bytes} (ha : Clean a) : Clean (a ++ [lineFeed]) :=
  fun opening hopening h =>
    ha opening hopening (h.of_concat (onOneLine_openings opening hopening).2)

theorem clean_apply (ddl : Bytes) : Clean (ExtensionFilter.masking.apply ddl).text :=
  fun _ => ExtensionFilter.not_beginsLine_apply onOneLine_openings ddl

/-! ## The lines of the dump itself -/

/-- No line of the header of a table begins as an opening, if no line of the definitions that create
the table does. -/
theorem clean_header {ddl : Bytes} {table : Identifier} (hddl : Clean ddl)
    (htable : table ∈ Discovery.tables ddl) : Clean (MaskedData.header table) := by
  obtain ⟨before, create, name, after, hname, rfl, hbefore, -⟩ := Discovery.mem_tables htable
  intro opening hopening h
  have hline := (onOneLine_openings opening hopening).2
  obtain ⟨hquote, hcopy⟩ := openings_unlike_header opening hopening
  have hheader : MaskedData.header table =
      ofString "COPY " ++ table.bytes ++ ofString " FROM STDIN WITH CSV;" ++ [lineFeed] := by
    rw [MaskedData.header, List.append_assoc _ _ [lineFeed]]
    rfl
  rw [hheader, hname] at h
  -- the line that begins with COPY, or one that begins inside the name
  rcases (h.of_concat hline).of_middle (by decide) (by decide) with h | ⟨lead, rest, hsplit, h⟩
  · rw [List.append_assoc] at h
    exact hcopy.not_begins (List.prefix_append _ _) h
  · rw [hsplit] at hddl
    have hmem : doubleQuote ∈ rest := Discovery.quote_mem_of_name hsplit
    obtain ⟨inside, behind, hrest⟩ := List.append_of_mem hmem
    rw [hrest, List.append_assoc, List.cons_append] at h
    -- an opening has no quote, so it ends before the last one of the name
    have hinside : opening <+: inside := prefix_of_not_mem hquote h
    refine hddl opening hopening ⟨before ++ create ++ lead ++ [lineFeed], rest ++ after, ?_, ?_, ?_⟩
    · simp
    · exact closed_concat
    · rw [hrest, List.append_assoc]
      exact hinside.trans (List.prefix_append _ _)

theorem clean_banner {version : String} (hversion : '\n' ∉ version.toList) :
    Clean (Script.banner version) := by
  intro opening hopening h
  have hline := (onOneLine_openings opening hopening).2
  obtain ⟨hrule, htitleUnlike⟩ := openings_unlike_banner opening hopening
  have htitle : lineFeed ∉
      ofString "-- Dump generated by PostgreSQL Anonymizer " ++ ofString version := by
    rw [List.mem_append, not_or]
    exact ⟨by decide, lineFeed_not_mem_ofString hversion⟩
  have hbanner : Script.banner version =
      ofString "--" ++ lineFeed ::
        (ofString "-- Dump generated by PostgreSQL Anonymizer " ++ ofString version ++ lineFeed ::
          (ofString "--" ++ [lineFeed])) := by
    have hfirst : ofString "--\n-- Dump generated by PostgreSQL Anonymizer " =
        ofString "--" ++ lineFeed :: ofString "-- Dump generated by PostgreSQL Anonymizer " := by
      decide
    have hlast : ofString "\n--\n" = lineFeed :: (ofString "--" ++ [lineFeed]) := by decide
    rw [Script.banner_eq, ofString_append, ofString_append, hfirst, hlast, List.append_assoc,
      List.append_assoc, List.append_assoc]
    rfl
  rw [hbanner, beginsLine_line_append hline (by decide), beginsLine_line_append hline htitle] at h
  rcases h with h | h | h
  · exact hrule h
  · exact htitleUnlike.not_begins (List.prefix_append _ _) h
  · exact hrule ((beginsLine_of_not_mem (by decide)).mp (h.of_concat hline))

theorem closed_banner (version : String) : Closed (Script.banner version) := by
  rw [Script.banner, ofString_append]
  refine .inr ?_
  rw [List.getLast?_append]
  rfl

theorem clean_terminator : Clean MaskedData.terminator := clean_iff.mpr (by decide)

theorem closed_header (table : Identifier) : Closed (MaskedData.header table) :=
  .inr (by rw [MaskedData.header, List.getLast?_append]; rfl)

theorem closed_terminator : Closed MaskedData.terminator := by decide

/-! ## Streams -/

/-- Whether everything that was streamed is free of extension lines, and closed if the stream came
to its end. -/
def TidyStreams (exchanges : List Exchange) : Prop :=
  ∀ d ∈ exchanges.filterMap Exchange.delivery?,
    (d.ending = .ok () → Closed d.bytes) ∧ NoExtensionLine d.bytes

theorem tidyStreams_append {a b : List Exchange} :
    TidyStreams (a ++ b) ↔ TidyStreams a ∧ TidyStreams b := by
  rw [TidyStreams, List.filterMap_append, List.forall_mem_append]
  rfl

/-- Whether what some work wrote is clean, and closed if the work did not fail. -/
structure Course.Tidy {α : Type} (c : Course α) : Prop where
  clean : Clean c.written
  closed : ∀ a, c.result = .ok a → Closed c.written

theorem Course.Streamed.tidy {exchange : Delivery → Exchange} {causes : List Cause}
    {c : Course Nat} (h : Streamed exchange causes c)
    (hexchange : ∀ d, (exchange d).delivery? = some d) (hstreams : TidyStreams c.exchanges) :
    c.Tidy := by
  have hmem : ∀ {d}, d ∈ [exchange d].filterMap Exchange.delivery? := by
    intro d
    rw [List.filterMap_cons_some (hexchange d)]
    exact List.mem_cons_self
  cases h with
  | whole hended =>
    obtain ⟨hclosed, hclean⟩ := hstreams _ hmem
    exact ⟨clean_iff.mpr hclean, fun _ _ => hclosed hended⟩
  | failed =>
    obtain ⟨-, hclean⟩ := hstreams _ hmem
    exact ⟨clean_iff.mpr hclean, nofun⟩
  | cut hpart =>
    obtain ⟨-, hclean⟩ := hstreams _ hmem
    exact ⟨(clean_iff.mpr hclean).mono hpart, nofun⟩

/-- Work in two parts writes clean text if both parts do and the first one is closed when the second
one begins. -/
theorem Course.Seq.clean {α β : Type} {P : Course α → Prop} {Q : α → Course β → Prop}
    {c : Course β} (h : Seq P Q c) (hstreams : TidyStreams c.exchanges)
    (hP : ∀ c, P c → TidyStreams c.exchanges → c.Tidy)
    (hQ : ∀ a c, Q a c → TidyStreams c.exchanges → Clean c.written) : Clean c.written := by
  cases h with
  | stopped hp => exact (hP _ hp hstreams).clean
  | resumed hp hq =>
    obtain ⟨hfirst, hsecond⟩ := tidyStreams_append.mp hstreams
    have htidy := hP _ hp hfirst
    exact htidy.clean.append (htidy.closed _ rfl) (hQ _ _ hq hsecond)

/-! ## The data phase -/

namespace MaskedData

theorem Block.tidy {b : Block} (hheader : Clean (header b.table)) (hended : b.Ended)
    (hstreams : TidyStreams b.exchanges) : Clean b.text ∧ Closed b.text := by
  obtain ⟨hclosed, hclean⟩ := hstreams b.rows List.mem_cons_self
  have hrows : Closed (header b.table ++ b.rows.bytes) :=
    (closed_header _).append (hclosed hended)
  refine ⟨?_, hrows.append closed_terminator⟩
  exact (hheader.append (closed_header _) (clean_iff.mpr hclean)).append hrows clean_terminator

theorem tidy_blocks {blocks : List Block}
    (hheader : ∀ table ∈ blocks.map Block.table, Clean (header table))
    (hended : ∀ b ∈ blocks, b.Ended) (hstreams : TidyStreams (blocks.flatMap Block.exchanges)) :
    Clean (blocks.flatMap Block.text) ∧ Closed (blocks.flatMap Block.text) := by
  induction blocks with
  | nil => exact ⟨clean_nil, closed_nil⟩
  | cons b rest ih =>
    rw [List.flatMap_cons, tidyStreams_append] at hstreams
    obtain ⟨hb, hrest⟩ := List.forall_mem_cons.mp hheader
    obtain ⟨hbEnded, hrestEnded⟩ := List.forall_mem_cons.mp hended
    obtain ⟨hclean, hclosed⟩ := Block.tidy hb hbEnded hstreams.1
    obtain ⟨hrestClean, hrestClosed⟩ := ih hrest hrestEnded hstreams.2
    rw [List.flatMap_cons]
    exact ⟨hclean.append hclosed hrestClean, hclosed.append hrestClosed⟩

theorem TableCourse.clean {table : Identifier} {c : Course Nat} (hheader : Clean (header table))
    (h : TableCourse table c) (hstreams : TidyStreams c.exchanges) : Clean c.written := by
  cases h with
  | unmasked => exact clean_nil
  | headerCut hpart => exact hheader.mono hpart
  | rowsBroken hb hrows =>
    subst hb
    have hbehind := (tidyStreams_append (a := [_])).mp hstreams
    exact hheader.append (closed_header _) (hrows.tidy (fun _ => rfl) hbehind.2).clean
  | terminatorCut hb hended hpart =>
    subst hb
    refine (Block.tidy hheader hended hstreams).1.mono ?_
    exact (List.prefix_append_right_inj _).mpr hpart
  | whole hb hended =>
    subst hb
    exact (Block.tidy hheader hended hstreams).1

theorem PhaseCourse.tidy {α : Type} {read : Nat → α} {tables : List Identifier} {c : Course α}
    (hheader : ∀ table ∈ tables, Clean (header table)) (h : PhaseCourse read tables c)
    (hstreams : TidyStreams c.exchanges) : c.Tidy := by
  cases h with
  | whole _ htables hended =>
    subst htables
    obtain ⟨hclean, hclosed⟩ := tidy_blocks hheader hended hstreams
    exact ⟨hclean, fun _ _ => hclosed⟩
  | broken _ htables hended hbroken =>
    subst htables
    obtain ⟨hblocks, hrest⟩ := List.forall_mem_append.mp hheader
    obtain ⟨hstreams, hlast⟩ := tidyStreams_append.mp hstreams
    obtain ⟨hclean, hclosed⟩ := tidy_blocks hblocks hended hstreams
    refine ⟨hclean.append hclosed ?_, nofun⟩
    exact hbroken.clean (hrest _ List.mem_cons_self) hlast

end MaskedData

/-! ## The rest of the dump -/

theorem SequenceState.DumpCourse.tidy {options : ExportOptions}
    {excluded declared : List Identifier} {c : Course Nat}
    (h : DumpCourse options excluded declared c) (hstreams : TidyStreams c.exchanges) :
    c.Tidy := by
  cases h with
  | unlisted => exact ⟨clean_nil, nofun⟩
  | none => exact ⟨clean_nil, fun _ _ => closed_nil⟩
  | broken _ _ htext =>
    have hbehind := (tidyStreams_append (a := [_])).mp hstreams
    exact ⟨(htext.tidy (fun _ => rfl) hbehind.2).clean, nofun⟩
  | @whole _ text _ _ _ hended =>
    obtain ⟨hclosed, hclean⟩ := hstreams text List.mem_cons_self
    exact ⟨clean_iff.mpr hclean, fun _ _ => hclosed hended⟩

namespace Script

theorem PostDataCourse.clean {options : ExportOptions} {excluded : List Identifier}
    {c : Course Unit} (h : PostDataCourse options excluded ExtensionFilter.masking c) :
    Clean c.written := by
  cases h with
  | unexported => exact clean_nil
  | cut hpart => exact (clean_apply _).mono hpart
  | whole => exact clean_apply _

theorem TailCourse.clean {options : ExportOptions} {version : String} {excluded : List Identifier}
    {preData : PreData} {c : Course Summary}
    (hheader : ∀ table ∈ preData.dataTables, Clean (MaskedData.header table))
    (h : TailCourse options version excluded preData c) (hstreams : TidyStreams c.exchanges) :
    Clean c.written := by
  refine Seq.clean h hstreams (fun _ hdata => hdata.tidy hheader) fun _ _ h hstreams => ?_
  refine h.clean hstreams (fun _ hsequences => hsequences.tidy) fun _ _ h _ => ?_
  cases h with
  | stopped hpostData => exact hpostData.clean
  | resumed hpostData hend =>
    subst hend
    show Clean (_ ++ [])
    rw [List.append_nil]
    exact hpostData.clean

/-- What is written of a dump is clean. The data phase begins behind the closed definitions, and the
tables in it are created by them. -/
theorem DumpCourse.clean {options : ExportOptions} {version : String} {c : Course Summary}
    (hversion : '\n' ∉ version.toList) (h : DumpCourse options version c)
    (hstreams : TidyStreams c.exchanges) : Clean c.written := by
  have hhead : ∀ raw,
      Clean (banner version ++ (ExtensionFilter.masking.apply raw).text ++ [lineFeed]) :=
    fun raw => ((clean_banner hversion).append (closed_banner version) (clean_apply raw)).concat
  rcases h.head_or_tail with ⟨-, -, raw, hwritten⟩ |
    ⟨before, reply, preData, tail, hleads, htail, rfl⟩
  · exact (hhead raw).mono hwritten
  · obtain ⟨raw, second, -, -, rfl⟩ := hleads.exports
    refine (hhead raw).append closed_concat (htail.clean ?_ (tidyStreams_append.mp hstreams).2)
    intro table htable
    rw [PreData.dataTables_ofExports] at htable
    exact clean_header (clean_apply raw) (List.mem_filter.mp htable).1

/-- The lines that a dump writes, failed or not, to whatever sink: none of them announces a masking
extension, provided that the version is one line, and that what the collaborators stream has no such
line and is closed whenever a stream comes to its end. -/
theorem write_no_extension_line (c : Collaborators σ) (options : ExportOptions) (version : String)
    (w : World σ) (hversion : '\n' ∉ version.toList)
    (hstreams : ∀ d ∈ ((write c options version w).2.exchanges.drop w.exchanges.length).filterMap
        Exchange.delivery?,
      (d.ending = .ok () → Closed d.bytes) ∧ NoExtensionLine d.bytes) :
    ∃ written, (write c options version w).2.sink.content = w.sink.content ++ written ∧
      NoExtensionLine written := by
  obtain ⟨course, hcourse, -, hexchanges, hcontent⟩ := write_follows c options version w
  rw [hexchanges, List.drop_left] at hstreams
  exact ⟨course.written, hcontent, clean_iff.mp (hcourse.clean hversion hstreams)⟩

theorem write_no_extension_line_sample :
    '\n' ∉ "1.0".toList ∧
      ∃ written,
        (write Rehearsal.Rules.responder.amongTools sampleArguments.configuration.exporting "1.0"
            sampleStart).2.sink.content = [] ++ written ∧
          NoExtensionLine written := by
  have hversion : '\n' ∉ "1.0".toList := by decide
  have hstreams : ∀ d ∈ ((write Rehearsal.Rules.responder.amongTools
      sampleArguments.configuration.exporting "1.0" sampleStart).2.exchanges.drop 0).filterMap
        Exchange.delivery?,
      (d.ending = .ok () → Closed d.bytes) ∧ NoExtensionLine d.bytes := by decide +kernel
  exact ⟨hversion, write_no_extension_line _ _ _ _ hversion hstreams⟩

end Script

end MaskedDump
