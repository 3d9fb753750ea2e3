import MaskedDump.Proofs.Dump.Phases
import MaskedDump.Proofs.Lines

/-!
# No rows from exports

The export tool is called for sections of the definitions and for the values of sequences. A call
for a section leaves out the masking rules and the schemas that hold masked copies. A call for
values names sequences that the catalog listed, and nothing else in its arguments could name a
table: of the patterns of the user, only those that leave out data are among them.

Results:
* `Section.sectionCall`: the arguments of every section leave out masking rules and masking schemas;
* `SequenceState.sequenceCall`: the arguments for some sequences name these and no other table;
* `Script.write_exports_no_rows`: in every dump, every call of the export tool is one of the two.
-/

namespace MaskedDump

open Course

variable {σ : Type}

/-- Arguments that export definitions alone, without masking rules, without the schema of the
masking extension and without that of the masking views, which a reply tells. -/
structure SectionCall (reply : Bytes) (args : List Bytes) : Prop where
  definitions : args.head? = some (Bytes.ofString "--section=pre-data") ∨
    args.head? = some (Bytes.ofString "--section=post-data")
  unlabeled : Bytes.ofString "--no-security-labels" ∈ args
  withoutEngine : Bytes.ofString "--exclude-schema=anon" ∈ args
  withoutViews : Bytes.trim reply ≠ [] →
    Bytes.ofString "--exclude-schema=" ++ Bytes.trim reply ∈ args

/-- Arguments that export the values of some listed sequences alone. When the user restricts the
objects of the dump, these sequences are created by the definitions. -/
structure SequenceCall (a : Arguments) (ddl listing : Bytes) (args : List Bytes) : Prop where
  data : args.head? = some (Bytes.ofString "--data-only")
  named : ∃ arg ∈ args, Bytes.ofString "--table=" <+: arg
  listed : ∀ arg ∈ args, Bytes.ofString "--table" <+: arg →
    ∃ line ∈ Bytes.pieces listing, Bytes.trim line ≠ [] ∧
      arg = Bytes.ofString "--table=" ++ Bytes.trim line ∧
      (a.schemas ≠ [] ∨ a.excludeSchemas ≠ [] ∨ a.tables ≠ [] ∨ a.excludeTables ≠ [] →
        ⟨Bytes.trim line⟩ ∈ Discovery.sequences ddl)
  unfiltered : ∀ arg ∈ args, ¬ Bytes.ofString "--schema" <+: arg ∧
    ¬ Bytes.ofString "--exclude-schema" <+: arg ∧ ¬ Bytes.ofString "--exclude-table=" <+: arg

/-! ## Sections -/

theorem flagArgument_eq (flag : String) (value : Bytes) :
    flagArgument flag value = Bytes.ofString (flag ++ "=") ++ value := by
  rw [flagArgument, Bytes.ofString_append, List.append_assoc]
  rfl

theorem Section.sectionCall (sect : Section) (reply : Bytes) (options : List String) :
    SectionCall reply (sect.args (Catalog.excludedOfReply reply) options) := by
  have hexcluded : ∀ schema ∈ Catalog.excludedOfReply reply,
      flagArgument "--exclude-schema" schema.bytes ∈
        sect.args (Catalog.excludedOfReply reply) options := by
    intro schema hschema
    refine List.mem_append_left _ (List.mem_append_right _ ?_)
    exact List.mem_map_of_mem hschema
  constructor
  · cases sect
    · exact .inl (by rfl)
    · exact .inr (by rfl)
  · exact List.mem_append_left _ (List.mem_append_left _ (by simp))
  · exact hexcluded Catalog.anonSchema List.mem_cons_self
  · intro hreply
    have hmask : ⟨Bytes.trim reply⟩ ∈ Catalog.excludedOfReply reply := by
      by_cases hanon : (⟨Bytes.trim reply⟩ : Identifier) = Catalog.anonSchema
      · rw [hanon]
        exact List.mem_cons_self
      · refine List.mem_cons_of_mem _ ?_
        simp [Catalog.maskOfReply, hreply, hanon]
    exact hexcluded _ hmask

/-! ## Sequence values -/

namespace SequenceState

/-- How the options that go with the values of sequences begin. -/
def optionFlags : List String :=
  ["--dbname=", "--host=", "--port=", "--username=", "--no-password", "--password", "--encoding=",
    "--exclude-table-data="]

/-- Each option begins with its flag, whatever the value. -/
theorem optionFlag_of_mem {a : Arguments} {arg : String}
    (h : arg ∈ a.configuration.exporting.sequenceArgs) :
    ∃ flag ∈ optionFlags, Bytes.ofString flag <+: Bytes.ofString arg := by
  have hbegins : ∀ flag value : String, Bytes.ofString flag <+: Bytes.ofString (flag ++ value) := by
    intro flag value
    rw [Bytes.ofString_append]
    exact List.prefix_append _ _
  simp only [ExportOptions.sequenceArgs, ExportOptions.baseArgs, Arguments.configuration,
    Arguments.connection, List.mem_append, Option.mem_toList, Option.map_eq_some_iff,
    List.mem_map, List.mem_ite_nil_right, List.mem_singleton] at h
  rcases h with ((((((⟨v, -, rfl⟩ | ⟨v, -, rfl⟩) | ⟨v, -, rfl⟩) | ⟨v, -, rfl⟩) | ⟨-, rfl⟩) |
    ⟨-, rfl⟩) | ⟨v, -, rfl⟩) | ⟨v, -, rfl⟩
  · exact ⟨"--dbname=", by simp [optionFlags], hbegins _ v⟩
  · exact ⟨"--host=", by simp [optionFlags], hbegins _ v⟩
  · exact ⟨"--port=", by simp [optionFlags], hbegins _ v⟩
  · exact ⟨"--username=", by simp [optionFlags], hbegins _ v⟩
  · exact ⟨"--no-password", by simp [optionFlags], List.prefix_rfl⟩
  · exact ⟨"--password", by simp [optionFlags], List.prefix_rfl⟩
  · exact ⟨"--encoding=", by simp [optionFlags], hbegins _ v⟩
  · exact ⟨"--exclude-table-data=", by simp [optionFlags], hbegins _ v⟩

/-- No option begins as none of the flags does, whatever the values. -/
theorem not_prefix_of_mem {a : Arguments} {arg : String} {opening : Bytes}
    (hopening : ∀ flag ∈ optionFlags, Bytes.Unlike opening (Bytes.ofString flag))
    (h : arg ∈ a.configuration.exporting.sequenceArgs) : ¬ opening <+: Bytes.ofString arg := by
  obtain ⟨flag, hflag, hbegins⟩ := optionFlag_of_mem h
  exact (hopening flag hflag).not_begins hbegins

/-- The arguments that begin as an opening unlike all option flags are found before the options. -/
theorem mem_args_of_prefix {a : Arguments} {sequences : List Identifier} {arg opening : Bytes}
    (hopening : ∀ flag ∈ optionFlags, Bytes.Unlike opening (Bytes.ofString flag))
    (h : arg ∈ args a.configuration.exporting sequences) (hbegins : opening <+: arg) :
    arg = Bytes.ofString "--data-only" ∨
      ∃ s ∈ sequences, arg = Bytes.ofString "--table=" ++ s.bytes := by
  rcases List.mem_append.mp h with h | h
  · rcases List.mem_cons.mp h with h | h
    · exact .inl h
    · obtain ⟨s, hs, rfl⟩ := List.mem_map.mp h
      exact .inr ⟨s, hs, flagArgument_eq _ _⟩
  · obtain ⟨option, hoption, rfl⟩ := List.mem_map.mp h
    exact absurd hbegins (not_prefix_of_mem hopening hoption)

/-- Nothing in the arguments begins with an opening unlike all flags that are there. -/
theorem not_prefix_of_mem_args {a : Arguments} {sequences : List Identifier} {arg opening : Bytes}
    (hopening : ∀ flag ∈ optionFlags, Bytes.Unlike opening (Bytes.ofString flag))
    (hdata : ¬ opening <+: Bytes.ofString "--data-only")
    (htable : Bytes.Unlike opening (Bytes.ofString "--table="))
    (h : arg ∈ args a.configuration.exporting sequences) : ¬ opening <+: arg := by
  intro hbegins
  rcases mem_args_of_prefix hopening h hbegins with rfl | ⟨s, -, rfl⟩
  · exact hdata hbegins
  · exact htable.not_begins (List.prefix_append _ _) hbegins

theorem hasObjectFilters_iff (a : Arguments) :
    a.configuration.exporting.hasObjectFilters = true ↔
      a.schemas ≠ [] ∨ a.excludeSchemas ≠ [] ∨ a.tables ≠ [] ∨ a.excludeTables ≠ [] := by
  simp only [ExportOptions.hasObjectFilters, Arguments.configuration, Arguments.objectFilters_eq,
    Bool.not_eq_true', List.isEmpty_eq_false_iff, ne_eq, List.append_eq_nil_iff,
    List.map_eq_nil_iff, Classical.not_and_iff_not_or_not, or_assoc]

/-- A kept sequence is a line of the listing, and declared if objects are filtered. -/
theorem mem_kept {a : Arguments} {declared : List Identifier} {listing : Bytes} {s : Identifier}
    (h : s ∈ kept a.configuration.exporting declared (Catalog.sequencesOfReply listing)) :
    (∃ line ∈ Bytes.pieces listing, Bytes.trim line ≠ [] ∧ s = ⟨Bytes.trim line⟩) ∧
      (a.configuration.exporting.hasObjectFilters = true → s ∈ declared) := by
  have hlisted : s ∈ Catalog.sequencesOfReply listing := by
    unfold kept at h
    split at h
    · exact (List.mem_filter.mp h).1
    · exact h
  refine ⟨?_, fun hfilters => ?_⟩
  · obtain ⟨name, hname, rfl⟩ := List.mem_map.mp hlisted
    obtain ⟨hmem, hne⟩ := List.mem_filter.mp hname
    obtain ⟨line, hline, rfl⟩ := List.mem_map.mp hmem
    exact ⟨line, hline, by simpa using hne, rfl⟩
  · rw [kept, if_pos hfilters] at h
    exact of_decide_eq_true (List.mem_filter.mp h).2

theorem sequenceCall {a : Arguments} {ddl listing : Bytes}
    (hkept : kept a.configuration.exporting (Discovery.sequences ddl)
      (Catalog.sequencesOfReply listing) ≠ []) :
    SequenceCall a ddl listing
      (args a.configuration.exporting (kept a.configuration.exporting (Discovery.sequences ddl)
        (Catalog.sequencesOfReply listing))) := by
  constructor
  · rfl
  · obtain ⟨s, hs⟩ := List.exists_mem_of_ne_nil _ hkept
    refine ⟨flagArgument "--table" s.bytes, ?_, ?_⟩
    · refine List.mem_append_left _ (List.mem_cons_of_mem _ ?_)
      exact List.mem_map_of_mem hs
    · rw [flagArgument_eq]
      exact List.prefix_append _ _
  · intro arg harg hbegins
    rcases mem_args_of_prefix (by decide) harg hbegins with rfl | ⟨s, hs, rfl⟩
    · exact absurd hbegins (by decide)
    · obtain ⟨⟨line, hline, hne, rfl⟩, hdeclared⟩ := mem_kept hs
      exact ⟨line, hline, hne, rfl, fun hfilters =>
        hdeclared ((hasObjectFilters_iff a).mpr hfilters)⟩
  · intro arg harg
    refine ⟨?_, ?_, ?_⟩
    · exact not_prefix_of_mem_args (by decide) (by decide) (by decide) harg
    · exact not_prefix_of_mem_args (by decide) (by decide) (by decide) harg
    · exact not_prefix_of_mem_args (by decide) (by decide) (by decide) harg

end SequenceState

/-! ## Every call of the export tool -/

namespace MaskedData

/-- The data phase does not call the export tool. -/
theorem PhaseCourse.exportArgs_eq_none {α : Type} {read : Nat → α} {tables : List Identifier}
    {c : Course α} (h : PhaseCourse read tables c) : ∀ e ∈ c.exchanges, e.exportArgs = none := by
  obtain ⟨blocks, lookups, hexchanges, -, hlookups⟩ := h.blocks
  rw [hexchanges]
  refine List.forall_mem_append.mpr ⟨fun e he => ?_, fun e he => (hlookups e he).exportArgs⟩
  obtain ⟨b, -, he⟩ := List.mem_flatMap.mp he
  have hblock : ∀ e ∈ b.exchanges, e.exportArgs = none :=
    List.forall_mem_cons.mpr ⟨rfl, List.forall_mem_singleton.mpr rfl⟩
  exact hblock e he

end MaskedData

namespace SequenceState

/-- Sequences are exported right behind their listing. -/
theorem DumpCourse.sequenceCall {a : Arguments}
    {excluded : List Identifier} {ddl : Bytes} {c : Course Nat}
    (h : DumpCourse a.configuration.exporting excluded (Discovery.sequences ddl) c) :
    ∀ e ∈ c.exchanges, ∀ args, e.exportArgs = some args →
      ∃ listing, c.exchanges = [.query (Catalog.sequencesQuery excluded) (.ok listing), e] ∧
        SequenceCall a ddl listing args := by
  cases h with
  | unlisted => exact List.forall_mem_singleton.mpr nofun
  | none => exact List.forall_mem_singleton.mpr nofun
  | @broken listing _ text _ args hkept hargs =>
    refine List.forall_mem_cons.mpr ⟨nofun, List.forall_mem_singleton.mpr ?_⟩
    rintro _ ⟨⟩
    exact ⟨listing, rfl, hargs ▸ SequenceState.sequenceCall hkept⟩
  | @whole listing text args hkept hargs =>
    refine List.forall_mem_cons.mpr ⟨nofun, List.forall_mem_singleton.mpr ?_⟩
    rintro _ ⟨⟩
    exact ⟨listing, rfl, hargs ▸ SequenceState.sequenceCall hkept⟩

end SequenceState

namespace Script

theorem HeadRecord.sectionCall {options : ExportOptions} {exchanges : List Exchange}
    (h : HeadRecord options exchanges) :
    ∀ e ∈ exchanges, ∀ args, e.exportArgs = some args →
      ∃ reply rest, exchanges = .query Catalog.maskSchemaQuery (.ok reply) :: rest ∧
        SectionCall reply args := by
  cases h with
  | schema result => exact List.forall_mem_singleton.mpr nofun
  | single reply result =>
    refine List.forall_mem_cons.mpr ⟨nofun, List.forall_mem_singleton.mpr ?_⟩
    rintro _ ⟨⟩
    exact ⟨reply, _, rfl, Section.sectionCall _ _ _⟩
  | double reply raw result =>
    refine List.forall_mem_cons.mpr ⟨nofun, List.forall_mem_cons.mpr ⟨?_, ?_⟩⟩
    · rintro _ ⟨⟩
      exact ⟨reply, _, rfl, Section.sectionCall _ _ _⟩
    · refine List.forall_mem_singleton.mpr ?_
      rintro _ ⟨⟩
      exact ⟨reply, _, rfl, Section.sectionCall _ _ _⟩

theorem PostDataCourse.sectionCall {options : ExportOptions} {reply : Bytes}
    {filter : ExtensionFilter} {c : Course Unit}
    (h : PostDataCourse options (Catalog.excludedOfReply reply) filter c) :
    ∀ e ∈ c.exchanges, ∀ args, e.exportArgs = some args → SectionCall reply args := by
  cases h <;>
  · refine List.forall_mem_singleton.mpr ?_
    rintro _ ⟨⟩
    exact Section.sectionCall _ _ _

/-- Behind the pre-data section the export tool is called for sequences, right behind their listing,
and for the post-data section. -/
theorem TailCourse.exports {a : Arguments} {version : String} {reply ddl : Bytes}
    {preData : PreData} {c : Course Summary} (before : List Exchange)
    (hdeclared : preData.sequences = Discovery.sequences ddl)
    (h : TailCourse a.configuration.exporting version (Catalog.excludedOfReply reply) preData c) :
    ∀ e ∈ c.exchanges, ∀ args, e.exportArgs = some args →
      SectionCall reply args ∨
        ∃ listing,
          [.query (Catalog.sequencesQuery (Catalog.excludedOfReply reply)) (.ok listing), e]
            <:+: before ++ c.exchanges ∧
          SequenceCall a ddl listing args := by
  have hrecord : c.exchanges <:+: before ++ c.exchanges := (List.suffix_append _ _).isInfix
  refine h.forall_exchanges hrecord (fun _ hdata _ e he args hargs => ?_) fun _ _ h hrecord => ?_
  · rw [hdata.exportArgs_eq_none e he] at hargs
    nomatch hargs
  refine h.forall_exchanges hrecord (fun _ hsequences hrecord e he args hargs => ?_)
    fun _ _ h hrecord => ?_
  · rw [hdeclared] at hsequences
    obtain ⟨listing, hexchanges, hcall⟩ := hsequences.sequenceCall e he args hargs
    rw [hexchanges] at hrecord
    exact .inr ⟨listing, hrecord, hcall⟩
  refine h.forall_exchanges hrecord (fun _ hpostData _ e he args hargs => ?_) ?_
  · exact .inl (hpostData.sectionCall e he args hargs)
  · rintro _ _ rfl
    nofun

/-- In every dump, failed or not, every call of the export tool exports definitions without masking
rules, or values of sequences that were listed right before. -/
theorem write_exports_no_rows (c : Collaborators σ) (a : Arguments) (version : String)
    (w : World σ) :
    ∃ exchanges,
      (write c a.configuration.exporting version w).2.exchanges = w.exchanges ++ exchanges ∧
      ∀ e ∈ exchanges, ∀ args, e.exportArgs = some args →
        ∃ reply rest, exchanges = .query Catalog.maskSchemaQuery (.ok reply) :: rest ∧
          (SectionCall reply args ∨
            ∃ raw exports listing,
              rest =
                .dump (Section.preData.args (Catalog.excludedOfReply reply)
                  a.configuration.exporting.sectionArgs) (.ok raw) :: exports ∧
              [.query (Catalog.sequencesQuery (Catalog.excludedOfReply reply)) (.ok listing), e]
                <:+: exchanges ∧
              SequenceCall a (ExtensionFilter.masking.apply raw).text listing args) := by
  obtain ⟨course, hcourse, -, hexchanges, -⟩ :=
    write_follows c a.configuration.exporting version w
  refine ⟨course.exchanges, hexchanges, ?_⟩
  rcases hcourse.head_or_tail with ⟨hhead, -, -⟩ |
    ⟨before, reply, preData, tail, hleads, htail, rfl⟩
  · intro e he args hargs
    obtain ⟨reply, rest, heq, hcall⟩ := hhead.sectionCall e he args hargs
    exact ⟨reply, rest, heq, .inl hcall⟩
  · obtain ⟨raw, second, -, hbefore, rfl⟩ := hleads.exports
    have htailCalls := htail.exports before rfl
    subst hbefore
    refine List.forall_mem_append.mpr ⟨fun e he args hargs => ?_, fun e he args hargs => ?_⟩
    · obtain ⟨reply', rest, heq, hcall⟩ := hleads.headRecord.sectionCall e he args hargs
      cases heq
      exact ⟨reply, _, rfl, .inl hcall⟩
    · refine ⟨reply, _, rfl, (htailCalls e he args hargs).imp_right ?_⟩
      rintro ⟨listing, hlisting, hcall⟩
      exact ⟨raw, _, listing, rfl, hlisting, hcall⟩

end Script

end MaskedDump
