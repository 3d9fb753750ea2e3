import MaskedDump.Dump.Script
import MaskedDump.Proofs.Dump.Phases
import MaskedDump.Proofs.Recoding.Scans
import MaskedDump.Proofs.Run.Coupling

/-!
# Coupled dumps

A dump treats the answers of its collaborators as bytes. It looks for ASCII characters in them,
compares names with each other, and copies all else. So two dumps go on side by side whenever their
collaborators answer to each other behind a recoding: the second one makes the recoded calls, writes
the recoded text, and reports the same.

This is proved once, for every coupling of worlds that respects calls and writes. Two dumps that
differ in their sinks alone are the case of the recoding that changes nothing.

Results:
* `MaskedData.stream_couples`, `SequenceState.dump_couples`, `PreData.dump_couples`: the phases;
* `Script.write_couples`: two whole dumps.
-/

namespace MaskedDump

variable {σ : Type}

/-! ## Arguments and statements -/

/-- All texts of the options. -/
def ExportOptions.texts (options : ExportOptions) : List String :=
  options.connection ++ options.encoding.toList ++ options.objectFilters
    ++ options.excludeTableData

namespace Recoding

open Bytes

variable (ρ : Recoding)

/-- Whether a text is the same when it is recoded. -/
def Keeps (s : String) : Prop := ρ.bytes (ofString s) = ofString s

/-- Whether all texts of the options are the same when they are recoded. -/
def KeepsOptions (options : ExportOptions) : Prop := ∀ s ∈ options.texts, ρ.Keeps s

variable {ρ}

theorem Keeps.append {s t : String} (hs : ρ.Keeps s) (ht : ρ.Keeps t) : ρ.Keeps (s ++ t) := by
  unfold Keeps at *
  rw [ofString_append, bytes_append, hs, ht]

theorem keeps_identity (s : String) : identity.Keeps s := bytes_identity _

theorem keeps_of_isAscii {s : String} (h : IsAscii (ofString s)) : ρ.Keeps s :=
  ρ.bytes_of_isAscii h

theorem keeps_assigned {flag : String} {values : List String} (hflag : IsAscii (ofString flag))
    (hvalues : ∀ value ∈ values, ρ.Keeps value) : ∀ s ∈ values.map (flag ++ ·), ρ.Keeps s := by
  intro s hs
  obtain ⟨value, hvalue, rfl⟩ := List.mem_map.mp hs
  exact (keeps_of_isAscii hflag).append (hvalues value hvalue)

theorem keeps_sectionArgs {options : ExportOptions} (h : ρ.KeepsOptions options) :
    ∀ s ∈ options.sectionArgs, ρ.Keeps s := by
  intro s hs
  simp only [ExportOptions.sectionArgs, ExportOptions.baseArgs, List.mem_append,
    Option.mem_toList, Option.map_eq_some_iff] at hs
  rcases hs with (hs | ⟨value, hvalue, rfl⟩) | hs
  · exact h s (by simp [ExportOptions.texts, hs])
  · exact (keeps_of_isAscii (by decide)).append (h value (by simp [ExportOptions.texts, hvalue]))
  · exact h s (by simp [ExportOptions.texts, hs])

theorem keeps_dataDiscoveryArgs {options : ExportOptions} (h : ρ.KeepsOptions options) :
    ∀ s ∈ options.dataDiscoveryArgs, ρ.Keeps s :=
  List.forall_mem_append.mpr ⟨keeps_sectionArgs h,
    keeps_assigned (by decide) fun value hvalue =>
      h value (by simp [ExportOptions.texts, hvalue])⟩

theorem keeps_sequenceArgs {options : ExportOptions} (h : ρ.KeepsOptions options) :
    ∀ s ∈ options.sequenceArgs, ρ.Keeps s :=
  List.forall_mem_append.mpr ⟨fun s hs => keeps_sectionArgs h s (List.mem_append_left _ hs),
    keeps_assigned (by decide) fun value hvalue =>
      h value (by simp [ExportOptions.texts, hvalue])⟩

theorem map_ofString {texts : List String} (h : ∀ s ∈ texts, ρ.Keeps s) :
    (texts.map ofString).map ρ.bytes = texts.map ofString := by
  rw [List.map_map]
  exact List.map_congr_left h

/-- A rule that is blind to the encoding makes the recoded texts of recoded names. -/
theorem map_names {f : Bytes → Bytes} (hf : ∀ bs, ρ.bytes (f bs) = f (ρ.bytes bs))
    (names : List Identifier) :
    (names.map fun name => f name.bytes).map ρ.bytes =
      (names.map ρ.identifier).map fun name => f name.bytes := by
  rw [List.map_map, List.map_map]
  exact List.map_congr_left fun name _ => hf name.bytes

theorem bytes_flagArgument {flag : String} (hflag : IsAscii (ofString flag)) (value : Bytes) :
    ρ.bytes (flagArgument flag value) = flagArgument flag (ρ.bytes value) := by
  have hsign : ρ.perm 61 = 61 := ρ.perm_ascii 61 (by decide)
  rw [flagArgument, flagArgument, bytes_append, bytes_cons, hsign, ρ.bytes_of_isAscii hflag]

theorem map_sectionArgs {options : List String} (h : ∀ s ∈ options, ρ.Keeps s) (sect : Section)
    (excluded : List Identifier) :
    (sect.args excluded options).map ρ.bytes =
      sect.args (excluded.map ρ.identifier) options := by
  have hfirst : [ofString ("--section=" ++ sect.name), ofString "--no-security-labels"].map
      ρ.bytes = [ofString ("--section=" ++ sect.name), ofString "--no-security-labels"] := by
    have hkept : ∀ s ∈ ["--section=" ++ sect.name, "--no-security-labels"], ρ.Keeps s := by
      refine List.forall_mem_cons.mpr ⟨?_, List.forall_mem_singleton.mpr ?_⟩
      · cases sect <;> exact keeps_of_isAscii (by decide)
      · exact keeps_of_isAscii (by decide)
    exact map_ofString hkept
  rw [Section.args, Section.args, List.map_append, List.map_append, hfirst,
    map_names (bytes_flagArgument (by decide)), map_ofString h]

theorem map_sequenceArgs {options : ExportOptions} (h : ρ.KeepsOptions options)
    (sequences : List Identifier) :
    (SequenceState.args options sequences).map ρ.bytes =
      SequenceState.args options (sequences.map ρ.identifier) := by
  have hfirst : ρ.bytes (ofString "--data-only") = ofString "--data-only" :=
    ρ.bytes_ofString (by decide)
  rw [SequenceState.args, SequenceState.args, List.map_append, List.map_cons, hfirst,
    map_names (bytes_flagArgument (by decide)), map_ofString (keeps_sequenceArgs h)]

theorem bytes_maskFiltersQuery (table : Identifier) :
    ρ.bytes (Catalog.maskFiltersQuery table) = Catalog.maskFiltersQuery (ρ.identifier table) := by
  rw [Catalog.maskFiltersQuery, Catalog.maskFiltersQuery, bytes_append, bytes_append,
    ρ.bytes_ofString (by decide), ρ.bytes_ofString (by decide), ← bytes_quoteLiteral]
  rfl

theorem bytes_copyStatement (columns : Bytes) (table : Identifier) :
    ρ.bytes (MaskedData.copyStatement columns table) =
      MaskedData.copyStatement (ρ.bytes columns) (ρ.identifier table) := by
  rw [MaskedData.copyStatement, MaskedData.copyStatement, bytes_append, bytes_append, bytes_append,
    bytes_append, ρ.bytes_ofString (by decide), ρ.bytes_ofString (by decide),
    ρ.bytes_ofString (by decide)]
  rfl

theorem bytes_header (table : Identifier) :
    ρ.bytes (MaskedData.header table) = MaskedData.header (ρ.identifier table) := by
  rw [MaskedData.header, MaskedData.header, bytes_append, bytes_append,
    ρ.bytes_ofString (by decide), ρ.bytes_ofString (by decide)]
  rfl

theorem bytes_intercalate {separator : Bytes} (hseparator : IsAscii separator)
    (texts : List Bytes) :
    ρ.bytes (separator.intercalate texts) = separator.intercalate (texts.map ρ.bytes) := by
  induction texts with
  | nil => rfl
  | cons first rest ih =>
    cases rest with
    | nil => simp [List.intercalate_singleton]
    | cons second rest =>
      rw [List.map_cons, List.map_cons, List.intercalate_cons_cons, List.intercalate_cons_cons,
        bytes_append, bytes_append, ρ.bytes_of_isAscii hseparator, ih, List.map_cons]

theorem bytes_sequencesQuery (excluded : List Identifier) :
    ρ.bytes (Catalog.sequencesQuery excluded) =
      Catalog.sequencesQuery (excluded.map ρ.identifier) := by
  have hexcluding : ρ.bytes (Catalog.excludingSchemas excluded) =
      Catalog.excludingSchemas (excluded.map ρ.identifier) := by
    rw [Catalog.excludingSchemas, Catalog.excludingSchemas, List.isEmpty_map]
    split
    · rfl
    · rw [bytes_append, bytes_append, ρ.bytes_ofString (by decide), ρ.bytes_ofString (by decide),
        bytes_intercalate (by decide),
        map_names fun bs => (ρ.bytes_quoteLiteral bs).symm]
  rw [Catalog.sequencesQuery, Catalog.sequencesQuery, bytes_append, bytes_append, hexcluding,
    ρ.bytes_ofString (by decide +kernel), ρ.bytes_ofString (by decide)]

/-! ## Replies -/

theorem columnsOfReply_bytes (reply : Bytes) :
    Catalog.columnsOfReply (ρ.bytes reply) = ρ.bytes (Catalog.columnsOfReply reply) := by
  rw [Catalog.columnsOfReply, Catalog.columnsOfReply, bytes_trim]
  simp only [isEmpty_bytes]
  split
  · exact (ρ.bytes_ofString (by decide)).symm
  · rfl

theorem maskOfReply_bytes (reply : Bytes) :
    Catalog.maskOfReply (ρ.bytes reply) = (Catalog.maskOfReply reply).map ρ.identifier := by
  rw [Catalog.maskOfReply, Catalog.maskOfReply, bytes_trim, isEmpty_bytes]
  split <;> rfl

theorem identifier_anonSchema : ρ.identifier Catalog.anonSchema = Catalog.anonSchema := by
  rw [identifier, Catalog.anonSchema, Identifier.ofString, ρ.bytes_ofString (by decide)]

theorem excludedWith_map (mask : Option Identifier) :
    Catalog.excludedWith (mask.map ρ.identifier) =
      (Catalog.excludedWith mask).map ρ.identifier := by
  cases mask with
  | none => simp [Catalog.excludedWith, identifier_anonSchema]
  | some mask =>
    have hanon : ρ.identifier mask = Catalog.anonSchema ↔ mask = Catalog.anonSchema := by
      constructor
      · intro h
        exact ρ.identifier_injective (h.trans identifier_anonSchema.symm)
      · rintro rfl
        exact identifier_anonSchema
    by_cases h : mask = Catalog.anonSchema
    · simp [Catalog.excludedWith, Option.filter, identifier_anonSchema, h]
    · simp [Catalog.excludedWith, Option.filter, identifier_anonSchema, hanon, h]

theorem sequencesOfReply_bytes (reply : Bytes) :
    Catalog.sequencesOfReply (ρ.bytes reply) =
      (Catalog.sequencesOfReply reply).map ρ.identifier := by
  have htrim : (pieces (ρ.bytes reply)).map trim = ((pieces reply).map trim).map ρ.bytes := by
    rw [bytes_pieces, List.map_map, List.map_map]
    exact List.map_congr_left fun line _ => ρ.bytes_trim line
  have hempty : (fun name : Bytes => !name.isEmpty) ∘ ρ.bytes = fun name => !name.isEmpty :=
    funext fun name => congrArg _ (ρ.isEmpty_bytes name)
  rw [Catalog.sequencesOfReply, Catalog.sequencesOfReply, htrim, List.filter_map, hempty,
    List.map_map, List.map_map]
  rfl

theorem kept_map (options : ExportOptions) (declared listed : List Identifier) :
    SequenceState.kept options (declared.map ρ.identifier) (listed.map ρ.identifier) =
      (SequenceState.kept options declared listed).map ρ.identifier := by
  rw [SequenceState.kept, SequenceState.kept]
  split
  · exact ρ.filter_mem_map listed declared
  · rfl

/-- A pre-data section, recoded. -/
def preData (ρ : Recoding) (found : PreData) : PreData where
  ddl := ρ.bytes found.ddl
  tables := found.tables.map ρ.identifier
  dataTables := found.dataTables.map ρ.identifier
  sequences := found.sequences.map ρ.identifier

end Recoding

/-! ## Coupled collaborators -/

/-- Whether collaborators answer to others behind a recoding, and writes to recoded writes. -/
structure Coupling.Translates (C : Coupling σ) (ρ : Recoding) (c c' : Collaborators σ) :
    Prop where
  lookUpMasks : ∀ table, C.causes (.activity (.lookUpMasks table))
    (.activity (.lookUpMasks (ρ.identifier table)))
  tableExport : ∀ table, C.causes (.tableExport table.sanitized)
    (.tableExport (ρ.identifier table).sanitized)
  write : ∀ bs, C.Couples id (Run.write bs) (Run.write (ρ.bytes bs))
  query : ∀ sql, C.Couples ρ.bytes (Run.query c sql) (Run.query c' (ρ.bytes sql))
  copyOut : ∀ sql, C.Couples id (Run.copyOut c sql) (Run.copyOut c' (ρ.bytes sql))
  dump : ∀ args, C.Couples ρ.bytes (Run.dump c args) (Run.dump c' (args.map ρ.bytes))
  dumpInto : ∀ args, C.Couples id (Run.dumpInto c args) (Run.dumpInto c' (args.map ρ.bytes))

open Coupling

variable {C : Coupling σ} {ρ : Recoding} {c c' : Collaborators σ}

namespace Coupling.Translates

/-- A query in ASCII is the same for both. -/
theorem query_ascii (h : C.Translates ρ c c') {sql : Bytes} (hsql : sql.IsAscii) :
    C.Couples ρ.bytes (Run.query c sql) (Run.query c' sql) := by
  have hquery := h.query sql
  rwa [ρ.bytes_of_isAscii hsql] at hquery

/-- A text in ASCII is the same in both. -/
theorem write_ascii (h : C.Translates ρ c c') {bs : Bytes} (hbs : bs.IsAscii) :
    C.Couples id (Run.write bs) (Run.write bs) := by
  have hwrite := h.write bs
  rwa [ρ.bytes_of_isAscii hbs] at hwrite

theorem section_couples (h : C.Translates ρ c c') {options : List String}
    (hoptions : ∀ s ∈ options, ρ.Keeps s) (sect : Section) (excluded : List Identifier) :
    C.Couples ρ.bytes (Run.dump c (sect.args excluded options))
      (Run.dump c' (sect.args (excluded.map ρ.identifier) options)) := by
  have hdump := h.dump (sect.args excluded options)
  rwa [Recoding.map_sectionArgs hoptions] at hdump

end Coupling.Translates

/-- Whether a call is answered alike in worlds that answer to each other. -/
def Coupling.Agrees {α : Type} (C : Coupling σ) (call : Surroundings σ → α × Surroundings σ) :
    Prop :=
  ∀ w v, C.worlds w v →
    (call v.toSurroundings).1 = (call w.toSurroundings).1 ∧
      ∀ e, C.worlds (w.heard (call w.toSurroundings).2 e) (v.heard (call v.toSurroundings).2 e)

/-- Collaborators that answer alike on both sides, and nothing is recoded. -/
theorem Coupling.Translates.of_agrees
    (hwrite : ∀ bs, C.Couples id (Run.write bs) (Run.write bs))
    (hsettle : C.Couples id Run.settle Run.settle)
    (hlost : ∀ w cause v, C.lost w cause v → ∀ around e, C.lost (w.heard around e) cause v)
    (hquery : ∀ sql, C.Agrees (c.query sql)) (hcopyOut : ∀ sql, C.Agrees (c.copyOut sql))
    (hdump : ∀ args, C.Agrees (c.dump args)) (hdumpInto : ∀ args, C.Agrees (c.dumpInto args)) :
    C.Translates .identity c c := by
  have hbytes : Recoding.identity.bytes = id := funext Recoding.bytes_identity
  have hask : ∀ (exchange : Except Failure Bytes → Exchange)
      (answer : Surroundings σ → Reply × Surroundings σ), C.Agrees answer →
      C.Couples id (Run.ask exchange answer) (Run.ask exchange answer) := by
    intro exchange answer hanswer
    refine .ask (fun w v h => ?_) hlost
    obtain ⟨hreply, hafter⟩ := hanswer w v h
    rw [hreply, Except.map_id]
    exact ⟨rfl, hafter _⟩
  have hstream : ∀ (exchange : Delivery → Exchange)
      (answer : Surroundings σ → Delivery × Surroundings σ), C.Agrees answer →
      C.Couples id (Run.stream exchange answer) (Run.stream exchange answer) := by
    intro exchange answer hanswer
    refine .stream (g := id) (fun w v h => ?_) hlost fun d => ?_
    · obtain ⟨hdelivery, hafter⟩ := hanswer w v h
      rw [hdelivery]
      exact ⟨rfl, hafter _⟩
    · exact .receive (hwrite d.bytes) hsettle rfl rfl rfl rfl
  exact {
    lookUpMasks := fun table => by
      rw [Recoding.identifier_identity]
      exact C.causes_refl _
    tableExport := fun table => by
      rw [Recoding.identifier_identity]
      exact C.causes_refl _
    write := fun bs => by
      rw [Recoding.bytes_identity]
      exact hwrite bs
    query := fun sql => by
      rw [hbytes]
      exact hask _ _ (hquery sql)
    copyOut := fun sql => by
      rw [Recoding.bytes_identity]
      exact hstream _ _ (hcopyOut sql)
    dump := fun args => by
      rw [hbytes, List.map_id]
      exact hask _ _ (hdump args)
    dumpInto := fun args => by
      rw [hbytes, List.map_id]
      exact hstream _ _ (hdumpInto args) }

namespace Catalog

theorem excludedSchemas_couples (h : C.Translates ρ c c') :
    C.Couples (List.map ρ.identifier) (excludedSchemas c) (excludedSchemas c') := by
  have hmask : C.Couples (Option.map ρ.identifier) (maskSchema c) (maskSchema c') := by
    have hascii : maskSchemaQuery.IsAscii := by decide
    refine ((h.query_ascii hascii).during .readMaskSchema).bind fun reply => ?_
    have hreply := Couples.pure (C := C) (Option.map ρ.identifier) (maskOfReply reply)
    rwa [← Recoding.maskOfReply_bytes] at hreply
  refine hmask.bind fun mask => ?_
  rw [Recoding.excludedWith_map]
  exact .pure _ (excludedWith mask)

theorem maskFilters_couples (h : C.Translates ρ c c') (table : Identifier) :
    C.Couples ρ.bytes (maskFilters c table) (maskFilters c' (ρ.identifier table)) := by
  have hquery := h.query (maskFiltersQuery table)
  rw [Recoding.bytes_maskFiltersQuery] at hquery
  refine (hquery.under (h.lookUpMasks table)).bind fun reply => ?_
  rw [Recoding.columnsOfReply_bytes]
  exact .pure _ (columnsOfReply reply)

theorem listSequences_couples (h : C.Translates ρ c c') (excluded : List Identifier) :
    C.Couples (List.map ρ.identifier) (listSequences c excluded)
      (listSequences c' (excluded.map ρ.identifier)) := by
  have hquery := h.query (sequencesQuery excluded)
  rw [Recoding.bytes_sequencesQuery] at hquery
  refine (hquery.during .listSequences).bind fun reply => ?_
  rw [Recoding.sequencesOfReply_bytes]
  exact .pure _ (sequencesOfReply reply)

end Catalog

/-! ## The data phase -/

namespace MaskedData

theorem copyTable_couples (h : C.Translates ρ c c') (table : Identifier) :
    C.Couples id (copyTable c table) (copyTable c' (ρ.identifier table)) := by
  refine (Catalog.maskFilters_couples h table).bind fun columns => ?_
  have hheader := h.write (header table)
  have hcopy := h.copyOut (copyStatement columns table)
  rw [Recoding.bytes_header] at hheader
  rw [Recoding.bytes_copyStatement] at hcopy
  refine (hheader.during .writeCopyHeader).bind fun _ => hcopy.bind fun count => ?_
  have hascii : terminator.IsAscii := by decide
  have hterminator := h.write_ascii hascii
  exact (hterminator.during .writeCopyTerminator).bind fun _ => .pure id count

theorem copyTables_couples (h : C.Translates ρ c c') (total number : Nat)
    (tables : List Identifier) :
    C.Couples id (copyTables c total number tables)
      (copyTables c' total number (tables.map ρ.identifier)) := by
  induction tables generalizing number with
  | nil => exact .pure id 0
  | cons table rest ih =>
    rw [List.map_cons, copyTables, copyTables]
    refine .after_say ?_
    refine ((copyTable_couples h table).under (h.tableExport table)).bind fun count => ?_
    exact (ih (number + 1)).bind fun more => .pure id (count + more)

theorem stream_couples (h : C.Translates ρ c c') (tables : List Identifier) :
    C.Couples id (stream c tables) (stream c' (tables.map ρ.identifier)) := by
  rw [stream, stream, List.length_map]
  exact (copyTables_couples h tables.length 1 tables).bind fun bytes => .pure id _

end MaskedData

/-! ## The other phases -/

namespace PreData

theorem tablesWithData_couples (h : C.Translates ρ c c') {options : ExportOptions}
    (hoptions : ρ.KeepsOptions options) (excluded tables : List Identifier) :
    C.Couples (List.map ρ.identifier) (tablesWithData c options excluded tables)
      (tablesWithData c' options (excluded.map ρ.identifier) (tables.map ρ.identifier)) := by
  unfold tablesWithData
  split
  · have hdump := h.section_couples (Recoding.keeps_dataDiscoveryArgs hoptions) .preData excluded
    refine (hdump.during .listDataTables).bind fun second => ?_
    dsimp only
    rw [Recoding.tables_bytes, Recoding.filter_mem_map]
    exact .pure _ _
  · exact .pure _ tables

theorem dump_couples (h : C.Translates ρ c c') {options : ExportOptions}
    (hoptions : ρ.KeepsOptions options) (excluded : List Identifier) :
    C.Couples ρ.preData (dump c options excluded ExtensionFilter.masking)
      (dump c' options (excluded.map ρ.identifier) ExtensionFilter.masking) := by
  have hdump := h.section_couples (Recoding.keeps_sectionArgs hoptions) .preData excluded
  refine .after_say ((hdump.during .dumpPreData).bind fun raw => .after_say ?_)
  rw [Recoding.masking_bytes, Recoding.tables_bytes, Recoding.sequences_bytes]
  exact (tablesWithData_couples h hoptions excluded _).bind fun dataTables =>
    .after_say (.pure ρ.preData _)

end PreData

namespace SequenceState

theorem dump_couples (h : C.Translates ρ c c') {options : ExportOptions}
    (hoptions : ρ.KeepsOptions options) (excluded declared : List Identifier) :
    C.Couples id (dump c options excluded declared)
      (dump c' options (excluded.map ρ.identifier) (declared.map ρ.identifier)) := by
  refine (Catalog.listSequences_couples h excluded).bind fun listed => ?_
  rw [Recoding.kept_map]
  simp only [List.isEmpty_map, List.length_map]
  split
  · exact .after_say (.pure id 0)
  · have hvalues := h.dumpInto (args options (kept options declared listed))
    rw [Recoding.map_sequenceArgs hoptions] at hvalues
    exact .after_say ((hvalues.during .dumpSequenceState).bind fun _ =>
      .after_say (.pure id _))

end SequenceState

namespace Script

theorem writePostData_couples (h : C.Translates ρ c c') {options : ExportOptions}
    (hoptions : ρ.KeepsOptions options) (excluded : List Identifier) :
    C.Couples id (writePostData c options excluded ExtensionFilter.masking)
      (writePostData c' options (excluded.map ρ.identifier) ExtensionFilter.masking) := by
  have hdump := h.section_couples (Recoding.keeps_sectionArgs hoptions) .postData excluded
  refine .after_say ((hdump.during .dumpPostData).bind fun raw => ?_)
  rw [Recoding.masking_bytes]
  exact ((h.write _).during .writePostData).bind fun _ => .say _ _ _ _

/-- Two dumps go on side by side if their collaborators answer to each other behind a recoding that
keeps the options and the version. -/
theorem write_couples (h : C.Translates ρ c c') {options : ExportOptions} {version : String}
    (hoptions : ρ.KeepsOptions options) (hversion : ρ.Keeps version) :
    C.Couples id (write c options version) (write c' options version) := by
  have hbanner : ρ.bytes (banner version) = banner version := by
    have hfirst : ρ.Keeps ("--\n-- Dump generated by " ++ productName ++ " ") :=
      Recoding.keeps_of_isAscii (by decide)
    have hlast : ρ.Keeps "\n--\n" := Recoding.keeps_of_isAscii (by decide)
    exact (hfirst.append hversion).append hlast
  refine (Catalog.excludedSchemas_couples h).bind fun excluded => ?_
  have hwriteBanner := h.write (banner version)
  rw [hbanner] at hwriteBanner
  refine (hwriteBanner.during .writeBanner).bind fun _ => .after_say ?_
  refine (PreData.dump_couples h hoptions excluded).bind fun preData => ?_
  refine ((h.write preData.ddl).during .writePreData).bind fun _ => ?_
  have hlineFeed : Bytes.IsAscii [Bytes.lineFeed] := by decide
  refine (h.write_ascii hlineFeed).bind fun _ => .after_say ?_
  refine (MaskedData.stream_couples h preData.dataTables).bind fun data => .after_say ?_
  refine (SequenceState.dump_couples h hoptions excluded preData.sequences).bind fun sequences =>
    .after_say ?_
  refine (writePostData_couples h hoptions excluded).bind fun _ => ?_
  simp only [Recoding.preData, List.length_map]
  exact .pure id _

/-- So do two dumps in one encoding, whatever the options and the version. -/
theorem write_couples_identity (h : C.Translates .identity c c') (options : ExportOptions)
    (version : String) : C.Couples id (write c options version) (write c' options version) :=
  write_couples h (fun s _ => Recoding.keeps_identity s) (Recoding.keeps_identity version)

end Script

end MaskedDump
