import MaskedDump.Options.Sets
import MaskedDump.Proofs.Options.Reading

/-!
# Option sets of a command line

The client tools see parts of the command line, in an order of their own: the connection first, then
the encoding, then the patterns by flag. Nothing but the values of each flag decides what they see.
The export tool takes the same flags, so what it is given is a command line too, and reading it
gives the same options again.

Results:
* `sectionArgs_gathered`, `sequenceArgs_gathered`, `querying_gathered`: the sets of a line;
* `gathered_perm`: only the order of the values of a flag matters;
* `gathered_exported`, `parse_exported`: the flags for the export tool are read back;
* `parse_sets`: the sets of every line of the form, in every order, and what is read from them.
-/

namespace MaskedDump.Arguments

/-! ## Values -/

section Proper

variable {line : List Given} (h : Proper line)

include h

/-- A flag that cannot be repeated has at most one value. -/
theorem Proper.length_values_le {f : Flag} (hf : f.repeatable = false) :
    (values f line).length ≤ 1 := by
  refine le_trans ?_ (h.once (.flag f) hf)
  rw [values, List.length_filterMap_eq_countP]
  refine List.countP_mono_left fun g _ hg => ?_
  cases g with
  | assigned other value =>
    obtain ⟨v, hv⟩ := Option.isSome_iff_exists.mp hg
    obtain ⟨hother, -⟩ := Option.ite_none_right_eq_some.mp hv
    exact decide_eq_true (congrArg Slot.flag hother)
  | switched | named => cases hg

theorem Proper.length_databases_le : (databases line).length ≤ 1 := by
  refine le_trans ?_ (h.once .positional rfl)
  rw [databases, List.length_filterMap_eq_countP]
  refine List.countP_mono_left fun g _ hg => ?_
  cases g with
  | named => rfl
  | assigned | switched => cases hg

end Proper

/-! ## The sets of a line -/

/-- The connection that a line gives. The flag for the database wins over the argument without a
flag. -/
def connectionOf (line : List Given) : List String :=
  ((values .dbname line ++ databases line).take 1).map ("--dbname=" ++ ·)
    ++ (values .serverHost line).map ("--host=" ++ ·)
    ++ (values .serverPort line).map ("--port=" ++ ·)
    ++ (values .username line).map ("--username=" ++ ·)
    ++ (if .switched .noPassword ∈ line then ["--no-password"] else [])
    ++ (if .switched .password ∈ line then ["--password"] else [])

/-- The encoding that a line gives. -/
def encodingOf (line : List Given) : List String :=
  (values .encoding line).map ("--encoding=" ++ ·)

/-- The patterns on schemas and tables that a line gives. -/
def filtersOf (line : List Given) : List String :=
  (values .schema line).map ("--schema=" ++ ·)
    ++ (values .excludeSchema line).map ("--exclude-schema=" ++ ·)
    ++ (values .table line).map ("--table=" ++ ·)
    ++ (values .excludeTable line).map ("--exclude-table=" ++ ·)

theorem head?_map_toList {α β : Type} (xs : List α) (f : α → β) :
    (xs.head?.map f).toList = (xs.take 1).map f := by
  cases xs <;> rfl

theorem toList_head?_map {α β : Type} {xs : List α} (h : xs.length ≤ 1) (f : α → β) :
    (xs.head?.map f).toList = xs.map f := by
  match xs, h with
  | [], _ => rfl
  | [x], _ => rfl

section Proper

variable {line : List Given} (h : Proper line)

include h

theorem connection_gathered : (gathered line).connection = connectionOf line := by
  have hdatabase : ((gathered line).database.map ("--dbname=" ++ ·)).toList =
      ((values .dbname line ++ databases line).take 1).map ("--dbname=" ++ ·) := by
    have hwins : (gathered line).database = (values .dbname line ++ databases line).head? := by
      simp [database, gathered, List.head?_append]
    rw [hwins, head?_map_toList]
  have hhost := toList_head?_map (h.length_values_le (f := .serverHost) rfl) ("--host=" ++ ·)
  have hport := toList_head?_map (h.length_values_le (f := .serverPort) rfl) ("--port=" ++ ·)
  have husername := toList_head?_map (h.length_values_le (f := .username) rfl) ("--username=" ++ ·)
  rw [connectionOf, ← hdatabase, ← hhost, ← hport, ← husername]
  simp only [connection, gathered, decide_eq_true_eq]

theorem encoding_gathered :
    ((gathered line).encoding.map ("--encoding=" ++ ·)).toList = encodingOf line :=
  toList_head?_map (h.length_values_le rfl) _

theorem sectionArgs_gathered :
    (gathered line).configuration.exporting.sectionArgs =
      connectionOf line ++ encodingOf line ++ filtersOf line := by
  have hfilters : (gathered line).objectFilters = filtersOf line := objectFilters_eq _
  rw [← connection_gathered h, ← encoding_gathered h, ← hfilters]
  rfl

theorem dataDiscoveryArgs_gathered :
    (gathered line).configuration.exporting.dataDiscoveryArgs =
      connectionOf line ++ encodingOf line ++ filtersOf line
        ++ (values .excludeTableData line).map ("--exclude-table=" ++ ·) := by
  rw [← sectionArgs_gathered h]
  rfl

theorem sequenceArgs_gathered :
    (gathered line).configuration.exporting.sequenceArgs =
      connectionOf line ++ encodingOf line
        ++ (values .excludeTableData line).map ("--exclude-table-data=" ++ ·) := by
  rw [← connection_gathered h, ← encoding_gathered h]
  rfl

theorem querying_gathered :
    (gathered line).configuration.querying.args =
      ["--quiet", "--tuples-only", "--no-align", "--no-psqlrc"] ++ connectionOf line := by
  rw [← connection_gathered h]
  rfl

end Proper

/-! ## Other orders -/

theorem Proper.perm {line other : List Given} (h : Proper line) (hperm : other.Perm line) :
    Proper other where
  admissible g hg := h.admissible g (hperm.mem_iff.mp hg)
  once slot hslot := by
    rw [hperm.countP_eq]
    exact h.once slot hslot

theorem eq_of_perm_of_length_le_one {α : Type} {xs ys : List α} (hperm : xs.Perm ys)
    (hys : ys.length ≤ 1) : xs = ys := by
  match ys, hys with
  | [], _ => exact hperm.eq_nil
  | [y], _ => exact List.perm_singleton.mp hperm

/-- Lines that differ only in the order of their arguments give the same, if the values of each flag
stay in order. -/
theorem gathered_perm {line other : List Given} (h : Proper line) (hperm : other.Perm line)
    (hsame : ∀ f : Flag, f.repeatable = true → values f other = values f line) :
    gathered other = gathered line := by
  have hvalues : ∀ f, values f other = values f line := by
    intro f
    cases hf : f.repeatable with
    | true => exact hsame f hf
    | false => exact eq_of_perm_of_length_le_one (hperm.filterMap _) (h.length_values_le hf)
  have hdatabases : databases other = databases line :=
    eq_of_perm_of_length_le_one (hperm.filterMap _) h.length_databases_le
  simp only [gathered, hvalues, hdatabases, hperm.mem_iff]

/-! ## The flags for the export tool -/

/-- The arguments as a line: connection, encoding, and all patterns. -/
def exported (a : Arguments) : List Given :=
  a.database.toList.map (.assigned .dbname)
    ++ a.serverHost.toList.map (.assigned .serverHost)
    ++ a.serverPort.toList.map (.assigned .serverPort)
    ++ a.username.toList.map (.assigned .username)
    ++ (if a.noPassword then [.switched .noPassword] else [])
    ++ (if a.password then [.switched .password] else [])
    ++ a.encoding.toList.map (.assigned .encoding)
    ++ a.schemas.map (.assigned .schema)
    ++ a.excludeSchemas.map (.assigned .excludeSchema)
    ++ a.tables.map (.assigned .table)
    ++ a.excludeTables.map (.assigned .excludeTable)
    ++ a.excludeTableData.map (.assigned .excludeTableData)

/-- What the client tools are told, with the database named by its flag. -/
def forTools (a : Arguments) : Arguments :=
  { a with dbname := a.database, positional := none, file := none, verbose := false }

theorem values_assigned (f g : Flag) (texts : List String) :
    values f (texts.map (.assigned g)) = if g = f then texts else [] := by
  rw [values, List.filterMap_map]
  split
  · rename_i heq
    have hsome : Given.value? f ∘ Given.assigned g = some :=
      funext fun text => if_pos heq
    rw [hsome, List.filterMap_some]
  · rename_i hne
    exact List.filterMap_eq_nil_iff.mpr fun text _ => if_neg hne

theorem values_switched (f g : Flag) (on : Bool) :
    values f (if on then [.switched g] else []) = [] := by
  cases on <;> rfl

theorem databases_assigned (g : Flag) (texts : List String) :
    databases (texts.map (.assigned g)) = [] := by
  rw [databases, List.filterMap_map]
  exact List.filterMap_eq_nil_iff.mpr fun text _ => rfl

theorem databases_switched (g : Flag) (on : Bool) :
    databases (if on then [.switched g] else []) = [] := by
  cases on <;> rfl

theorem gathered_exported (a : Arguments) : gathered a.exported = a.forTools := by
  simp [gathered, exported, forTools, values_append, databases_append, values_assigned,
    values_switched, databases_assigned, databases_switched]

theorem countP_slot_assigned (slot : Slot) (g : Flag) (texts : List String) :
    (texts.map (Given.assigned g)).countP (·.slot = slot) =
      if slot = .flag g then texts.length else 0 := by
  rw [List.countP_map]
  split
  · rename_i heq
    exact List.countP_eq_length.mpr fun text _ => decide_eq_true heq.symm
  · rename_i hne
    exact List.countP_eq_zero.mpr fun text _ heq => hne (of_decide_eq_true heq).symm

theorem countP_slot_switched (slot : Slot) (g : Flag) (on : Bool) :
    (if on then [Given.switched g] else []).countP (·.slot = slot) =
      if slot = .flag g then on.toNat else 0 := by
  cases on with
  | false => simp
  | true => simp [List.countP_singleton, Given.slot, eq_comm]

theorem proper_exported (a : Arguments) : Proper a.exported where
  admissible := by
    simp [exported, Given.Admissible, Flag.takesValue, Flag.spelling, or_imp, forall_and]
  once slot hslot := by
    simp only [exported, List.countP_append, countP_slot_assigned, countP_slot_switched]
    cases slot with
    | positional => simp
    | flag f =>
      cases f
      case schema | excludeSchema | table | excludeTable | excludeTableData => cases hslot
      all_goals simp [Option.length_toList_le, Bool.toNat_le]

theorem map_text_assigned (f : Flag) (texts : List String) :
    (texts.map (Given.assigned f)).map Given.text = texts.map f.assign := List.map_map

theorem map_text_switched (f : Flag) (on : Bool) :
    (if on then [Given.switched f] else []).map Given.text = if on then [f.dashed] else [] := by
  cases on <;> rfl

/-- The client tools and the command line spell the flags alike. -/
theorem text_exported (a : Arguments) :
    a.exported.map Given.text =
      a.configuration.exporting.sectionArgs
        ++ a.excludeTableData.map ("--exclude-table-data=" ++ ·) := by
  simp only [exported, List.map_append, map_text_assigned, map_text_switched,
    ExportOptions.sectionArgs, ExportOptions.baseArgs, configuration, connection,
    objectFilters_eq, Option.toList_map, List.append_assoc]
  rfl

/-! ## Reading the sets -/

/-- The flags for the export tool are read back as what the tools are told. -/
theorem parse_exported (a : Arguments) :
    parse ((a.configuration.exporting.sectionArgs
        ++ a.excludeTableData.map ("--exclude-table-data=" ++ ·)).map Bytes.ofString) =
      .ok a.forTools := by
  rw [← text_exported, List.map_map, ← gathered_exported]
  exact parse_tokens (proper_exported a)

theorem configuration_forTools (a : Arguments) :
    a.forTools.configuration.exporting = a.configuration.exporting ∧
      a.forTools.configuration.querying = a.configuration.querying := by
  have hconnection : a.forTools.connection = a.connection := by
    have hdatabase : a.forTools.database = a.database := by
      simp [database, forTools]
    rw [connection, hdatabase]
    rfl
  constructor
  · simp only [configuration, hconnection]
    rfl
  · simp only [configuration, hconnection]
    rfl

/-- The flags for a section are those of arguments that leave out no data. -/
theorem parse_sectionArgs (a : Arguments) :
    parse (a.configuration.exporting.sectionArgs.map Bytes.ofString) =
      .ok ({ a with excludeTableData := [] } : Arguments).forTools := by
  have hread := parse_exported { a with excludeTableData := [] }
  rw [List.map_nil, List.append_nil] at hread
  exact hread

/-- The arguments that leave out the tables whose data the given ones leave out. -/
def discovering (a : Arguments) : Arguments :=
  { a with excludeTables := a.excludeTables ++ a.excludeTableData, excludeTableData := [] }

theorem dataDiscoveryArgs_eq (a : Arguments) :
    a.configuration.exporting.dataDiscoveryArgs =
      a.discovering.configuration.exporting.sectionArgs := by
  simp only [ExportOptions.dataDiscoveryArgs, ExportOptions.sectionArgs, configuration,
    objectFilters_eq, discovering, List.map_append, List.append_assoc]
  rfl

theorem parse_dataDiscoveryArgs (a : Arguments) :
    parse (a.configuration.exporting.dataDiscoveryArgs.map Bytes.ofString) =
      .ok ({ a.discovering with excludeTableData := [] } : Arguments).forTools := by
  rw [dataDiscoveryArgs_eq]
  exact parse_sectionArgs a.discovering

/-- The arguments without patterns on schemas and tables. -/
def unrestricted (a : Arguments) : Arguments :=
  { a with schemas := [], excludeSchemas := [], tables := [], excludeTables := [] }

/-- The flags for the sequence values have no patterns on schemas and tables. -/
theorem parse_sequenceArgs (a : Arguments) :
    parse (a.configuration.exporting.sequenceArgs.map Bytes.ofString) =
      .ok a.unrestricted.forTools := by
  have hsame : a.configuration.exporting.sequenceArgs =
      a.unrestricted.configuration.exporting.sectionArgs
        ++ a.unrestricted.excludeTableData.map ("--exclude-table-data=" ++ ·) := by
    have hnone : a.unrestricted.objectFilters = [] := rfl
    simp only [ExportOptions.sectionArgs, configuration, hnone, List.append_nil]
    rfl
  rw [hsame]
  exact parse_exported a.unrestricted

/-- Whether the flags that options make, read as a command line, make the same flags again. -/
def ReadsBack (flags again : ExportOptions → List String) (options : ExportOptions) : Prop :=
  ∃ a : Arguments, parse ((flags options).map Bytes.ofString) = .ok a ∧
    again a.configuration.exporting = flags options

theorem readsBack_sectionArgs (a : Arguments) :
    ReadsBack ExportOptions.sectionArgs ExportOptions.sectionArgs a.configuration.exporting := by
  refine ⟨_, parse_sectionArgs a, ?_⟩
  rw [(configuration_forTools _).1]
  rfl

theorem readsBack_dataDiscoveryArgs (a : Arguments) :
    ReadsBack ExportOptions.dataDiscoveryArgs ExportOptions.sectionArgs
      a.configuration.exporting := by
  refine ⟨_, parse_dataDiscoveryArgs a, ?_⟩
  rw [(configuration_forTools _).1]
  exact (dataDiscoveryArgs_eq a).symm

theorem readsBack_sequenceArgs (a : Arguments) :
    ReadsBack ExportOptions.sequenceArgs ExportOptions.sequenceArgs a.configuration.exporting := by
  refine ⟨_, parse_sequenceArgs a, ?_⟩
  rw [(configuration_forTools _).1]
  rfl

/-- What the reader and the client tools make of a command line in which every flag with a value
holds it behind an equals sign. The sets are the values of each flag, in the order of the flags, and
so another order of the arguments changes nothing if the values of each flag stay in order. The
flags for a section, with those that leave out data, read as a command line, give the options of
both tools again. Each set for the export tool is read back by itself too, those that find the
tables with data as the flags for a section. -/
theorem parse_sets {line : List Given} (h : Proper line) :
    ∃ a : Arguments, parse (line.map Given.token) = .ok a ∧
      a.configuration.exporting.sectionArgs =
        connectionOf line ++ encodingOf line ++ filtersOf line ∧
      a.configuration.exporting.dataDiscoveryArgs =
        connectionOf line ++ encodingOf line ++ filtersOf line
          ++ (values .excludeTableData line).map ("--exclude-table=" ++ ·) ∧
      a.configuration.exporting.sequenceArgs =
        connectionOf line ++ encodingOf line
          ++ (values .excludeTableData line).map ("--exclude-table-data=" ++ ·) ∧
      a.configuration.querying.args =
        ["--quiet", "--tuples-only", "--no-align", "--no-psqlrc"] ++ connectionOf line ∧
      (∀ other : List Given, other.Perm line →
        (∀ f : Flag, f.repeatable = true → values f other = values f line) →
        parse (other.map Given.token) = .ok a) ∧
      (∃ again : Arguments,
        parse ((a.configuration.exporting.sectionArgs
          ++ (values .excludeTableData line).map ("--exclude-table-data=" ++ ·)).map
            Bytes.ofString) = .ok again ∧
        again.configuration.exporting = a.configuration.exporting ∧
        again.configuration.querying = a.configuration.querying) ∧
      ReadsBack ExportOptions.sectionArgs ExportOptions.sectionArgs a.configuration.exporting ∧
      ReadsBack ExportOptions.dataDiscoveryArgs ExportOptions.sectionArgs
        a.configuration.exporting ∧
      ReadsBack ExportOptions.sequenceArgs ExportOptions.sequenceArgs
        a.configuration.exporting := by
  refine ⟨gathered line, parse_tokens h, sectionArgs_gathered h, dataDiscoveryArgs_gathered h,
    sequenceArgs_gathered h, querying_gathered h, fun other hperm hsame => ?_,
    ⟨_, parse_exported (gathered line), configuration_forTools _⟩, readsBack_sectionArgs _,
    readsBack_dataDiscoveryArgs _, readsBack_sequenceArgs _⟩
  rw [parse_tokens (h.perm hperm), gathered_perm h hperm hsame]

/-- A line with values that are empty, hold an equals sign or begin with dashes. -/
def oddLine : List Given :=
  [.assigned .table "--a=b", .named "shop", .assigned .excludeTableData "", .switched .noPassword,
    .assigned .table "", .assigned .file "-", .assigned .serverHost "h=1"]

/-- It is read as any other, also with its arguments in another order. -/
theorem parse_sets_oddLine :
    ∃ a : Arguments, Proper oddLine ∧ parse (oddLine.map Given.token) = .ok a ∧
      a.configuration.exporting.sectionArgs =
        ["--dbname=shop", "--host=h=1", "--no-password", "--table=--a=b", "--table="] ∧
      a.configuration.exporting.sequenceArgs =
        ["--dbname=shop", "--host=h=1", "--no-password", "--exclude-table-data="] ∧
      parse ([.assigned .serverHost "h=1", .assigned .table "--a=b", .assigned .table "",
        .assigned .file "-", .named "shop", .switched .noPassword,
        .assigned .excludeTableData ""].map Given.token) = .ok a := by
  have hproper : Proper oddLine := by
    constructor
    · simp [oddLine, Given.Admissible, Flag.takesValue, Flag.spelling]
    · rintro (f | _) hslot
      · cases f <;> first | decide | exact absurd hslot (by decide)
      · decide
  obtain ⟨a, hread, hsection, -, hsequences, -, horder, -⟩ := parse_sets hproper
  refine ⟨a, hproper, hread, hsection.trans (by decide), hsequences.trans (by decide),
    horder _ ?_ ?_⟩
  · decide
  · intro f hf
    cases f <;> decide

end MaskedDump.Arguments
