import MaskedDump.Catalog
import MaskedDump.Discovery
import MaskedDump.Dump.Section
import MaskedDump.ExtensionFilter
import MaskedDump.Options.Sets

/-!
# The pre-data section

The definitions that come before the data, without the extension statements, and what they say about
tables and sequences. When the data of some tables is left out, the section is exported a second
time without those tables, so that the export tool resolves the patterns; a table keeps its data
when both exports create it.
-/

namespace MaskedDump

/-- The pre-data section and what was found in it. -/
structure PreData where
  ddl : Bytes := []
  tables : List Identifier := []
  dataTables : List Identifier := []
  sequences : List Identifier := []
  deriving DecidableEq, Repr

namespace PreData

variable {σ : Type}

/-- The tables that get data. -/
def tablesWithData (c : Collaborators σ) (options : ExportOptions) (excluded : List Identifier)
    (tables : List Identifier) : Run σ (List Identifier) := do
  if options.hasExcludedTableData then
    let second ← Run.during .listDataTables
      (Run.dump c (Section.preData.args excluded options.dataDiscoveryArgs))
    let found := Discovery.tables second
    return tables.filter (· ∈ found)
  else return tables

/-- Exports the section and finds its tables and sequences. -/
def dump (c : Collaborators σ) (options : ExportOptions) (excluded : List Identifier)
    (filter : ExtensionFilter) : Run σ PreData := do
  Run.say .info .schema "Dumping pre-data section..."
  let raw ← Run.during .dumpPreData
    (Run.dump c (Section.preData.args excluded options.sectionArgs))
  let ddl := (filter.apply raw).text
  let tables := Discovery.tables ddl
  let sequences := Discovery.sequences ddl
  Run.say .info .schema
    ("Found " ++ Text.decimal tables.length ++ " table(s) in pre-data section")
  let dataTables ← tablesWithData c options excluded tables
  Run.say .info .schema "✓ Pre-data section dumped"
  return { ddl, tables, dataTables, sequences }

end PreData

end MaskedDump
