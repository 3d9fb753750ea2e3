import MaskedDump.Dump.MaskedData
import MaskedDump.Dump.PreData
import MaskedDump.Dump.SequenceState

/-!
# The dump script

A script that loads into an empty database: a banner, the definitions needed before data, the masked
rows of each table, the values of the sequences, and last the indexes, constraints and triggers.
-/

namespace MaskedDump

/-- What a dump held: tables with data, tables whose data was left out, sequences, and the bytes of
the masked rows. -/
structure Summary where
  anonVersion : String
  tables : Nat
  tablesWithoutData : Nat
  sequences : Nat
  dataBytes : Nat
  deriving DecidableEq, Repr

namespace Script

variable {σ : Type}

/-- The name in the banner. -/
def productName : String := "PostgreSQL Anonymizer"

/-- The comment at the head of a script. -/
def banner (version : String) : Bytes :=
  Bytes.ofString ("--\n-- Dump generated by " ++ productName ++ " " ++ version ++ "\n--\n")

/-- Writes the definitions that come after the data. -/
def writePostData (c : Collaborators σ) (options : ExportOptions) (excluded : List Identifier)
    (filter : ExtensionFilter) : Run σ Unit := do
  Run.say .info .tail "Dumping post-data section..."
  let raw ← Run.during .dumpPostData
    (Run.dump c (Section.postData.args excluded options.sectionArgs))
  Run.during .writePostData (Run.write (filter.apply raw).text)
  Run.say .info .tail "✓ Post-data section dumped"

/-- Writes a whole script to the sink. -/
def write (c : Collaborators σ) (options : ExportOptions) (version : String) : Run σ Summary := do
  let excluded ← Catalog.excludedSchemas c
  Run.during .writeBanner (Run.write (banner version))
  Run.say .info .command "Step 1/4: Dumping schema..."
  let preData ← PreData.dump c options excluded ExtensionFilter.masking
  Run.during .writePreData (Run.write preData.ddl)
  Run.write [Bytes.lineFeed]
  Run.say .info .command
    ("Step 2/4: Exporting masked data for " ++ Text.decimal preData.dataTables.length
      ++ " table(s)...")
  let data ← MaskedData.stream c preData.dataTables
  Run.say .info .command "Step 3/4: Dumping sequence state..."
  let sequences ← SequenceState.dump c options excluded preData.sequences
  Run.say .info .command "Step 4/4: Dumping post-data section..."
  writePostData c options excluded ExtensionFilter.masking
  return {
    anonVersion := version
    tables := data.tables
    tablesWithoutData := preData.tables.length - preData.dataTables.length
    sequences
    dataBytes := data.bytes }

end Script

end MaskedDump
