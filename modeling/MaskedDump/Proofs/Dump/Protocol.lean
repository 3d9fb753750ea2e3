import MaskedDump.Dump.Script
import MaskedDump.Proofs.Run.Steps

/-!
# The protocol of a dump

Which calls a dump makes, in which order, and what it writes between them. All of it is laid down by
the answers to the calls: the schemas to leave out by the answer to the first one, the tables by the
pre-data section, the sequences by their listing. Definitions and answers that are asked for as a
whole are written when they are there; rows and sequence values are streamed.

Every call and text has its place: which activity it is, and to the block of which table it belongs.
Two of them are no activity of their own, the copy of a table and the line feed behind the
definitions.

`Dialogue.steps` is what a dump does, given the answers, `Dialogue.plan` the same without the
places, and `Dialogue.summary` what is reported of it.
-/

namespace MaskedDump

/-! ## What answers say -/

namespace Catalog

/-- The schema of the masking views, as a reply tells it. -/
def maskOfReply (reply : Bytes) : Option Identifier :=
  if (Bytes.trim reply).isEmpty then none else some ⟨Bytes.trim reply⟩

/-- The schemas to leave out, as a reply tells them. -/
def excludedOfReply (reply : Bytes) : List Identifier := excludedWith (maskOfReply reply)

end Catalog

namespace PreData

/-- What the exports of the section say: the first one, and the second one if it was made. -/
def ofExports (filter : ExtensionFilter) (raw : Bytes) (second : Option Bytes) : PreData :=
  let ddl := (filter.apply raw).text
  let tables := Discovery.tables ddl
  { ddl
    tables
    dataTables :=
      match second with
      | none => tables
      | some second => tables.filter (· ∈ Discovery.tables second)
    sequences := Discovery.sequences ddl }

/-- The tables that get data, in the order in which the definitions create them. -/
theorem dataTables_ofExports (filter : ExtensionFilter) (raw : Bytes)
    (second : Option Bytes) :
    (ofExports filter raw second).dataTables =
      (Discovery.tables (filter.apply raw).text).filter fun table =>
        second.all fun text => table ∈ Discovery.tables text := by
  cases second with
  | none => exact (List.filter_eq_self.mpr fun _ _ => rfl).symm
  | some second => simp [ofExports]

end PreData

/-! ## Steps of the phases -/

/-- The exports of the pre-data section. The second one is made if the data of some tables is left
out. -/
def PreData.steps (options : ExportOptions) (excluded : List Identifier)
    (first second : Except Failure Bytes) : List Step :=
  { event := .call (.dump (Section.preData.args excluded options.sectionArgs) first)
    activity? := some .dumpPreData }
    :: if options.hasExcludedTableData then
        [{ event := .call (.dump (Section.preData.args excluded options.dataDiscoveryArgs) second)
           activity? := some .listDataTables }]
      else []

/-- What is known of the pre-data section behind its exports. -/
def PreData.ofAnswers (options : ExportOptions) (filter : ExtensionFilter)
    (first second : Except Failure Bytes) : PreData :=
  .ofExports filter (answered first)
    (if options.hasExcludedTableData then some (answered second) else none)

/-- The answers about a table: to the lookup of its masks, and its rows. -/
structure TableAnswers where
  table : Identifier
  masks : Except Failure Bytes
  rows : Delivery

namespace TableAnswers

/-- The block of a table. Its header is written once its masks are known, and its terminator once
its rows have come to their end. The copy is no activity of its own. -/
def steps (answers : TableAnswers) : List Step :=
  [{ event := .call (.query (Catalog.maskFiltersQuery answers.table) answers.masks)
     table? := some answers.table
     activity? := some (.lookUpMasks answers.table) },
    { event := .text (MaskedData.header answers.table)
      table? := some answers.table
      activity? := some .writeCopyHeader },
    { event := .call (.copyOut
        (MaskedData.copyStatement (Catalog.columnsOfReply (answered answers.masks)) answers.table)
        answers.rows)
      table? := some answers.table },
    { event := .text MaskedData.terminator
      table? := some answers.table
      activity? := some .writeCopyTerminator }]

/-- The block as it stands in the dump. -/
def block (answers : TableAnswers) : Bytes :=
  MaskedData.header answers.table ++ answers.rows.bytes ++ MaskedData.terminator

end TableAnswers

/-- The listing of the sequences, and the export of their values if some sequence is kept. -/
def SequenceState.steps (options : ExportOptions) (excluded declared : List Identifier)
    (listing : Except Failure Bytes) (values : Delivery) : List Step :=
  let sequences := kept options declared (Catalog.sequencesOfReply (answered listing))
  { event := .call (.query (Catalog.sequencesQuery excluded) listing)
    activity? := some .listSequences }
    :: if sequences.isEmpty then []
      else [{ event := .call (.dumpInto (args options sequences) values)
              activity? := some .dumpSequenceState }]

/-- The post-data section. -/
def Script.postDataSteps (options : ExportOptions) (excluded : List Identifier)
    (raw : Except Failure Bytes) : List Step :=
  [{ event := .call (.dump (Section.postData.args excluded options.sectionArgs) raw)
     activity? := some .dumpPostData },
    { event := .text (ExtensionFilter.masking.apply (answered raw)).text
      activity? := some .writePostData }]

/-- What is reported of a whole dump. -/
def Script.summaryOf (version : String) (preData : PreData) (data : DataSummary) (sequences : Nat) :
    Summary where
  anonVersion := version
  tables := data.tables
  tablesWithoutData := preData.tables.length - preData.dataTables.length
  sequences
  dataBytes := data.bytes

/-! ## Dialogues -/

/-- The answers to all calls of a dump. -/
structure Dialogue (options : ExportOptions) where
  maskSchema : Except Failure Bytes
  preData : Except Failure Bytes
  discovery : Except Failure Bytes
  tables : List TableAnswers
  listing : Except Failure Bytes
  values : Delivery
  postData : Except Failure Bytes
  /-- The tables with data are asked about, in the order of their definitions. -/
  covers : tables.map TableAnswers.table =
    (PreData.ofAnswers options ExtensionFilter.masking preData discovery).dataTables

namespace Dialogue

variable {options : ExportOptions} (d : Dialogue options)

/-- The schemas to leave out. -/
def excluded : List Identifier := Catalog.excludedOfReply (answered d.maskSchema)

/-- The pre-data section. -/
def found : PreData := .ofAnswers options ExtensionFilter.masking d.preData d.discovery

/-- The steps before the data. The line feed behind the definitions is no activity of its own. -/
def headSteps (version : String) : List Step :=
  [{ event := .call (.query Catalog.maskSchemaQuery d.maskSchema)
     activity? := some .readMaskSchema },
    { event := .text (Script.banner version), activity? := some .writeBanner }]
    ++ PreData.steps options d.excluded d.preData d.discovery
    ++ [{ event := .text d.found.ddl, activity? := some .writePreData },
      { event := .text [Bytes.lineFeed] }]

/-- The steps behind the data. -/
def tailSteps : List Step :=
  SequenceState.steps options d.excluded d.found.sequences d.listing d.values
    ++ Script.postDataSteps options d.excluded d.postData

/-- The steps of a dump, in their order. -/
def steps (version : String) : List Step :=
  d.headSteps version ++ d.tables.flatMap TableAnswers.steps ++ d.tailSteps

/-- The calls and texts of a dump, in their order. -/
def plan (version : String) : List Event := eventsOf (d.steps version)

/-- What is reported of a dump. -/
def summary (version : String) : Summary :=
  Script.summaryOf version d.found
    ⟨d.found.dataTables.length, (d.tables.flatMap (·.rows.bytes)).length⟩
    (SequenceState.kept options d.found.sequences
      (Catalog.sequencesOfReply (answered d.listing))).length

end Dialogue

end MaskedDump
