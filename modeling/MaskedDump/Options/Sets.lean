import MaskedDump.Options.Arguments

/-!
# Option sets

What the arguments of a run mean for the two client tools. Connection flags go to both tools. The
encoding and the object filters are for the export tool only; the query tool is told the encoding
through its environment, so that the rows it streams match the encoding that the script declares.

Object filters are a group of their own, because the export of sequence values must not receive
them: a table pattern there would pull unmasked rows into the dump.

The flags are spelled here as the client tools read them, apart from the table of the command line.
-/

namespace MaskedDump

/-- Options of the export tool. -/
structure ExportOptions where
  connection : List String := []
  encoding : Option String := none
  objectFilters : List String := []
  excludeTableData : List String := []
  deriving DecidableEq, Repr

namespace ExportOptions

/-- Connection and encoding. -/
def baseArgs (options : ExportOptions) : List String :=
  options.connection ++ (options.encoding.map ("--encoding=" ++ ·)).toList

/-- The arguments that export a section of the definitions. -/
def sectionArgs (options : ExportOptions) : List String :=
  options.baseArgs ++ options.objectFilters

/-- The arguments that find the tables with data: tables whose data is left out are left out
themselves, so that the export tool resolves the patterns. -/
def dataDiscoveryArgs (options : ExportOptions) : List String :=
  options.sectionArgs ++ options.excludeTableData.map ("--exclude-table=" ++ ·)

/-- The arguments that export the values of sequences. -/
def sequenceArgs (options : ExportOptions) : List String :=
  options.baseArgs ++ options.excludeTableData.map ("--exclude-table-data=" ++ ·)

/-- Whether any pattern restricts the schemas or tables of the dump. -/
def hasObjectFilters (options : ExportOptions) : Bool := !options.objectFilters.isEmpty

/-- Whether any pattern leaves out the data of tables. -/
def hasExcludedTableData (options : ExportOptions) : Bool := !options.excludeTableData.isEmpty

end ExportOptions

/-- Options of the query tool. -/
structure QueryOptions where
  args : List String
  clientEncoding : Option String
  deriving DecidableEq, Repr

namespace QueryOptions

/-- The arguments that make the query tool print bare values. -/
def bareValues : List String := ["--quiet", "--tuples-only", "--no-align", "--no-psqlrc"]

/-- The environment of the query tool. -/
def environment (options : QueryOptions) : List (String × String) :=
  (options.clientEncoding.map fun encoding => ("PGCLIENTENCODING", encoding)).toList

end QueryOptions

/-- Where the dump is written. -/
inductive Target
  | standardOutput
  | file (path : Bytes)
  deriving DecidableEq, Repr

/-- The configuration of a run. -/
structure Configuration where
  exporting : ExportOptions
  querying : QueryOptions
  target : Target
  deriving DecidableEq, Repr

namespace Arguments

/-- The database: the flag wins over the argument without a flag. -/
def database (a : Arguments) : Option String := a.dbname <|> a.positional

/-- Whether the database was named twice. -/
def databaseTwice (a : Arguments) : Bool := a.dbname.isSome && a.positional.isSome

/-- The connection flags for both tools. -/
def connection (a : Arguments) : List String :=
  (a.database.map ("--dbname=" ++ ·)).toList
    ++ (a.serverHost.map ("--host=" ++ ·)).toList
    ++ (a.serverPort.map ("--port=" ++ ·)).toList
    ++ (a.username.map ("--username=" ++ ·)).toList
    ++ (if a.noPassword then ["--no-password"] else [])
    ++ (if a.password then ["--password"] else [])

/-- The patterns on schemas and tables, in the order of their flags. -/
def objectFilters (a : Arguments) : List String :=
  [("--schema", a.schemas), ("--exclude-schema", a.excludeSchemas), ("--table", a.tables),
    ("--exclude-table", a.excludeTables)].flatMap fun (flag, patterns) =>
      patterns.map fun pattern => flag ++ "=" ++ pattern

theorem objectFilters_eq (a : Arguments) :
    a.objectFilters =
      a.schemas.map ("--schema=" ++ ·) ++ a.excludeSchemas.map ("--exclude-schema=" ++ ·)
        ++ a.tables.map ("--table=" ++ ·) ++ a.excludeTables.map ("--exclude-table=" ++ ·) := by
  simp only [objectFilters, List.flatMap_cons, List.flatMap_nil, List.append_nil, List.append_assoc]
  rfl

/-- The configuration that the arguments ask for. -/
def configuration (a : Arguments) : Configuration where
  exporting :=
    { connection := a.connection
      encoding := a.encoding
      objectFilters := a.objectFilters
      excludeTableData := a.excludeTableData }
  querying :=
    { args := QueryOptions.bareValues ++ a.connection
      clientEncoding := a.encoding }
  target :=
    match a.file with
    | some path => .file path
    | none => .standardOutput

end Arguments

end MaskedDump
