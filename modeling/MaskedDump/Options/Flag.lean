/-!
# Flags of the command line

The flags that make sense for an anonymized plain-text dump, with their spellings. One table serves
two readers: the parser of the command line and the usage text. The short `-h` is the host, so help
is asked for by `--help` alone.
-/

namespace MaskedDump

/-- A flag of the command line. -/
inductive Flag
  | dbname | serverHost | serverPort | username | noPassword | password | encoding
  | schema | excludeSchema | table | excludeTable | excludeTableData
  | file | verbose | help | version
  deriving DecidableEq, Repr

namespace Flag

/-- How a flag is spelled and explained. A flag with a `metavar` takes a value. -/
structure Spelling where
  short : Option Char
  long : String
  metavar : Option String
  about : String

/-- The spelling of each flag. -/
def spelling : Flag → Spelling
  | dbname => ⟨'d', "dbname", "DBNAME", "Database to dump (name or connection string)"⟩
  | serverHost => ⟨'h', "host", "HOSTNAME", "Database server host or socket directory"⟩
  | serverPort => ⟨'p', "port", "PORT", "Database server port number"⟩
  | username => ⟨'U', "username", "NAME", "Connect as specified database user"⟩
  | noPassword => ⟨'w', "no-password", none, "Never prompt for password"⟩
  | password => ⟨'W', "password", none, "Force password prompt"⟩
  | encoding => ⟨'E', "encoding", "ENCODING", "Dump the data in encoding ENCODING"⟩
  | schema => ⟨'n', "schema", "PATTERN", "Dump the specified schema(s) only"⟩
  | excludeSchema => ⟨'N', "exclude-schema", "PATTERN", "Do NOT dump the specified schema(s)"⟩
  | table => ⟨'t', "table", "PATTERN", "Dump the specified table(s) only"⟩
  | excludeTable => ⟨'T', "exclude-table", "PATTERN", "Do NOT dump the specified table(s)"⟩
  | excludeTableData =>
    ⟨none, "exclude-table-data", "PATTERN", "Do NOT dump data for the specified table(s)"⟩
  | file => ⟨'f', "file", "FILENAME", "Output file name (defaults to standard output)"⟩
  | verbose => ⟨'v', "verbose", none, "Log progress on standard error"⟩
  | help => ⟨none, "help", none, "Print help"⟩
  | version => ⟨'V', "version", none, "Print version"⟩

/-- Every flag, in the order of the usage text. -/
def all : List Flag :=
  [dbname, serverHost, serverPort, username, noPassword, password, encoding, schema, excludeSchema,
    table, excludeTable, excludeTableData, file, verbose, help, version]

/-- The flag with a given long name, spelled out in full. -/
def ofLong? (name : String) : Option Flag := all.find? (·.spelling.long == name)

/-- The flag with a given letter. -/
def ofShort? (letter : Char) : Option Flag := all.find? (·.spelling.short == some letter)

/-- Whether a flag takes a value. -/
def takesValue (f : Flag) : Bool := f.spelling.metavar.isSome

/-- The flag with its dashes. -/
def dashed (f : Flag) : String := "--" ++ f.spelling.long

/-- The flag with its dashes and the name of its value. -/
def signature (f : Flag) : String :=
  match f.spelling.metavar with
  | none => f.dashed
  | some metavar => f.dashed ++ " <" ++ metavar ++ ">"

/-! ## Usage -/

/-- The name of the program. -/
def programName : String := "pg_dump_anon"

/-- The text that answers `--version`. -/
def versionText : String := programName ++ " 1.0.0\n"

/-- The left column of a flag's line in the usage text. -/
def usageColumn (f : Flag) : String :=
  match f.spelling.short with
  | some letter => "  -" ++ String.ofList [letter] ++ ", " ++ f.signature
  | none => "      " ++ f.signature

/-- The width of the left column, two spaces behind its longest entry. -/
def usageWidth : Nat := (all.map (·.usageColumn.length)).foldl max 0 + 2

/-- A flag's line in the usage text. -/
def usageLine (f : Flag) : String :=
  f.usageColumn ++ String.ofList (List.replicate (usageWidth - f.usageColumn.length) ' ')
    ++ f.spelling.about ++ "\n"

/-- The text that answers `--help`. -/
def usageText : String :=
  "Export a PostgreSQL database as an anonymized SQL dump\n\n"
    ++ "Usage: " ++ programName ++ " [OPTIONS] [DBNAME]\n\n"
    ++ "Arguments:\n  [DBNAME]  Database to dump\n\n"
    ++ "Options:\n" ++ String.join (all.map usageLine)

end Flag

end MaskedDump
