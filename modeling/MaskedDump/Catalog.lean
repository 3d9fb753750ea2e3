import MaskedDump.Run.Basic
import MaskedDump.Sql.Literal

/-!
# The catalog

What a dump asks the database: whether the masking extension is installed, where the masking views
live, how the rows of a table are masked, and which sequences there are.
-/

namespace MaskedDump.Catalog

variable {σ : Type}

/-! ## Statements -/

/-- Asks for the version of the masking extension. -/
def versionQuery : Bytes :=
  Bytes.ofString "SELECT extversion FROM pg_catalog.pg_extension WHERE extname = 'anon';"

/-- Asks for the schema of the masking views. -/
def maskSchemaQuery : Bytes :=
  Bytes.ofString "SELECT pg_catalog.current_setting('anon.maskschema', true);"

/-- Asks for the columns that mask the rows of a table. -/
def maskFiltersQuery (table : Identifier) : Bytes :=
  Bytes.ofString "SELECT anon.mask_filters(" ++ Sql.quoteLiteral table.bytes
    ++ Bytes.ofString "::REGCLASS);"

/-- The condition that leaves out the sequences of some schemas. -/
def excludingSchemas (excluded : List Identifier) : Bytes :=
  if excluded.isEmpty then []
  else
    Bytes.ofString "WHERE sequence_schema NOT IN ("
      ++ (Bytes.ofString ", ").intercalate (excluded.map fun s => Sql.quoteLiteral s.bytes)
      ++ Bytes.ofString ") "

/-- Asks for the sequences outside some schemas. -/
def sequencesQuery (excluded : List Identifier) : Bytes :=
  Bytes.ofString
      ("SELECT pg_catalog.quote_ident(sequence_schema) || '.' || "
        ++ "pg_catalog.quote_ident(sequence_name) FROM information_schema.sequences ")
    ++ excludingSchemas excluded
    ++ Bytes.ofString "ORDER BY sequence_schema, sequence_name;"

/-! ## Lookups -/

/-- The version of the masking extension. A blank reply means that it is not installed. -/
def anonVersion (c : Collaborators σ) : Run σ String := do
  let reply ← Run.during .queryExtensions (Run.query c versionQuery)
  let version := Bytes.trim reply
  if version.isEmpty then throw (.ofCause .extensionNotInstalled)
  return Utf8.display version

/-- The schema of the masking views, if one is set. -/
def maskSchema (c : Collaborators σ) : Run σ (Option Identifier) := do
  let reply ← Run.during .readMaskSchema (Run.query c maskSchemaQuery)
  let schema := Bytes.trim reply
  return if schema.isEmpty then none else some ⟨schema⟩

/-- The columns that select every column unmasked. -/
def allColumns : Bytes := Bytes.ofString "*"

/-- The columns that a reply selects: a blank reply stands for a table without masking rules. -/
def columnsOfReply (reply : Bytes) : Bytes :=
  let columns := Bytes.trim reply
  if columns.isEmpty then allColumns else columns

/-- The columns that mask the rows of a table. -/
def maskFilters (c : Collaborators σ) (table : Identifier) : Run σ Bytes := do
  let reply ← Run.during (.lookUpMasks table) (Run.query c (maskFiltersQuery table))
  return columnsOfReply reply

/-- The sequences that a reply lists: its lines without outer blanks, empty ones left out. -/
def sequencesOfReply (reply : Bytes) : List Identifier :=
  (((Bytes.pieces reply).map Bytes.trim).filter (!·.isEmpty)).map Identifier.mk

/-- The sequences outside some schemas, qualified and quoted. -/
def listSequences (c : Collaborators σ) (excluded : List Identifier) : Run σ (List Identifier) := do
  let reply ← Run.during .listSequences (Run.query c (sequencesQuery excluded))
  return sequencesOfReply reply

/-- The schema of the masking extension's own objects. -/
def anonSchema : Identifier := .ofString "anon"

/-- The schemas to leave out, given the schema of the masking views. -/
def excludedWith (mask : Option Identifier) : List Identifier :=
  anonSchema :: (mask.filter (· ≠ anonSchema)).toList

/-- The schemas that no section of a dump may hold: that of the masking extension and that of the
masking views. -/
def excludedSchemas (c : Collaborators σ) : Run σ (List Identifier) := do
  return excludedWith (← maskSchema c)

end MaskedDump.Catalog
