import MaskedDump.Catalog

/-!
# Masked data

One block of rows for each table, in the order of discovery. A block is a `COPY` header, the rows as
the query tool streams them, and a terminator. The columns that mask a table are looked up right
before its rows are streamed. Rows are taken from the table alone: children and partitions have
blocks of their own.
-/

namespace MaskedDump

/-- What the data phase wrote. -/
structure DataSummary where
  tables : Nat
  bytes : Nat
  deriving DecidableEq, Repr

namespace MaskedData

variable {σ : Type}

/-- The line that opens the block of a table. -/
def header (table : Identifier) : Bytes :=
  Bytes.ofString "COPY " ++ table.bytes ++ Bytes.ofString " FROM STDIN WITH CSV;\n"

/-- The lines that close a block. -/
def terminator : Bytes := Bytes.ofString "\\.\n\n"

/-- The statement that streams the masked rows of a table. -/
def copyStatement (columns : Bytes) (table : Identifier) : Bytes :=
  Bytes.ofString "COPY (SELECT " ++ columns ++ Bytes.ofString " FROM ONLY " ++ table.bytes
    ++ Bytes.ofString ") TO STDOUT WITH CSV"

/-- Writes the block of a table, and counts the bytes of its rows. -/
def copyTable (c : Collaborators σ) (table : Identifier) : Run σ Nat := do
  let columns ← Catalog.maskFilters c table
  Run.during .writeCopyHeader (Run.write (header table))
  let count ← Run.copyOut c (copyStatement columns table)
  Run.during .writeCopyTerminator (Run.write terminator)
  return count

/-- Writes the blocks of the tables from the `number`-th of `total` on, and counts the bytes of
their rows. The first table that fails is named and ends the work. -/
def copyTables (c : Collaborators σ) (total : Nat) : Nat → List Identifier → Run σ Nat
  | _, [] => pure 0
  | number, table :: rest => do
    Run.say .info .data
      ("Exporting masked data " ++ Text.decimal number ++ "/" ++ Text.decimal total ++ ": "
        ++ table.sanitized)
    let count ← Run.under (.tableExport table.sanitized) (copyTable c table)
    let more ← copyTables c total (number + 1) rest
    return count + more

/-- Writes the block of every table. -/
def stream (c : Collaborators σ) (tables : List Identifier) : Run σ DataSummary := do
  let bytes ← copyTables c tables.length 1 tables
  return ⟨tables.length, bytes⟩

end MaskedData

end MaskedDump
