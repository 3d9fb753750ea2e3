import MaskedDump.Identifier
import MaskedDump.Sql.Name

/-!
# Discovery of tables and sequences

The pre-data section of a dump says which tables and sequences it creates. Discovery scans the text
from left to right: at every line start it tests for a header, notes the name in it, and resumes
just behind the header. Each name is listed once, where it is first met, so that data is loaded in
the order in which the tables were created.
-/

namespace MaskedDump.Discovery

/-- A header found at the head of a text: the name in it and the number of bytes that it takes. -/
structure Header where
  name : Bytes
  length : Nat
  deriving DecidableEq, Repr

/-- A name at the head of a text that `lead` bytes came before, when it ends as `ended` asks. The
test says how many bytes of the rest belong to the header, or that the name does not end there. -/
def header? (ended : Bytes → Option Nat) (lead : Nat) (text : Bytes) : Option Header :=
  match Sql.name? text with
  | none => none
  | some (name, after) => (ended after).map fun more => ⟨name, lead + name.length + more⟩

/-! ## Tables -/

/-- The openings of a statement that creates a table with rows of its own. -/
def tableOpenings : List Bytes :=
  [Bytes.ofString "CREATE TABLE ", Bytes.ofString "CREATE UNLOGGED TABLE "]

/-- A table name ends before a space, which belongs to the header, before a line feed, which does
not, and at the end of the text. -/
def tableNameEnd : Bytes → Option Nat
  | [] => some 0
  | b :: _ => if b = Bytes.space then some 1 else if b = Bytes.lineFeed then some 0 else none

/-- The header of a table at the head of a text. -/
def tableHeader? (text : Bytes) : Option Header :=
  tableOpenings.findSome? fun opening =>
    (Bytes.after? opening text).bind (header? tableNameEnd opening.length)

/-! ## Sequences -/

/-- The opening of a statement that creates a sequence. -/
def sequenceOpening : Bytes := Bytes.ofString "CREATE SEQUENCE "

/-- The opening of the clause that names the sequence of an identity column. -/
def sequenceClause : Bytes := Bytes.ofString "SEQUENCE NAME "

/-- A sequence name ends before a space byte, a line feed among them, which belongs to the header,
and at the end of the text. -/
def sequenceNameEnd : Bytes → Option Nat
  | [] => some 0
  | b :: _ => if Bytes.isSpace b then some 1 else none

/-- The header of a sequence at the head of a text. The clause of an identity column may be
indented, also over several lines. -/
def sequenceHeader? (text : Bytes) : Option Header :=
  match (Bytes.after? sequenceOpening text).bind
      (header? sequenceNameEnd sequenceOpening.length) with
  | some found => some found
  | none =>
    let indent := (text.takeWhile Bytes.isSpace).length
    (Bytes.after? sequenceClause (text.dropWhile Bytes.isSpace)).bind
      (header? sequenceNameEnd (indent + sequenceClause.length))

/-! ## The scan -/

/-- The names of the headers in a text. The first `skip` bytes belong to a header already found, and
`fresh` says that the text begins at a line start. -/
def scan (test : Bytes → Option Header) : Nat → Bool → Bytes → List Bytes
  | _, _, [] => []
  | skip + 1, _, b :: rest => scan test skip (b == Bytes.lineFeed) rest
  | 0, false, b :: rest => scan test 0 (b == Bytes.lineFeed) rest
  | 0, true, b :: rest =>
    match test (b :: rest) with
    | some found => found.name :: scan test (found.length - 1) (b == Bytes.lineFeed) rest
    | none => scan test 0 (b == Bytes.lineFeed) rest

/-- The names that a scan meets, each once. -/
def names (test : Bytes → Option Header) (ddl : Bytes) : List Identifier :=
  (scan test 0 true ddl).eraseDups.map Identifier.mk

/-- The tables created by a text, in order of appearance. -/
def tables (ddl : Bytes) : List Identifier := names tableHeader? ddl

/-- The sequences created by a text, in order of appearance. -/
def sequences (ddl : Bytes) : List Identifier := names sequenceHeader? ddl

end MaskedDump.Discovery
