import MaskedDump.Catalog
import MaskedDump.Dump.Section
import MaskedDump.Options.Sets

/-!
# Sequence values

The value of every sequence is exported by name: an export of data alone that names no sequence
would hold all rows of the database. When object filters are given, only sequences that the pre-data
section declares are kept, so that no value is set for a sequence that the script never creates.
-/

namespace MaskedDump.SequenceState

variable {σ : Type}

/-- The sequences whose values are exported. -/
def kept (options : ExportOptions) (declared listed : List Identifier) : List Identifier :=
  if options.hasObjectFilters then listed.filter (· ∈ declared) else listed

/-- The arguments that export the values of some sequences. -/
def args (options : ExportOptions) (sequences : List Identifier) : List Bytes :=
  Bytes.ofString "--data-only"
    :: sequences.map (fun s => flagArgument "--table" s.bytes)
    ++ options.sequenceArgs.map Bytes.ofString

/-- Writes the values of the sequences, and counts the sequences. Without any, nothing is exported.
-/
def dump (c : Collaborators σ) (options : ExportOptions) (excluded declared : List Identifier) :
    Run σ Nat := do
  let listed ← Catalog.listSequences c excluded
  let sequences := kept options declared listed
  if sequences.isEmpty then
    Run.say .info .tail "No sequences to dump"
    return 0
  Run.say .info .tail
    ("Dumping state of " ++ Text.decimal sequences.length ++ " sequence(s)...")
  let _ ← Run.during .dumpSequenceState (Run.dumpInto c (args options sequences))
  Run.say .info .tail "✓ Sequence state dumped"
  return sequences.length

end MaskedDump.SequenceState
