import MaskedDump.Dump.Script

/-!
# Writing a dump to its target

A dump goes to a file or to standard output. Nothing is written, and no file is touched, unless the
masking extension is installed. What was written before a failure is kept. The bytes go through a
buffer, so a file is empty at first and grows lot by lot.
-/

namespace MaskedDump.Output

variable {σ α : Type}

/-- Opens a target. A file that stands there loses its content. -/
def opened (target : Target) (fs : FileSystem) :
    Except Failure (FileSystem.Opened × FileSystem) :=
  match target with
  | .standardOutput => .ok (.device .standardOutput, fs)
  | .file path =>
    (fs.create path).mapError fun e => (Failure.ofSystem e).under (.activity (.createFile path))

/-- How many bytes a target takes at most, if that is bounded. A device without space takes what
fits in the buffer, and one lot more. -/
def room? (target : Target) (fs : FileSystem) : Option Nat :=
  match opened target fs with
  | .ok (.device .full, _) => some (2 * Buffer.capacity)
  | _ => none

/-- Does some work with the target as its sink. The target settles at the end also when the work
failed, and then the failure of the work is the one that counts. -/
def writeTo (target : Target) (work : Run σ α) : Run σ α := fun w =>
  match opened target w.files with
  | .error failure => (.error failure, w)
  | .ok (outlet, files) =>
    let (result, after) := work { w with files, sink := Sink.ofOpened outlet }
    let (settled, after) := Run.during .flushOutput Run.settle after
    (result.bind fun a => settled.map fun () => a, { after with sink := w.sink })

/-- Makes an anonymized dump. -/
def anonymizedDump (c : Collaborators σ) (options : ExportOptions) (target : Target) :
    Run σ Summary := do
  Run.say .info .command "Checking for the anon extension..."
  let version ← Catalog.anonVersion c
  Run.say .info .command ("✓ anon extension " ++ version ++ " is installed")
  let summary ← writeTo target (Script.write c options version)
  Run.say .info .command
    ("✅ Anonymized dump complete: " ++ Text.decimal summary.tables ++ " table(s) with data, "
      ++ Text.decimal summary.tablesWithoutData ++ " without, "
      ++ Text.decimal summary.sequences ++ " sequence(s), "
      ++ Text.decimal summary.dataBytes ++ " byte(s) of masked data")
  return summary

end MaskedDump.Output
