import MaskedDump.Dump.Output
import MaskedDump.Dump.Section
import MaskedDump.Options.Sets
import MaskedDump.Program.Outcome

/-!
# The client tools

The collaborators of a dump as they are installed: `psql` answers statements and `pg_dump` exports.
Both must be on the search path before a dump begins. How they are called is laid down here; what
becomes of a call is left to the launcher.
-/

namespace MaskedDump.ClientTools

open Program

/-- The query tool. -/
def queryTool : String := "psql"

/-- The export tool. -/
def exportTool : String := "pg_dump"

/-- The tools that a dump needs. -/
def required : List String := [queryTool, exportTool]

/-! ## Calls -/

/-- The call that runs a statement. -/
def queryCall (options : QueryOptions) (sql : Bytes) : Invocation :=
  { program := queryTool
    args := flagArgument "--command" sql :: options.args.map Bytes.ofString
    environment := options.environment }

/-- The call that exports. -/
def exportCall (args : List Bytes) : Invocation := { program := exportTool, args }

/-- Takes the output of a call as a whole. -/
def capture (launch : Launcher) (call : Invocation) (fs : FileSystem) : Reply × FileSystem :=
  let (outcome, fs) := launch none call fs
  ({ log := [announcement "Running" call], result := captured call.program outcome }, fs)

/-- Takes the output of a call as a stream that goes where there is only some room, if that is
bounded. -/
def stream (launch : Launcher) (room : Option Nat) (call : Invocation) (fs : FileSystem) :
    Delivery × FileSystem :=
  let (outcome, fs) := launch room call fs
  ({ streamed call.program outcome with log := [announcement "Streaming" call] }, fs)

/-- The installed tools, with streams that go where there is only some room, if that is bounded. All
that the tools know is in files. What is asked for as a whole is taken whole, and a statement's
result has no line end. -/
def responder (launch : Launcher) (room : Option Nat) (options : QueryOptions) :
    Responder FileSystem where
  query sql fs :=
    let (reply, fs) := capture launch (queryCall options sql) fs
    ({ reply with result := reply.result.map Bytes.dropLineEnd }, fs)
  copyOut sql := stream launch room (queryCall options sql)
  dump args := capture launch (exportCall args)
  dumpInto args := stream launch room (exportCall args)

/-! ## The check -/

/-- The required tools that are not installed. -/
def missing (fs : FileSystem) (searchPath : List Place) : List String :=
  required.filter fun tool =>
    !searchPath.any fun directory => fs.isProgram (directory ++ [Bytes.ofString tool])

/-- Fails unless the required tools are installed. -/
def check {σ : Type} (searchPath : List Place) : Run σ Unit := do
  let tools := missing (← get).files searchPath
  if !tools.isEmpty then throw (.ofCause (.missingTools tools))

/-- Checks the tools and makes an anonymized dump with them. -/
def dump {σ : Type} (launch : Launcher) (searchPath : List Place) (config : Configuration) :
    Run σ Summary := do
  check searchPath
  let room := Output.room? config.target (← get).files
  let c := (responder launch room config.querying).amongFiles
  Output.anonymizedDump c config.exporting config.target

end MaskedDump.ClientTools
