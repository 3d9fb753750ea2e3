import MaskedDump.CommandLine
import MaskedDump.Rehearsal.Rules
import MaskedDump.Rehearsal.Stage

/-!
# Rehearsal sessions

A session goes through steps of a dump one by one, on a stage, with collaborators that are installed
scripts or answer by rules. Later steps see what earlier ones left: the schemas to leave out, the
last pre-data section, the sink, and the files. A step that fails does not end the session.
-/

namespace MaskedDump.Rehearsal

open Program

/-- A step of a session. Where schemas, tables or sequences are not given, those of the session are
taken; without extensions, the masking extensions are filtered out. -/
inductive Step
  | query (sql : Bytes)
  | copyOut (sql : Bytes)
  | toolDump (args : List Bytes)
  | toolDumpInto (args : List Bytes)
  | anonVersion
  | maskSchema
  | maskFilters (table : Identifier)
  | listSequences (excluded : Option (List Identifier))
  | excludedSchemas
  | dumpPreData (excluded : Option (List Identifier)) (extensions : Option (List String))
  | streamMaskedData (tables : Option (List Identifier))
  | dumpSequences (excluded declared : Option (List Identifier))
  | dumpPostData (excluded : Option (List Identifier)) (extensions : Option (List String))
  | writeDump (version : String)
  | anonymizedDump
  | installedDump
  | checkRequiredTools
  | runCaptured (call : Invocation)
  | runStreamed (call : Invocation)

/-- What a step results in. -/
inductive Value
  | nothing
  | count (n : Nat)
  | text (s : String)
  | bytes (bs : Bytes)
  | identifier? (name : Option Identifier)
  | identifiers (names : List Identifier)
  | preData (found : PreData)
  | data (summary : DataSummary)
  | summary (summary : Summary)

/-- What a step showed: its result, what it added to the sink and to standard output, the calls that
it made, and what it logged. -/
structure Answer where
  result : Except Failure Value
  written : Bytes
  standardOutput : Bytes
  calls : List Call
  log : List Log.Entry

/-- A session between two steps. -/
structure Session where
  world : World Rules
  config : Configuration
  /-- Whether the rules play the collaborators. -/
  ruled : Bool
  excluded : List Identifier := []
  preData : PreData := {}

namespace Session

/-- A session before its first step. The rules play the collaborators unless the scripts do. What is
to be said about the arguments is in the log already. -/
def start (arguments : Arguments) (props : Props) (rules : Option Rules)
    (sinkLimit : Option Nat) : Session :=
  { world :=
      { tools := rules.getD {}
        files := Stage.build props
        sink := { backing := .memory sinkLimit }
        log := CommandLine.warnings arguments }
    config := arguments.configuration
    ruled := rules.isSome }

/-- How the scripts are called. -/
def launch : Launcher := (Stage.machine []).invoke

/-- The collaborators. Scripts stream to where there is only some room, if that is bounded. -/
def collaborators (s : Session) (room : Option Nat) : Collaborators Rules :=
  if s.ruled then Rules.responder.amongTools
  else (ClientTools.responder launch room s.config.querying).amongFiles

/-- The filter for some extensions, or that for the masking extensions. -/
def filterOf (extensions : Option (List String)) : ExtensionFilter :=
  match extensions with
  | some names => ExtensionFilter.ofExtensions names
  | none => ExtensionFilter.masking

/-- Calls a program and takes its output as a whole. -/
def runCaptured (call : Invocation) : Run Rules Bytes := fun w =>
  let (reply, files) := ClientTools.capture launch call w.files
  (reply.result, { w with files, log := w.log ++ reply.log })

/-- Calls a program and takes its output as a stream. -/
def runStreamed (call : Invocation) : Run Rules Nat := fun w =>
  let (d, files) := ClientTools.stream launch w.sink.limit? call w.files
  Run.receive d { w with files, log := w.log ++ d.log }

/-- The work of a step. -/
def work (s : Session) (step : Step) : Run Rules Value :=
  let c := s.collaborators s.world.sink.limit?
  let options := s.config.exporting
  match step with
  | .query sql => return .bytes (← Run.query c sql)
  | .copyOut sql => return .count (← Run.copyOut c sql)
  | .toolDump args => return .bytes (← Run.dump c args)
  | .toolDumpInto args => return .count (← Run.dumpInto c args)
  | .anonVersion => return .text (← Catalog.anonVersion c)
  | .maskSchema => return .identifier? (← Catalog.maskSchema c)
  | .maskFilters table => return .bytes (← Catalog.maskFilters c table)
  | .listSequences excluded =>
    return .identifiers (← Catalog.listSequences c (excluded.getD s.excluded))
  | .excludedSchemas => return .identifiers (← Catalog.excludedSchemas c)
  | .dumpPreData excluded extensions =>
    return .preData
      (← PreData.dump c options (excluded.getD s.excluded) (filterOf extensions))
  | .streamMaskedData tables =>
    return .data (← MaskedData.stream c (tables.getD s.preData.dataTables))
  | .dumpSequences excluded declared =>
    return .count
      (← SequenceState.dump c options (excluded.getD s.excluded)
        (declared.getD s.preData.sequences))
  | .dumpPostData excluded extensions => do
    Script.writePostData c options (excluded.getD s.excluded) (filterOf extensions)
    return .nothing
  | .writeDump version => return .summary (← Script.write c options version)
  | .anonymizedDump =>
    return .summary
      (← Output.anonymizedDump
        (s.collaborators (Output.room? s.config.target s.world.files)) options s.config.target)
  | .installedDump => return .summary (← ClientTools.dump launch [Stage.bin] s.config)
  | .checkRequiredTools => do
    ClientTools.check [Stage.bin]
    return .nothing
  | .runCaptured call => return .bytes (← runCaptured call)
  | .runStreamed call => return .count (← runStreamed call)

/-- What the session keeps of a result. -/
def keep (s : Session) (step : Step) : Except Failure Value → Session
  | .ok (.identifiers names) =>
    match step with
    | .excludedSchemas => { s with excluded := names }
    | _ => s
  | .ok (.preData found) => { s with preData := found }
  | _ => s

/-- Takes a step. -/
def take (s : Session) (step : Step) : Answer × Session :=
  let before := s.world
  let (result, after) := s.work step { before with exchanges := [], standardOutput := [] }
  let answer : Answer :=
    { result
      written := after.sink.content.drop before.sink.content.length
      standardOutput := after.standardOutput
      calls := after.calls
      log := after.log }
  (answer, { s with world := { after with log := [] } }.keep step result)

/-- Takes steps in order. -/
def takeAll (s : Session) : List Step → List Answer × Session
  | [] => ([], s)
  | step :: rest =>
    let (answer, s) := s.take step
    let (answers, s) := s.takeAll rest
    (answer :: answers, s)

end Session

/-- What a whole session showed: its answers and the files left in the work directory. -/
structure Transcript where
  answers : List Answer
  files : List (Bytes × Bytes)

/-- Holds a session. -/
def hold (arguments : Arguments) (props : Props) (rules : Option Rules) (sinkLimit : Option Nat)
    (steps : List Step) : Transcript :=
  let (answers, s) := (Session.start arguments props rules sinkLimit).takeAll steps
  { answers, files := Stage.filesLeft s.world.files }

end MaskedDump.Rehearsal
