import MaskedDump.Identifier

/-!
# Failures

A failure is a chain of causes, the outermost first: what was being attempted, and under it why that
did not succeed. A cause is a fact of the domain; its wording is `Cause.message` alone.
-/

namespace MaskedDump

/-- What the operating system, or the end of a sink, refuses. -/
inductive SystemError
  | notFound
  | noSuchDevice
  | argumentsTooLong
  | notExecutable
  | permissionDenied
  | notADirectory
  | isADirectory
  | noSpaceLeft
  | nameTooLong
  | nulInArgument
  | nulInPath
  | sinkFull
  deriving DecidableEq, Repr

/-- What is refused. -/
def SystemError.description : SystemError → String
  | notFound => "No such file or directory"
  | noSuchDevice => "No such device or address"
  | argumentsTooLong => "Argument list too long"
  | notExecutable => "Exec format error"
  | permissionDenied => "Permission denied"
  | notADirectory => "Not a directory"
  | isADirectory => "Is a directory"
  | noSpaceLeft => "No space left on device"
  | nameTooLong => "File name too long"
  | nulInArgument => "nul byte found in provided data"
  | nulInPath => "file name contained an unexpected NUL byte"
  | sinkFull => "sink full"

/-- The number that the operating system has for what it refuses. -/
def SystemError.number? : SystemError → Option Nat
  | notFound => some 2
  | noSuchDevice => some 6
  | argumentsTooLong => some 7
  | notExecutable => some 8
  | permissionDenied => some 13
  | notADirectory => some 20
  | isADirectory => some 21
  | noSpaceLeft => some 28
  | nameTooLong => some 36
  | nulInArgument | nulInPath | sinkFull => none

/-- The wording of a refusal. -/
def SystemError.message (error : SystemError) : String :=
  match error.number? with
  | some n => error.description ++ " (os error " ++ toString n ++ ")"
  | none => error.description

/-- A step of the work that can go wrong. -/
inductive Activity
  | queryExtensions
  | readMaskSchema
  | lookUpMasks (table : Identifier)
  | listSequences
  | dumpPreData
  | listDataTables
  | dumpSequenceState
  | dumpPostData
  | writeBanner
  | writePreData
  | writeCopyHeader
  | writeCopyTerminator
  | writePostData
  | writeToolOutput (tool : String)
  | flushOutput
  | createFile (path : Bytes)
  | execute (tool : String)
  deriving DecidableEq, Repr

/-- The wording of a step that went wrong. -/
def Activity.message : Activity → String
  | queryExtensions => "Failed to query installed extensions"
  | readMaskSchema => "Failed to read anon.maskschema"
  | lookUpMasks table => "Failed to get masking filters for " ++ table.display
  | listSequences => "Failed to list sequences"
  | dumpPreData => "Failed to dump pre-data section"
  | listDataTables => "Failed to list tables for data export"
  | dumpSequenceState => "Failed to dump sequence state"
  | dumpPostData => "Failed to dump post-data section"
  | writeBanner => "Failed to write dump banner"
  | writePreData => "Failed to write pre-data section"
  | writeCopyHeader => "Failed to write COPY header"
  | writeCopyTerminator => "Failed to write COPY terminator"
  | writePostData => "Failed to write post-data section"
  | writeToolOutput tool => "Failed to write " ++ tool ++ " output"
  | flushOutput => "Failed to flush dump output"
  | createFile path => "Failed to create output file " ++ Utf8.display path
  | execute tool => "Failed to execute " ++ tool ++ ". Is PostgreSQL client installed?"

/-- One cause in a chain. -/
inductive Cause
  /-- Client tools that are not installed. -/
  | missingTools (tools : List String)
  /-- The masking extension is not installed in the database. -/
  | extensionNotInstalled
  /-- A tool ended with a status other than zero, or by a signal when there is no status. -/
  | toolFailed (tool : String) (status : Option Int) (diagnostics : String)
  /-- The masked rows of a table, shown by its sanitized name, could not be exported. -/
  | tableExport (table : String)
  /-- A step went wrong. -/
  | activity (step : Activity)
  /-- The system refused. -/
  | system (error : SystemError)
  /-- A failure that a collaborator words itself. -/
  | plain (message : String)
  deriving DecidableEq, Repr

namespace Cause

/-- How a tool ended. -/
def statusLabel : Option Int → String
  | some code => "exit code " ++ toString code
  | none => "terminated by signal"

/-- The wording of a cause. -/
def message : Cause → String
  | missingTools tools =>
    "Missing required PostgreSQL client tools: " ++ ", ".intercalate tools ++ "\n"
      ++ "\n"
      ++ "Please install PostgreSQL client tools:\n"
      ++ "- Ubuntu/Debian: sudo apt-get install postgresql-client\n"
      ++ "- macOS: brew install postgresql\n"
      ++ "- RHEL/CentOS: sudo yum install postgresql"
  | extensionNotInstalled => "Anon extension is not installed in this database."
  | toolFailed tool status diagnostics =>
    tool ++ " failed (" ++ statusLabel status ++ "): " ++ diagnostics
  | tableExport table => "Failed to export masked data for table " ++ table
  | activity step => step.message
  | system error => error.message
  | plain message => message

/-- Whether a cause is one that callers tell apart. -/
def isClassified : Cause → Bool
  | missingTools _ | extensionNotInstalled | toolFailed .. | tableExport _ => true
  | activity _ | system _ | plain _ => false

end Cause

/-- A chain of causes, never empty, the outermost first. -/
structure Failure where
  outermost : Cause
  deeper : List Cause := []
  deriving DecidableEq, Repr

namespace Failure

/-- A failure with a single cause. -/
def ofCause (cause : Cause) : Failure := ⟨cause, []⟩

/-- A refusal of the system. -/
def ofSystem (error : SystemError) : Failure := ofCause (.system error)

/-- All causes, the outermost first. -/
def chain (failure : Failure) : List Cause := failure.outermost :: failure.deeper

/-- Puts a cause on top of a failure. -/
def under (cause : Cause) (failure : Failure) : Failure := ⟨cause, failure.chain⟩

/-- Puts causes on top of a failure, the first one outermost. -/
def underAll (causes : List Cause) (failure : Failure) : Failure := causes.foldr under failure

/-- The innermost cause. -/
def root (failure : Failure) : Cause :=
  failure.chain.getLast (List.cons_ne_nil failure.outermost failure.deeper)

/-- The outermost cause that callers tell apart. -/
def classified? (failure : Failure) : Option Cause := failure.chain.find? Cause.isClassified

/-- The messages of the chain. -/
def messages (failure : Failure) : List String := failure.chain.map Cause.message

@[simp] theorem chain_under (cause : Cause) (failure : Failure) :
    (failure.under cause).chain = cause :: failure.chain := rfl

@[simp] theorem underAll_nil (failure : Failure) : failure.underAll [] = failure := rfl

@[simp] theorem underAll_cons (cause : Cause) (causes : List Cause) (failure : Failure) :
    failure.underAll (cause :: causes) = (failure.underAll causes).under cause := rfl

@[simp] theorem chain_underAll (causes : List Cause) (failure : Failure) :
    (failure.underAll causes).chain = causes ++ failure.chain := by
  induction causes with
  | nil => rfl
  | cons c cs ih => simpa [underAll] using ih

/-! ## The report on standard error -/

/-- Writes a message with its first line behind `head` and every further line behind `margin`. -/
def indented (head margin message : String) : String :=
  head ++ ("\n" ++ margin).intercalate (message.splitOn "\n")

/-- A number in a column five wide. -/
def ordinal (n : Nat) : String :=
  let digits := Text.decimal n
  String.ofList (List.replicate (5 - digits.length) ' ') ++ digits ++ ": "

/-- The causes below the outermost: indented by four blanks, and numbered when there are several. -/
def causeLines : List Cause → List String
  | [] => []
  | [cause] => [indented "    " "    " cause.message]
  | causes => causes.zipIdx.map fun (cause, n) => indented (ordinal n) "       " cause.message

/-- The report of a failed run. -/
def report (failure : Failure) : String :=
  "Error: " ++ failure.outermost.message ++ "\n"
    ++ (if failure.deeper.isEmpty then ""
        else "\nCaused by:\n" ++ String.join ((causeLines failure.deeper).map (· ++ "\n")))

end Failure

end MaskedDump
