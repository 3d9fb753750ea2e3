import MaskedDump.Run.Basic

/-!
# Child processes

What becomes of a client tool that is started: it cannot be started at all, or it ends with some
output, some diagnostics and a status. The two ways of taking the output, as a whole and as a
stream, judge the same outcome: a tool that did not end with status zero has failed, with its
diagnostics as the reason. A stream whose sink refuses stops the tool, whatever its status would
have been.
-/

namespace MaskedDump.Program

/-- A call of a program. Variables come on top of the environment of the caller. -/
structure Invocation where
  program : String
  args : List Bytes
  environment : List (String × String) := []
  deriving DecidableEq, Repr

/-- What becomes of a call. The status is missing when a signal ended the program. -/
inductive Outcome
  | notStarted (error : SystemError)
  | ended (output diagnostics : Bytes) (status : Option Int)
  deriving DecidableEq, Repr

/-- How calls are carried out on some files: what becomes of a call when its output goes where there
is only some room, if that is bounded, and what it leaves of the files. -/
abbrev Launcher := Option Nat → Invocation → FileSystem → Outcome × FileSystem

/-- Why a program could not be started. -/
def startFailure (program : String) (error : SystemError) : Failure :=
  (Failure.ofSystem error).under (.activity (.execute program))

/-- How a program ended: well with status zero only. Blanks at the end of the diagnostics are cut
off. -/
def verdict (program : String) (diagnostics : Bytes) (status : Option Int) : Except Failure Unit :=
  if status = some 0 then .ok ()
  else .error (.ofCause (.toolFailed program status (Text.trimEnd (Utf8.display diagnostics))))

/-- The output of a call that ended well. -/
def captured (program : String) : Outcome → Except Failure Bytes
  | .notStarted error => .error (startFailure program error)
  | .ended output diagnostics status => (verdict program diagnostics status).map fun () => output

/-- A call as a stream. -/
def streamed (program : String) : Outcome → Delivery
  | .notStarted error => { bytes := [], ending := .error (startFailure program error) }
  | .ended output diagnostics status =>
    { bytes := output
      ending := verdict program diagnostics status
      refusal := [.activity (.writeToolOutput program)]
      settles := true }

/-- What is said about a call before it is made. -/
def announcement (verb : String) (call : Invocation) : Log.Entry :=
  ⟨.debug, .tools,
    verb ++ " " ++ call.program ++ " with " ++ Text.decimal call.args.length ++ " argument(s)"⟩

end MaskedDump.Program
