import MaskedDump.Log.Filter
import MaskedDump.Program.ClientTools
import MaskedDump.Program.Machine

/-!
# The command line

What a run of the program shows its caller: the exit status, standard output, the log lines that the
filter lets through, and the rest of standard error, which reports a failure. A refused command line
ends with status 2, a failed run with status 1.
-/

namespace MaskedDump.CommandLine

open Program (Machine)

/-- What a run shows. -/
structure Shown where
  exit : Nat
  standardOutput : Bytes := []
  /-- The first line of each log entry. -/
  log : List String := []
  /-- All else on standard error: the further lines of log entries, and the report of a failure. -/
  report : String := ""
  deriving DecidableEq, Repr

/-- What a refused command line shows. Texts that were asked for go to standard output. -/
def refused (refusal : Arguments.Refusal) : Shown :=
  match refusal with
  | .helpWanted | .versionWanted =>
    { exit := 0, standardOutput := Bytes.ofString refusal.message }
  | _ => { exit := 2, report := refusal.report }

/-- The warnings about the arguments themselves. -/
def warnings (a : Arguments) : List Log.Entry :=
  if a.databaseTwice then
    [⟨.warn, .configuration,
      "Both --dbname and a positional DBNAME were given; using --dbname"⟩]
  else []

/-- The filter of the log: the text of the environment if it can be read, else what the arguments
ask for. -/
def logFilter (a : Arguments) (directives : Option String) : Log.Filter :=
  (directives.bind Log.Filter.ofText?).getD (Log.Filter.byDefault a.verbose)

/-- The variable of the environment that holds a filter of the log. -/
def filterVariable : String := "RUST_LOG"

/-- Runs the program with the tools that are installed on a machine, on its files. -/
def run (m : Machine) (argv : List Bytes) (files : FileSystem) : Shown × FileSystem :=
  match Arguments.parse argv with
  | .error refusal => (refused refusal, files)
  | .ok a =>
    let start : World Unit := { tools := (), files, log := warnings a }
    let (result, world) := ClientTools.dump m.invoke m.searchPath a.configuration start
    let entries := world.log.filter (logFilter a (m.environment.lookup filterVariable)).shows
    let shown : Shown :=
      { exit := 0
        standardOutput := world.standardOutput
        log := entries.map Log.Entry.headLine
        report := String.join ((entries.flatMap Log.Entry.moreLines).map (· ++ "\n"))
          ++ Utf8.display world.standardError }
    match result with
    | .ok _ => (shown, world.files)
    | .error failure =>
      ({ shown with exit := 1, report := shown.report ++ failure.report }, world.files)

end MaskedDump.CommandLine
