import MaskedDump.Shell.Builtin.Basic

/-!
# Commands of the shell that set variables

Variables may be exported to the programs that a script runs, made unchangeable, or made those of
the function that runs. The commands that do so list the variables that they were applied to. An
alias is a text that stands for another one where a command begins.
-/

namespace MaskedDump.Shell.Builtin

open Act (finish fail complain)

/-! ## Variables -/

/-- The line that shows a variable, behind the command that it belongs to. -/
def variableLine (command : Text) (name : Text) (v : Variable) : Text :=
  (if command.isEmpty then [] else command ++ [' ']) ++ name
    ++ match v.value with
      | some value => '=' :: quotedText value
      | none => []

/-- Lists the variables that a condition picks out. -/
def listVariables (command : String) (p : Variable → Bool) : Act Unit := do
  let chosen := sorted Prod.fst ((← get).bindings.filter fun (_, v) => p v)
  say (linesOf (chosen.map fun (name, v) => variableLine (Text.ofString command) name v))

/-- Changes what is known of a variable. -/
def alter (name : Text) (change : Variable → Variable) : Act Unit := do
  modify fun s => s.restore name (some (change ((s.known? name).getD {})))

/-- Marks variables, and sets the ones that are given values. -/
def declare (command : String) (marked : Variable → Bool) (mark : Variable → Variable)
    (args : List Text) : Act Unit := do
  let (given, names) ← takeOptions ['p'] [] args
  if !given.isEmpty || names.isEmpty then listVariables command marked
  else
    for arg in names do
      let (name, value) := assignmentOf arg
      requireName name
      match value with
      | some value => Act.assign name value
      | none => pure ()
      alter name mark
    finish 0

/-- Exports variables. -/
def exporting : List Text → Act Unit :=
  declare "export" Variable.exported fun v => { v with exported := true }

/-- Makes variables unchangeable. -/
def protecting : List Text → Act Unit :=
  declare "readonly" Variable.readOnly fun v => { v with readOnly := true }

/-- Makes variables those of the function that runs, and sets the ones that are given values. -/
def declareLocal (args : List Text) : Act Unit := do
  if (← get).hidden.isEmpty then fail (Text.ofString "not in a function")
  for arg in args do
    let (name, value) := assignmentOf arg
    requireName name
    modify (·.hide name)
    match value with
    | some value => Act.assign name value
    | none => alter name id
  finish 0

/-- Forgets variables, or functions. -/
def unset (args : List Text) : Act Unit := do
  let (given, names) ← takeOptions ['f', 'v'] [] args
  let functions := (given.getLast?.map Prod.fst) == some 'f'
  for name in names do
    if functions then
      modify fun s => { s with functions := s.functions.filter (·.1 ≠ name) }
    else
      requireName name
      if ((← get).known? name).any Variable.readOnly then
        fail (name ++ Text.ofString ": is read only")
      modify (·.restore name none)
  finish 0

/-! ## Aliases -/

/-- The line that shows an alias. -/
def aliasLine (name value : Text) : Text := name ++ '=' :: quotedText value

/-- Sets and shows aliases. -/
def setAliases (args : List Text) : Act Unit := do
  if args.isEmpty then
    say (linesOf ((← get).aliases.map fun (name, value) => aliasLine name value))
  else
    finish 0
    for arg in args do
      let (rest, value) := assignmentOf (arg.drop 1)
      let name := arg.take 1 ++ rest
      match value, (← get).aliases.lookup name with
      | some value, _ =>
        modify fun s =>
          { s with aliases := s.aliases.filter (·.1 ≠ name) ++ [(name, value)] }
      | none, some value => sayWith (← get).status (linesOf [aliasLine name value])
      | none, none =>
        warn (linesOf [Text.ofString "alias: " ++ name ++ Text.ofString " not found"])
        finish 1

/-- Forgets aliases. -/
def forgetAliases (args : List Text) : Act Unit := do
  let (given, names) ← takeOptions ['a'] [] args
  finish 0
  if !given.isEmpty then modify ({ · with aliases := [] })
  else
    for name in names do
      if ((← get).aliases.lookup name).isNone then
        warn (linesOf [Text.ofString "unalias: " ++ name ++ Text.ofString " not found"])
        finish 1
      modify fun s => { s with aliases := s.aliases.filter (·.1 ≠ name) }

end MaskedDump.Shell.Builtin
