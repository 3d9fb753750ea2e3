import MaskedDump.Shell.Arithmetic
import MaskedDump.Shell.Builtin
import MaskedDump.Shell.Expansion
import MaskedDump.Shell.Process
import MaskedDump.Shell.Redirection

/-!
# Shell scripts: evaluation

Words are expanded to fields, and commands are run on the state. The fuel of an evaluation bounds
how deep commands are nested, and a script is given a number of commands; `run` has more of both
than a script uses that comes to an end in reasonable time.
-/

namespace MaskedDump.Shell

open Act (finish fail complain)

/-! ## Simple commands -/

/-- A call of a command: its name and arguments, and whether it is the command of the shell or a
program whatever functions there are. -/
structure Call where
  name : Text
  args : List Text
  plain : Bool := false
  /-- Whether the usual search path is used. -/
  usualPath : Bool := false

namespace Call

/-- The name of the command that runs another one as it is. -/
def runner : Text := Text.ofString "command"

/-- The call that is meant by the arguments of the runner, unless they ask for something else. The
fuel is their number. -/
def behindRunner? : Nat → Bool → List Text → Option Call
  | 0, _, _ => none
  | _, _, [] => none
  | fuel + 1, usualPath, field :: rest =>
    if field = ['-', '-'] then
      match rest with
      | name :: args => some { name, args, plain := true, usualPath }
      | [] => none
    else match field with
      | '-' :: c :: letters =>
        if (c :: letters).all (· == 'p') then behindRunner? fuel true rest else none
      | name => some { name, args := rest, plain := true, usualPath }

/-- The call that fields spell. -/
def ofFields? : List Text → Option Call
  | [] => none
  | name :: args =>
    if name = runner then
      some ((behindRunner? args.length false args).getD { name, args })
    else some { name, args }

/-- Whether a command belongs to the language, so that what goes wrong in it ends the script. -/
def isSpecial (call : Call) : Bool :=
  !call.plain && specialCommands.contains (String.ofList call.name)

/-- Whether words of a command that look like assignments are expanded like them. -/
def declares (fields : List Text) : Bool :=
  (ofFields? fields).any fun call => declaringCommands.contains (String.ofList call.name)

/-- Whether a call does nothing but redirect. -/
def onlyRedirects (call : Call) : Bool := call.name = Text.ofString "exec" && call.args.isEmpty

end Call

/-- The usual search path. -/
def usualSearchPath : Text :=
  Text.ofString "/usr/local/sbin:/usr/local/bin:/usr/sbin:/usr/bin:/sbin:/bin"

/-- The outlet that the text of a redirection names, or none if the outlet is closed. -/
def outletOf (text : Text) : Act Target := do
  match text with
  | ['-'] => return .closed
  | [c] => if c.isDigit then return .toOutlet (c.toNat - 48) else refuse
  | _ => refuse
where
  refuse : Act Target := do
    modify fun s => { s with line := s.lineRead }
    fail (Text.ofString "Syntax error: Bad fd number")

/-- Runs a part with outlets led elsewhere, and leads them back unless they are to stay. Where that
is not possible something else is done. -/
def redirecting (textOf : Word → Act Text) (targets : List (Nat × Target)) (stays : Bool)
    (otherwise part : Act Unit) : Act Unit := fun s =>
  let (result, after) := match Target.leadAll textOf true targets s with
    | (.ok (), after) => part after
    | (.error .failure, after) => otherwise after
    | other => other
  (result, if stays then after else after.leadBack s (targets.map Prod.fst))

/-- The signals that do nothing unless they are trapped. -/
def harmlessSignals : List Nat := [17, 18, 23, 28]

/-- What the first arm with a fitting pattern does, or nothing. -/
def firstArm (fits : Word → Act Bool) : List Arm → Act (List Command)
  | [] => return []
  | .mk patterns body :: rest => do
    if ← patterns.anyM fits then return body else firstArm fits rest

/-- Counts a command, and ends the script when it has run too many. -/
def count (line : Nat) : Act Unit := do
  let s ← get
  if timeLimit < s.time then throw .outOfTime
  set { s with line, time := s.time + 1, taken := 0 }

/-- The statuses with which processes ended that were begun beside the script. -/
def State.statusOf? (s : State) (number : Nat) : Option (Nat × Nat) := s.ended.lookup number

/-- The number of the process that an operand of `wait` means. -/
def waitedFor (target : Text) : Act Nat := do
  match target with
  | '%' :: job => do
    let beside := (← get).beside
    let found := if job = [] ∨ job = ['%'] ∨ job = ['+'] then beside.getLast?
      else (readNumber job).bind fun n => if n = 0 then none else beside[n - 1]?
    match found with
    | some number => return number
    | none => fail (Text.ofString "No such job: " ++ target)
  | _ => Builtin.number target

/-! ## Processes -/

/-- The room for the output of a command that another one reads. One that writes on is taken to
write until nobody reads. -/
def pipeLimit : Nat := 1048576

/-- The number of commands that may be begun beside a script. -/
def jobLimit : Nat := 10000

/-- The text that was written to a pipe. -/
def State.textIn (s : State) (pipe : Nat) : Text :=
  match s.streams[pipe]? with
  | some (.pipe pieces _) => State.collected pieces
  | _ => []

/-- Ends a process that cannot become a program. -/
def refuseProgram {α : Type} (name : Text) (error : SystemError) : Act α := do
  complain (name ++ [':', ' '] ++ programRefusal error)
  finish (if [.notFound, .notADirectory, .nameTooLong].contains error then 127 else 126)
  throw (.exit true)

/-- Ends a shell that cannot be started. -/
def refuseStart (message : Text) : Act Unit := do
  modify ({ · with line := 0 })
  fail message

/-! ## Evaluation -/

mutual

/-- Expands a word. The flag says whether its plain text is split like a value. -/
def expand : Nat → Manner → Bool → Word → Act (List Item)
  | 0, _, _, _ => throw .outOfTime
  | fuel + 1, manner, soft, word => do
    let last := word.length - 1
    let items ← word.zipIdx.mapM fun (part, i) => do
      match part with
      | .text true text => return .mark :: text.map (.fixed · true)
      | .text false text => return (← get).textItems manner soft (i == 0) (i == last) text
      | .parameter quoted name use => expandParameter fuel manner quoted name use
      | .output quoted body => return Item.ofText quoted (← capture fuel body)
      | .arithmetic quoted expression =>
        return Item.ofText quoted (← calculate fuel expression)
    return items.flatten

/-- Expands a word to a text. -/
def expandText : Nat → Manner → Word → Act Text
  | 0, _, _ => throw .outOfTime
  | fuel + 1, manner, word => return Item.text (← expand fuel manner false word)

/-- Expands a parameter. -/
def expandParameter : Nat → Manner → Bool → Text → Use → Act (List Item)
  | 0, _, _, _, _ => throw .outOfTime
  | fuel + 1, manner, quoted, name, use => do
    let s ← get
    let items := s.parameterItems manner quoted name
    let required : Act Unit := do
      if s.options.contains 'u' && s.isMissing name false then
        fail (name ++ Text.ofString ": parameter not set")
    let instead (word : Word) : Act (List Item) := expand fuel manner (!quoted) word
    match use with
    | .value => do
      required
      return items
    | .length => do
      required
      return Item.ofText quoted (Nat.toDigits 10 (s.lengthOf name))
    | .orElse emptyToo word => if s.isMissing name emptyToo then instead word else return items
    | .ifGiven emptyToo word => if s.isMissing name emptyToo then return [] else instead word
    | .orAssign emptyToo word =>
      if s.isMissing name emptyToo then
        let text ← expandText fuel .single word
        Builtin.requireName name
        Act.assign name text
        return Item.ofText quoted text
      else return items
    | .orFail emptyToo word =>
      if s.isMissing name emptyToo then
        let text ← if word.isEmpty then
            pure (Text.ofString ("parameter not set" ++ if emptyToo then " or null" else ""))
          else expandText fuel .single word
        fail (name ++ [':', ' '] ++ text)
      else return items
    | .cutFront longest pattern => do
      required
      let cells := Item.cells (← expand fuel .single false pattern)
      return s.changedItems manner quoted name false (cutFront longest cells)
    | .cutBack longest pattern => do
      required
      let cells := Item.cells (← expand fuel .single false pattern)
      return s.changedItems manner quoted name true (cutBack longest cells)
    | .unknown => fail (Text.ofString "Bad substitution")

/-- The value of an arithmetic expression. -/
def calculate : Nat → Word → Act Text
  | 0, _ => throw .outOfTime
  | fuel + 1, expression => do
    let text ← expandText fuel .single expression
    let s ← get
    match Arithmetic.evaluate (fun name => (s.value? name).getD []) text with
    | .ok (n, changes) => do
      changes.reverse.forM fun (name, n) => Act.assign name (integerText n)
      return integerText n
    | .error failure => fail (failure.message text)

/-- Expands words to fields. -/
def expandWords : Nat → List Word → Act (List Text)
  | 0, _ => throw .outOfTime
  | fuel + 1, words =>
    words.foldlM
      (fun fields word => do
        match if Call.declares fields then assignment? word else none with
        | some (name, value) => return fields ++ [name ++ '=' :: (← expandText fuel .value value)]
        | none => do
          let items ← expand fuel .fields false word
          return fields ++ (← get).fieldsOf items)
      []

/-- Expands the words of redirections. -/
def expandTargets : Nat → List Redirect → Act (List (Nat × Target))
  | 0, _ => throw .outOfTime
  | fuel + 1, redirects =>
    redirects.mapM fun
      | .fromFile outlet path => return (outlet, .fromFile (← expandText fuel .single path))
      | .withFile outlet path => return (outlet, .withFile (← expandText fuel .single path))
      | .toFile outlet force path =>
        return (outlet, .toFile force (← expandText fuel .single path))
      | .ontoFile outlet path => return (outlet, .ontoFile (← expandText fuel .single path))
      | .toOutlet outlet other =>
        return (outlet, ← outletOf (← expandText fuel .single other))
      | .held outlet number => return (outlet, .held ((← get).texts[number]?.getD []))

/-- Runs a part as a process of its own. -/
def asProcess : Nat → Act Unit → Act Unit
  | 0, _ => throw .outOfTime
  | fuel + 1, part => fun s =>
    afterProcess (fun s => wholeProcess (runLines fuel false) part s.forked) s.rejoin s

/-- The output of commands as a text, without the line feeds at its end. -/
def capture : Nat → List Command → Act Text
  | 0, _ => throw .outOfTime
  | fuel + 1, body => do
    let before ← get
    let pipe := before.streams.size
    let part : Act Unit := do
      modify fun s => { s.leadTo 1 (.pipe [] none) with asked := false }
      body.forM (execute fuel)
    asProcess fuel part
    runJobs fuel fun job => before.processes < job.number
    let after ← get
    set { after with status := before.status, taken := after.status }
    return ((after.textIn pipe).reverse.dropWhile (· == '\n')).reverse.filter (· ≠ '\x00')

/-- Runs commands, each with the output of the one before as its input. -/
def runPiped : Nat → List Command → Act Unit
  | 0, _ => throw .outOfTime
  | _, [] => return ()
  | fuel + 1, [command] => asProcess fuel (execute fuel command)
  | fuel + 1, command :: rest => do
    let before ← get
    let pipe := before.streams.size
    asProcess fuel do
      modify (·.leadTo 1 (.pipe [] (some pipeLimit)))
      execute fuel command
    runJobs fuel fun job => before.processes < job.number
    let text := (← get).textIn pipe
    Act.around (·.leadTo 0 (.held text)) (fun before after => after.leadBack before [0])
      (runPiped fuel rest)

/-- Begins a command beside the script. -/
def beginBeside : Nat → Command → Act Unit
  | 0, _ => throw .outOfTime
  | _ + 1, body => do
    let s ← get
    let process := { s.forked with asked := false }.lead 0 .nowhere
    let job : Job :=
      { number := process.number, owner := s.number, time := s.time, body
        process := process.toProcess }
    set { s with
      processes := process.number
      jobs := s.jobs ++ [job]
      beside := s.beside ++ [process.number]
      lastBeside := some process.number
      status := 0 }

/-- Runs a command that was begun beside the script, on a clock of its own. -/
def runJob : Nat → Job → Act Unit
  | 0, _ => throw .outOfTime
  | fuel + 1, job => fun s =>
    let files := { s.files with
      workPlace := (Builtin.directoryAt s.files (Builtin.pathOf job.process.directory)).getD [] }
    let start : State :=
      { s with toProcess := job.process, files, time := job.time + timeToBegin, status := 0 }
    afterProcess (fun _ => wholeProcess (runLines fuel false) (execute fuel job.body) start)
      (fun after => { s.rejoin after with
        time := s.time
        status := s.status
        ended := (job.number, after.time, after.status) :: after.ended })
      s

/-- Runs those of the commands beside the script that are chosen, in the order of their beginning.
-/
def runJobs : Nat → (Job → Bool) → Act Unit
  | 0, _ => throw .outOfTime
  | fuel + 1, chosen => do
    if !(← get).jobs.isEmpty then
      Act.iterate jobLimit
        (fun () => do
          let s ← get
          match s.jobs.find? chosen with
          | none => return none
          | some job => do
            set { s with jobs := s.jobs.filter (·.number ≠ job.number) }
            runJob fuel job
            return some ())
        ()

/-- Waits for processes that were begun beside the script. -/
def waitFor : Nat → List Text → Act Unit
  | 0, _ => throw .outOfTime
  | fuel + 1, args => do
    match ← Builtin.operands args with
    | [] => do
      let own := (← get).number
      runJobs fuel fun job => job.owner == own
      let s ← get
      let time := (s.beside.filterMap s.statusOf?).foldl (fun time (other, _) => max time other)
        s.time
      set { s with time, status := 0 }
    | targets =>
      targets.forM fun target => do
        let number ← waitedFor target
        runJobs fuel fun job => job.number == number
        let s ← get
        match if s.beside.contains number then s.statusOf? number else none with
        | some (time, status) => set { s with time := max s.time time, status }
        | none => finish 127

/-- Runs a command. -/
def execute : Nat → Command → Act Unit
  | 0, _ => throw .outOfTime
  | fuel + 1, command => do
    if !(← get).options.contains 'n' then
      match command with
      | .simple line assignments words redirects =>
        count line
        let now := (← get).time
        runJobs fuel fun job => job.time + timeToSettle ≤ now
        Act.checking (executeSimple fuel assignments words redirects)
      | .group body => body.forM (execute fuel)
      | .subshell line body =>
        modify ({ · with line })
        Act.checking (asProcess fuel (body.forM (execute fuel)))
      | .redirected line body redirects => do
        modify ({ · with line })
        let targets ← expandTargets fuel redirects
        match body with
        | .subshell _ body =>
          Act.checking (asProcess fuel do
            Target.leadAll (expandText fuel .single) false targets
            body.forM (execute fuel))
        | body =>
          redirecting (expandText fuel .single) targets false (Act.checking (finish 2))
            (execute fuel body)
      | .background body => beginBeside fuel body
      | .conditional test yes no => do
        Act.asking true (test.forM (execute fuel))
        if (← get).status = 0 then yes.forM (execute fuel)
        else if no.isEmpty then finish 0
        else no.forM (execute fuel)
      | .loop whileTrue test body => do
        let loop (last : Nat) : Act (Option Nat) := do
          let tested ← Act.round (Act.asking true (test.forM (execute fuel)))
          if tested && ((← get).status == 0) == whileTrue then
            let goesOn ← Act.round (body.forM (execute fuel))
            if goesOn then return some (← get).status
            else return none
          else
            finish last
            return none
        Act.looping (Act.iterate timeLimit loop 0)
      | .each line name words body => do
        modify ({ · with line })
        let fields ← expandWords fuel words
        let loop (left : List Text) : Act (Option (List Text)) := do
          match left with
          | [] => return none
          | field :: rest => do
            Act.assign name field
            if ← Act.round (body.forM (execute fuel)) then return some rest else return none
        if fields.isEmpty then finish 0
        else Act.looping (Act.iterate (fields.length + 1) loop fields)
      | .choice line subject arms => do
        modify ({ · with line })
        let text ← expandText fuel .single subject
        let body ← firstArm (fun pattern => do
          return matchesWord (Item.cells (← expand fuel .single false pattern)) text) arms
        if body.isEmpty then finish 0 else body.forM (execute fuel)
      | .chain onSuccess first second => do
        Act.asking true (execute fuel first)
        if ((← get).status == 0) == onSuccess then execute fuel second
      | .negation body => do
        Act.asking true (execute fuel body)
        finish (if (← get).status = 0 then 1 else 0)
      | .piped commands => Act.checking (runPiped fuel commands)
      | .definition name body => do
        modify fun s => { s with functions := (name, body) :: s.functions.filter (·.1 ≠ name) }
        finish 0
      heedSignals fuel

/-- Runs what is trapped for the signals that have come. A signal that is not trapped ends the
process. -/
def heedSignals : Nat → Act Unit
  | 0 => throw .outOfTime
  | fuel + 1 => do
    let s ← get
    match s.sent.reverse.find? (·.1 == s.number) with
    | none => return ()
    | some (number, signal) => do
      set { s with sent := s.sent.erase (number, signal) }
      match if signal = 9 then none else s.traps.lookup signal with
      | some action =>
        if !action.isEmpty then
          runLines fuel false action
          finish s.status
      | none =>
        if !harmlessSignals.contains signal then
          finish (128 + signal)
          throw .killed
      heedSignals fuel

/-- Runs a simple command: its words are expanded first, then those of its redirections, then the
values that it sets. -/
def executeSimple : Nat → List (Text × Word) → List Word → List Redirect → Act Unit
  | 0, _, _, _ => throw .outOfTime
  | fuel + 1, assignments, words, redirects => do
    let fields ← expandWords fuel words
    let targets ← expandTargets fuel redirects
    let shownAt := (← get).outlet? 2
    let setting (set : Text → Text → Act Unit) : Act (List Text) :=
      assignments.mapM fun (name, word) => do
        let value ← expandText fuel .value word
        set name value
        return name ++ '=' :: value
    match Call.ofFields? fields with
    | none =>
      redirecting (expandText fuel .single) targets false (pure ()) do
        showCommand fuel shownAt (← setting Act.assign)
        finish (← get).taken
    | some call =>
      let otherwise : Act Unit := if call.isSpecial then throw .failure else pure ()
      redirecting (expandText fuel .single) targets call.onlyRedirects otherwise do
        if call.isSpecial then
          let exports := call.name = Text.ofString "exec" && !call.args.isEmpty
          let shown ← setting fun name value => do
            Act.assign name value
            if exports then Builtin.alter name fun v => { v with exported := true }
          showCommand fuel shownAt (shown ++ fields)
          make fuel call
        else
          Act.around State.beginCall (fun _ after => after.endCall) do
            let shown ← setting fun name value => do
              modify (·.hide name)
              Act.assign name value
              Builtin.alter name fun v => { v with exported := true }
            showCommand fuel shownAt (shown ++ fields)
            make fuel call

/-- Shows a command before it runs, if the options say so. -/
def showCommand : Nat → Option Outlet → List Text → Act Unit
  | 0, _, _ => throw .outOfTime
  | fuel + 1, shownAt, fields => do
    let s ← get
    if s.options.contains 'x' then
      let lead ← promptOf fuel ((s.value? (Text.ofString "PS4")).getD [])
      match shownAt with
      | none => pure ()
      | some outlet =>
        Act.around (·.lead 2 outlet) (fun before after => after.leadBack before [2])
          (Builtin.warn (lead ++ [' '].intercalate fields ++ ['\n']))

/-- The text that a prompt stands for. -/
def promptOf : Nat → Text → Act Text
  | 0, _ => throw .outOfTime
  | fuel + 1, prompt => do
    let s ← get
    let options := s.options
    match heldWord? prompt with
    | none => return prompt
    | some word => do
      set { s with options := options.filter (· ≠ 'x') }
      let text ← expandText fuel .single word
      modify ({ · with options })
      return text

/-- Makes a call. -/
def make : Nat → Call → Act Unit
  | 0, _ => throw .outOfTime
  | fuel + 1, call => do
    let s ← get
    let searchPath := if call.usualPath then usualSearchPath else s.searchPath
    match s.commandMeaning (!call.plain) searchPath call.name with
    | .function body => callFunction fuel body call.args
    | .program path => asProcess fuel (becomeProgram fuel call.name path call.args)
    | .unknown e => do
      complain (call.name ++ [':', ' '] ++ programRefusal e)
      finish 127
    | _ =>
      let work := Act.speaking call.name (runOwn fuel (String.ofList call.name) call.args)
      if call.isSpecial then work else Act.upToFailure work

/-- Calls a function. -/
def callFunction : Nat → Command → List Text → Act Unit
  | 0, _, _ => throw .outOfTime
  | fuel + 1, body, args =>
    Act.around
      (fun s => { s with
        parameters := args, optionIndex := 1, optionOffset := none, loops := 0 })
      (fun before after => { after with
        parameters := before.parameters, optionIndex := before.optionIndex
        optionOffset := before.optionOffset, loops := before.loops })
      (Act.upToReturn (execute fuel body))

/-- Runs a command that the shell provides. -/
def runOwn : Nat → String → List Text → Act Unit
  | 0, _, _ => throw .outOfTime
  | fuel + 1, name, args => do
    match name with
    | "eval" => runLines fuel false ([' '].intercalate args)
    | "." => runFile fuel (← Builtin.operands args)
    | "exec" =>
      match args with
      | [] => finish 0
      | program :: args => do
        let s ← get
        let path := if program.contains '/' then .ok program
          else searchFor s.files s.searchPath program
        match path with
        | .error e => refuseProgram program e
        | .ok path => becomeProgram fuel program path args
    | "wait" => waitFor fuel args
    | "command" => do
      let (given, names) ← Builtin.takeOptions ['p', 'v', 'V'] [] args
      match given.getLast?, names with
      | some ('v', _), name :: _ => Builtin.showCommand name
      | some ('V', _), name :: _ => Builtin.describeAll [name]
      | _, _ => finish 0
    | name =>
      match Builtin.find? name with
      | some command => command args
      | none => finish 127

/-- Runs the text of a file in the script, up to where it returns. -/
def runFile : Nat → List Text → Act Unit
  | 0, _ => throw .outOfTime
  | _ + 1, [] => finish 0
  | fuel + 1, path :: _ => do
    let s ← get
    let found : Option Text := if path.contains '/' then some path
      else ((directoriesIn s.searchPath).map (pathIn · path)).find? fun path =>
        match s.files.find (Text.toBytes path) with
        | .ok (_, .file ..) => true
        | _ => false
    match found with
    | none => fail (path ++ Text.ofString ": not found")
    | some path =>
      match s.files.find (Text.toBytes path) with
      | .ok (_, .file content _) =>
        Act.speaking path (Act.asking false
          (Act.upToReturn (runLines fuel true (Text.ofBytes content))))
      | .ok _ => finish 0
      | .error e => fail (Target.refusal false path e)

/-- Becomes a program that stands at a path, and ends with it. -/
def becomeProgram : Nat → Text → Text → List Text → Act Unit
  | 0, _, _, _ => throw .outOfTime
  | fuel + 1, name, path, args => do
    match Program.atPath (← get).files path with
    | .error e => refuseProgram name e
    | .ok program => do
      fun s => afterProcess (wholeProgram fuel program name path args) s.rejoin s
      modify fun s => { s with traps := [] }
      throw (.exit true)

/-- Runs a program, which begins with the exported variables, to its end. -/
def wholeProgram : Nat → Program → Text → Text → List Text → Act Unit
  | 0, _, _, _, _ => throw .outOfTime
  | fuel + 1, program, name, path, args => fun s =>
    let work (name : Text) (parameters : List Text) (part : Act Unit) : Except Leave Unit × State :=
      wholeProcess (runLines fuel false) part (s.begun name parameters)
    match program with
    | .script content => work path args (runLines fuel true (Text.ofBytes content))
    | .shell =>
      match Start.ofArgs name args with
      | .error message => work name args (refuseStart (Text.ofString message))
      | .ok start => work start.name start.parameters (runStart fuel name start)

/-- Runs the commands that a shell is started with. -/
def runStart : Nat → Text → Start → Act Unit
  | 0, _, _ => throw .outOfTime
  | fuel + 1, name, start => do
    modify ({ · with options := start.options })
    match start.origin with
    | .text text => runLines fuel false text
    | .input => do
      let s ← get
      let text := s.readable 0
      set (s.consume 0 text.length)
      runLines fuel true text
    | .file path =>
      match (← get).files.find (Text.toBytes path) with
      | .ok (_, .file content _) => runLines fuel true (Text.ofBytes content)
      | .ok _ => finish 0
      | .error e => do
        modify ({ · with name })
        refuseStart (Target.refusal false path e)

/-- Runs a text, one complete command after the other. The flag says whether it is shown where the
options say so. -/
def runLines : Nat → Bool → Text → Act Unit
  | 0, _, _ => throw .outOfTime
  | fuel + 1, shown, text => do
    let step (progress : Source × Bool) : Act (Option (Source × Bool)) := do
      let (source, ran) := progress
      let s ← get
      match readLine { source with aliases := s.aliases, texts := s.texts } with
      | .error refusal => do
        modify ({ · with line := refusal.line })
        fail (Text.ofString ("Syntax error: " ++ refusal.message))
      | .ok (found, after) => do
        set { s with texts := after.texts, lineRead := after.line }
        if shown && s.options.contains 'v' then
          Builtin.warn (source.rest.take (source.rest.length - after.rest.length))
        match found with
        | none => do
          if !ran then finish 0
          return none
        | some script => do
          script.forM (execute fuel)
          return some (after, ran || !script.isEmpty)
    Act.around id (fun before after => { after with lineRead := before.lineRead })
      (Act.iterate (text.length + 2) step ({ rest := text }, false))

end

/-- The depth of commands that an evaluation is given. -/
def depth : Nat := 4000

/-- Runs a program to its end, and what it began beside itself. The status is missing when the
program was stopped. -/
def run (program : Program) (name path : Text) (args : List Text) (start : State) :
    Option Nat × State :=
  let (result, ended) := wholeProgram depth program name path args start
  let (_, after) := (runJobs depth fun _ => true : Act Unit) ended
  match result with
  | .ok () => (some ended.status, after)
  | .error _ => (none, after)

end MaskedDump.Shell
