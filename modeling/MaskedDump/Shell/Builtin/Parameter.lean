import MaskedDump.Shell.Builtin.Variable

/-!
# Commands of the shell that take parameters and input apart

`set` turns options on and off and replaces the parameters, `shift` drops some of them, `getopts`
takes options from them one by one, and `read` splits a line of the input among variables.
-/

namespace MaskedDump.Shell.Builtin

open Act (finish fail)

/-! ## Options of the shell -/

/-- The options by name, with the letters of those that have one. -/
def optionNames : List (String × Option Char) :=
  [("errexit", some 'e'), ("noglob", some 'f'), ("ignoreeof", some 'I'), ("interactive", some 'i'),
    ("monitor", some 'm'), ("noexec", some 'n'), ("stdin", some 's'), ("xtrace", some 'x'),
    ("verbose", some 'v'), ("vi", some 'V'), ("emacs", some 'E'), ("noclobber", some 'C'),
    ("allexport", some 'a'), ("notify", some 'b'), ("nounset", some 'u'), ("privileged", some 'p'),
    ("nolog", none), ("debug", none)]

/-- Turns an option on or off. -/
def turn (on : Bool) (letter : Char) : Act Unit :=
  modify fun s =>
    let others := s.options.filter (· ≠ letter)
    { s with options := if on then letter :: others else others }

/-- Turns an option on or off by its letter. -/
def turnByLetter (on : Bool) (letter : Char) : Act Unit := do
  if State.optionLetters.contains letter then turn on letter
  else fail (Text.ofString "Illegal option -" ++ [letter])

/-- Turns an option on or off by its name. -/
def turnByName (on : Bool) (name : Text) : Act Unit := do
  match optionNames.lookup (String.ofList name) with
  | some letter => letter.forM (turn on)
  | none => fail (Text.ofString "Illegal option -o " ++ name)

/-- Lists the options, as a table or as the commands that set them. -/
def listOptions (table : Bool) : Act Unit := do
  let options := (← get).options
  let line (name : String) (letter : Option Char) : Text :=
    let on := letter.any options.contains
    Text.ofString <|
      if table then
        name ++ String.ofList (List.replicate (16 - name.length) ' ') ++ if on then "on" else "off"
      else "set " ++ (if on then "-o " else "+o ") ++ name
  say ((if table then Text.ofString "Current option settings\n" else [])
    ++ linesOf (optionNames.map fun (name, letter) => line name letter))

/-- Turns on or off the options of one argument, whose names may be in the arguments that follow.
The arguments that are left are the result. -/
def turnAll (on : Bool) : Text → List Text → Act (List Text)
  | [], rest => return rest
  | 'o' :: letters, [] => do
    listOptions on
    turnAll on letters []
  | 'o' :: letters, name :: rest => do
    turnByName on name
    turnAll on letters rest
  | letter :: letters, rest => do
    turnByLetter on letter
    turnAll on letters rest

/-- Replaces the positional parameters. -/
def replaceParameters (parameters : List Text) : Act Unit :=
  modify ({ · with parameters, optionIndex := 1, optionOffset := none })

/-- Takes options of the shell from arguments; the fuel is their number. Other arguments replace the
positional parameters. -/
def setFrom : Nat → List Text → Act Unit
  | _, [] => return ()
  | _, ['-'] :: rest => do
    turn false 'x'
    turn false 'v'
    if !rest.isEmpty then replaceParameters rest
  | _, ['-', '-'] :: rest => replaceParameters rest
  | fuel + 1, ('-' :: letters) :: rest => do setFrom fuel (← turnAll true letters rest)
  | fuel + 1, ('+' :: letters) :: rest => do setFrom fuel (← turnAll false letters rest)
  | _, rest => replaceParameters rest

/-- Turns options on or off, and replaces the positional parameters. -/
def set (args : List Text) : Act Unit := do
  if args.isEmpty then listVariables "" (·.value.isSome)
  else
    finish 0
    setFrom args.length args

/-! ## Parameters -/

/-- Drops positional parameters. -/
def shift (args : List Text) : Act Unit := do
  let n ← match args with
    | arg :: _ => number arg
    | [] => pure 1
  let parameters := (← get).parameters
  if parameters.length < n then fail (Text.ofString "can't shift that many")
  replaceParameters (parameters.drop n)
  finish 0

/-- What one step through options finds. -/
structure OptionFound where
  /-- The letter that is reported. -/
  letter : Char
  /-- The value that goes with it, if any. -/
  value : Option Text
  complaint : Text := []
  /-- The index of the next argument, and what is left of the one before. -/
  index : Nat
  left : Option Text := none
  finished : Bool := false

/-- Whether a letter is among the known options, and whether it takes an argument. -/
def optionKnown? (letter : Char) : Text → Option Bool
  | [] => none
  | c :: ':' :: rest => if c = letter then some true else optionKnown? letter rest
  | c :: rest => if c = letter then some false else optionKnown? letter rest

/-- Takes an option off the front of an argument. -/
def takeOption (known : Text) (args : List Text) (index : Nat) (letter : Char) (rest : Text) :
    OptionFound :=
  let silent := known.head? == some ':'
  let left := some rest
  match optionKnown? letter (if silent then known.drop 1 else known) with
  | none =>
    if silent then { letter := '?', value := some [letter], index, left }
    else
      { letter := '?', value := none, index, left
        complaint := Text.ofString "Illegal option -" ++ [letter, '\n'] }
  | some false => { letter, value := some [], index, left }
  | some true =>
    match rest, args[index - 1]? with
    | [], none =>
      if silent then { letter := ':', value := some [letter], index, left }
      else
        { letter := '?', value := none, index, left
          complaint := Text.ofString "No arg for -" ++ letter :: Text.ofString " option\n" }
    | [], some value => { letter, value := some value, index := index + 1 }
    | value, _ => { letter, value := some value, index }

/-- Finds the next option among arguments. -/
def nextOption (known : Text) (args : List Text) (index : Nat) (offset : Option Nat) :
    OptionFound :=
  let before := args[index - 2]?.getD []
  let left := match offset with
    | some n => if 1 < index ∧ n ≤ before.length then before.drop n else []
    | none => []
  match left with
  | letter :: rest => takeOption known args index letter rest
  | [] =>
    match args[index - 1]? with
    | some ['-', '-'] => { letter := '?', value := some [], index := index + 1, finished := true }
    | some ('-' :: letter :: rest) => takeOption known args (index + 1) letter rest
    | _ => { letter := '?', value := some [], index, finished := true }

/-- Takes the next option from arguments or from the positional parameters. -/
def takeNextOption (args : List Text) : Act Unit := do
  match ← operands args with
  | known :: name :: given => do
    let s ← get
    let args := if given.isEmpty then s.parameters else given
    let (index, offset) := if args.length + 1 < s.optionIndex then (1, none)
      else (s.optionIndex, s.optionOffset)
    let found := nextOption known args index offset
    if !found.complaint.isEmpty then warn found.complaint
    match found.value with
    | none => modify (·.restore (Text.ofString "OPTARG") none)
    | some value =>
      if !found.finished then Act.assign (Text.ofString "OPTARG") value
    Act.assign (Text.ofString "OPTIND") (Nat.toDigits 10 found.index)
    requireName name
    Act.assign name [found.letter]
    let argument := args[found.index - 2]?.getD []
    modify ({ · with
      optionIndex := found.index
      optionOffset := found.left.map fun left => argument.length - left.length })
    finish (if found.finished then 1 else 0)
  | _ => fail (Text.ofString "Usage: getopts optstring var [arg...]")

/-! ## Input -/

/-- The items of the first line of an input, the number of characters that it takes up, and whether
a line feed ends it. A backslash quotes the next character, and joins lines, unless the input is
taken raw. -/
def firstLine (raw : Bool) : Nat → List Item → Text → List Item × Nat × Bool
  | taken, items, [] => (items.reverse, taken, false)
  | taken, items, '\n' :: _ => (items.reverse, taken + 1, true)
  | taken, items, '\\' :: rest =>
    if raw then firstLine raw (taken + 1) (.soft '\\' :: items) rest
    else
      match rest with
      | '\n' :: rest => firstLine raw (taken + 2) (.opening false :: items) rest
      | c :: rest => firstLine raw (taken + 2) (.opening false :: .fixed c true :: items) rest
      | [] => (items.reverse, taken + 1, false)
  | taken, items, c :: rest =>
    firstLine raw (taken + 1) (if c = '\x00' then items else .soft c :: items) rest

/-- Reads a line of the input into variables. The last one takes all that is left, and the ones for
which nothing is left are empty. -/
def readInput (args : List Text) : Act Unit := do
  let (given, names) ← takeOptions ['r'] ['p'] args
  if names.isEmpty then fail (Text.ofString "arg count")
  let s ← get
  let raw := given.any (·.1 == 'r')
  let (items, taken, ended) := firstLine raw 0 [.opening false] (s.readable 0)
  modify (·.consume 0 taken)
  let values := (split s.separators (some names.length) items).map (·.map Cell.char)
  let values := values ++ List.replicate (names.length - values.length) []
  for (name, value) in names.zip values do
    requireName name
    Act.assign name value
  finish (if ended then 0 else 1)

end MaskedDump.Shell.Builtin
