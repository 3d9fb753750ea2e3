import MaskedDump.Options.Flag
import MaskedDump.Text.Terminal
import MaskedDump.Text.Utf8

/-!
# Reading the command line

The arguments of a run are read from left to right. A flag that takes a value may stand before it,
or hold it behind an equals sign, or, with the short form, right behind its letter; short flags
without a value can be bundled. A value that was met last is only checked when the next flag or
value follows, or at the end, so a misspelled flag is reported before a fault in the value before
it.
-/

namespace MaskedDump

/-- The arguments of a run. -/
structure Arguments where
  dbname : Option String := none
  serverHost : Option String := none
  serverPort : Option String := none
  username : Option String := none
  noPassword : Bool := false
  password : Bool := false
  encoding : Option String := none
  schemas : List String := []
  excludeSchemas : List String := []
  tables : List String := []
  excludeTables : List String := []
  excludeTableData : List String := []
  file : Option Bytes := none
  verbose : Bool := false
  positional : Option String := none
  deriving DecidableEq, Repr

namespace Arguments

/-- Where a value goes: to a flag, or to the one argument without a flag. -/
inductive Slot
  | flag (f : Flag)
  | positional
  deriving DecidableEq, Repr

/-- Why a command line is not run: it is faulty, or it asks for a text. -/
inductive Refusal
  | unknownArgument (shown : String)
  | valueMissing (slot : Slot)
  | givenTwice (slot : Slot)
  | valueUnexpected (shown : String) (f : Flag)
  | notUtf8
  | helpWanted
  | versionWanted
  deriving DecidableEq, Repr

/-! ## Wording -/

/-- How a slot is called in a message. -/
def Slot.signature : Slot → String
  | .flag f => f.signature
  | .positional => "[DBNAME]"

/-- The message of a refusal in full, as far as a reader of its first line can see it. What the
message quotes is set off. -/
def Refusal.text : Refusal → String
  | .unknownArgument shown => "error: unexpected argument '" ++ Terminal.setOff shown ++ "' found\n"
  | .valueMissing slot =>
    "error: a value is required for '" ++ Terminal.setOff slot.signature
      ++ "' but none was supplied\n"
  | .givenTwice slot =>
    "error: the argument '" ++ Terminal.setOff slot.signature
      ++ "' cannot be used multiple times\n"
  | .valueUnexpected shown f =>
    "error: unexpected value '" ++ Terminal.setOff shown ++ "' for '" ++ Terminal.setOff f.dashed
      ++ "' found; no more were expected\n"
  | .notUtf8 => "error: invalid UTF-8 was detected in one or more arguments\n"
  | .helpWanted => Flag.usageText
  | .versionWanted => Flag.versionText

/-- The first line of a refusal as it is written to a terminal that shows no sequences, with its
line end. -/
def Refusal.report (refusal : Refusal) : String :=
  Utf8.display (Bytes.firstLine
    (Terminal.printed true false .ground (Bytes.ofString refusal.text)))

/-- The message of a refusal: the first line of a fault, without its line end, or the whole text
that was asked for. -/
def Refusal.message (refusal : Refusal) : String :=
  match refusal with
  | .helpWanted | .versionWanted => refusal.text
  | _ =>
    Utf8.display (Bytes.dropLineEnd (Bytes.firstLine
      (Terminal.printed false false .ground (Bytes.ofString refusal.text))))

/-! ## Storing values -/

/-- Whether a slot that holds one value is already filled. -/
def filled (a : Arguments) : Slot → Bool
  | .positional => a.positional.isSome
  | .flag .dbname => a.dbname.isSome
  | .flag .serverHost => a.serverHost.isSome
  | .flag .serverPort => a.serverPort.isSome
  | .flag .username => a.username.isSome
  | .flag .noPassword => a.noPassword
  | .flag .password => a.password
  | .flag .encoding => a.encoding.isSome
  | .flag .file => a.file.isSome
  | .flag .verbose => a.verbose
  | .flag _ => false

/-- Stores a text in its slot; a repeatable flag collects its values in order. -/
def put (a : Arguments) (value : String) : Slot → Arguments
  | .positional => { a with positional := some value }
  | .flag .dbname => { a with dbname := some value }
  | .flag .serverHost => { a with serverHost := some value }
  | .flag .serverPort => { a with serverPort := some value }
  | .flag .username => { a with username := some value }
  | .flag .encoding => { a with encoding := some value }
  | .flag .schema => { a with schemas := a.schemas ++ [value] }
  | .flag .excludeSchema => { a with excludeSchemas := a.excludeSchemas ++ [value] }
  | .flag .table => { a with tables := a.tables ++ [value] }
  | .flag .excludeTable => { a with excludeTables := a.excludeTables ++ [value] }
  | .flag .excludeTableData => { a with excludeTableData := a.excludeTableData ++ [value] }
  | .flag _ => a

/-- Stores the value of a slot, checked in this order: it was given, its slot is free, it can be
read. The name of a file may be any bytes but not empty; all other values are UTF-8. -/
def store (a : Arguments) (slot : Slot) : Option Bytes → Except Refusal Arguments
  | none => .error (.valueMissing slot)
  | some value =>
    if a.filled slot then .error (.givenTwice slot)
    else if slot = .flag .file then
      if value.isEmpty then .error (.valueMissing slot) else .ok { a with file := some value }
    else match Utf8.decode? value with
      | some text => .ok (a.put text slot)
      | none => .error .notUtf8

/-- Turns on a flag that takes no value. -/
def turnOn (a : Arguments) (f : Flag) : Except Refusal Arguments :=
  if a.filled (.flag f) then .error (.givenTwice (.flag f))
  else match f with
    | .noPassword => .ok { a with noPassword := true }
    | .password => .ok { a with password := true }
    | .verbose => .ok { a with verbose := true }
    | .help => .error .helpWanted
    | .version => .error .versionWanted
    | _ => .ok a

/-! ## The reader -/

/-- How far the reading has come: what is stored, the slot met last with the value it has so far,
whether only values follow, and whether the argument without a flag was met. -/
structure Reader where
  stored : Arguments := {}
  pending : Option (Slot × Option Bytes) := none
  onlyValues : Bool := false
  positionalMet : Bool := false

namespace Reader

/-- Stores what is pending. -/
def settle (r : Reader) : Except Refusal Reader :=
  match r.pending with
  | none => .ok r
  | some (slot, value) => do
    let stored ← r.stored.store slot value
    return { r with stored, pending := none }

/-- Meets a flag with the value that is attached to it, if any. -/
def meet (r : Reader) (f : Flag) (attached : Option Bytes) : Except Refusal Reader := do
  let r ← r.settle
  if f.takesValue then
    match attached with
    | none => return { r with pending := some (.flag f, none) }
    | some value =>
      let stored ← r.stored.store (.flag f) (some value)
      return { r with stored }
  else
    let stored ← r.stored.turnOn f
    return { r with stored }

/-- Reads a long flag, given without its dashes. -/
def readLong (r : Reader) (body : Bytes) : Except Refusal Reader :=
  let name := body.takeWhile (· ≠ 61)
  let attached := (body.dropWhile (· ≠ 61)).tail?
  match (Utf8.decode? name).bind Flag.ofLong? with
  | none => .error (.unknownArgument ("--" ++ Utf8.display name))
  | some f =>
    match attached with
    | some value =>
      if f.takesValue then r.meet f (some value)
      else .error (.valueUnexpected (Utf8.display value) f)
    | none => r.meet f none

/-- Reads a bundle of short flags: its letters, and the bytes behind them that are no text. What
follows a flag that takes a value is that value, behind an equals sign or without. -/
def readShort (r : Reader) : List Char → Bytes → Except Refusal Reader
  | [], [] => .ok r
  | [], broken => .error (.unknownArgument ("-" ++ Utf8.display broken))
  | letter :: letters, broken =>
    match Flag.ofShort? letter with
    | none => .error (.unknownArgument (String.ofList ['-', letter]))
    | some f =>
      if f.takesValue then
        match Bytes.ofString (String.ofList letters) ++ broken with
        | [] => r.meet f none
        | b :: value => r.meet f (some (if b = 61 then value else b :: value))
      else do
        let r ← r.meet f none
        r.readShort letters broken

/-- Reads an argument that is no flag: the value that a flag waits for, or the one argument without
a flag. -/
def readValue (r : Reader) (token : Bytes) : Except Refusal Reader :=
  match r.pending with
  | some (.flag f, none) =>
    if r.onlyValues then positional r else .ok { r with pending := some (.flag f, some token) }
  | _ => positional r
where
  positional (r : Reader) : Except Refusal Reader :=
    if r.positionalMet then .error (.unknownArgument (Utf8.display token))
    else do
      let r ← r.settle
      return { r with pending := some (.positional, some token), positionalMet := true }

/-- Reads one argument. Behind a lone `--` all arguments are values, and a lone `-` always is. -/
def read (r : Reader) (token : Bytes) : Except Refusal Reader :=
  match r.onlyValues, token with
  | false, [45, 45] => .ok { r with onlyValues := true }
  | false, 45 :: 45 :: body => r.readLong body
  | false, 45 :: b :: body =>
    let (letters, broken) := Utf8.splitValid (b :: body)
    r.readShort letters.toList broken
  | _, _ => r.readValue token

end Reader

/-- Reads a command line, given without the name of the program. -/
def parse (argv : List Bytes) : Except Refusal Arguments := do
  let r ← argv.foldlM Reader.read {}
  let r ← r.settle
  return r.stored

end Arguments

end MaskedDump
