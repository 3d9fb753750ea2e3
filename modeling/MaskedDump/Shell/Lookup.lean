import MaskedDump.FileSystem.System
import MaskedDump.Shell.State

/-!
# What a name stands for

A command is named by a word of the language, an alias, a function, a command that the shell itself
provides, or a program. Programs are files that may be executed: scripts that name the shell as
their interpreter, and the shell. They are looked up in the directories of a search path unless the
name is a path.
-/

namespace MaskedDump.Shell

/-! ## Programs -/

/-- A program. -/
inductive Program
  | script (content : Bytes)
  | shell

namespace Program

/-- The first bytes of a file that names its interpreter. -/
def interpreterMark : Bytes := Bytes.ofString "#!"

/-- The interpreter of scripts, as they name it. -/
def interpreter : Bytes := Bytes.ofString "/bin/sh"

/-- The program that stands at a place. -/
def atPlace (files : FileSystem) (place : Place) : Except SystemError Program :=
  match files.get? place with
  | none => .error .notFound
  | some (.file content true) =>
    if place = FileSystem.System.shell then .ok .shell
    else
      match Bytes.after? interpreterMark content with
      | none => .error .notExecutable
      | some rest =>
        if Bytes.trim (rest.takeWhile (· ≠ Bytes.lineFeed)) = interpreter then .ok (.script content)
        else .error .notFound
  | some _ => .error .permissionDenied

/-- The program that a path leads to. A script that names no interpreter is one all the same. -/
def atPath (files : FileSystem) (path : Text) : Except SystemError Program := do
  let (place, entry) ← files.find (Text.toBytes path)
  match atPlace files place, entry with
  | .error .notExecutable, .file content _ => return .script content
  | result, _ => result

end Program

/-- The directories of a search path. -/
def directoriesIn (searchPath : Text) : List Text := searchPath.splitOn ':'

/-- The path of a name in a directory of a search path. -/
def pathIn (directory name : Text) : Text :=
  if directory.isEmpty then name else directory ++ '/' :: name

/-- Where a program is found in the directories of a search path, or what became of the attempt that
counts: something that cannot be executed, if there is one. -/
def searchFor (files : FileSystem) (searchPath name : Text) : Except SystemError Text :=
  go .notFound (directoriesIn searchPath)
where
  go (verdict : SystemError) : List Text → Except SystemError Text
    | [] => .error verdict
    | directory :: rest =>
      let path := pathIn directory name
      match files.find (Text.toBytes path) with
      | .ok (_, .file _ true) => .ok path
      | .ok _ => go .permissionDenied rest
      | .error e => go (if e = .notFound ∨ e = .notADirectory then verdict else e) rest

/-- What is said of a program that cannot be run. -/
def programRefusal (error : SystemError) : Text :=
  Text.ofString
    (if error = .notFound ∨ error = .notADirectory then "not found" else error.description)

/-! ## Names -/

/-- The commands that the shell provides beside those of its language. -/
def regularCommands : List String :=
  [ "[", "alias", "bg", "cd", "chdir", "command", "echo", "false", "fg", "getopts", "hash", "jobs",
    "kill", "printf", "pwd", "read", "test", "true", "type", "ulimit", "umask", "unalias", "wait" ]

/-- What a name stands for. -/
inductive Meaning
  | keyword
  | alias (value : Text)
  | function (body : Command)
  | special
  | regular
  | program (path : Text)
  | unknown (error : SystemError)

namespace State

/-- The search path. -/
def searchPath (s : State) : Text := (s.value? (Text.ofString "PATH")).getD []

/-- What a name stands for where it is the name of a command; functions may be left out. -/
def commandMeaning (s : State) (functions : Bool) (searchPath name : Text) : Meaning :=
  match if functions then s.functions.lookup name else none with
  | some body => .function body
  | none =>
    if specialCommands.contains (String.ofList name) then .special
    else if regularCommands.contains (String.ofList name) then .regular
    else if name.contains '/' then .program name
    else match searchFor s.files searchPath name with
      | .ok path => .program path
      | .error e => .unknown e

/-- What a name stands for. -/
def meaning (s : State) (searchPath name : Text) : Meaning :=
  if keywords.contains (String.ofList name) then .keyword
  else match s.aliases.lookup name with
    | some value => .alias value
    | none =>
      match s.commandMeaning true searchPath name with
      | .program path =>
        match s.files.find (Text.toBytes path) with
        | .ok _ => .program path
        | .error e => .unknown e
      | other => other

end State

end MaskedDump.Shell
