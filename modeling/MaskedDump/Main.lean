import MaskedDump.CommandLine
import MaskedDump.FileSystem.System

/-!
# The program

Takes in the surroundings of a run (the arguments, the environment, the tools on the search path,
and the directories that the target lies in), runs the command line on them, and writes out what it
shows and the files that it leaves. Everything is decided by `CommandLine.run`. The client tools
that it can run are shell scripts.
-/

namespace MaskedDump.Main

/-! ## Taking in -/

/-- The content of a file of the disk, if there is one that can be read. -/
def content? (path : String) : IO (Option Bytes) := do
  try
    return some (← IO.FS.readBinFile path).data.toList
  catch _ => return none

/-- Whether a path leads to a directory of the disk. -/
def isDirectory (path : String) : IO Bool := do
  try
    let _ ← IO.FS.realPath (path ++ "/.")
    return true
  catch _ => return false

/-- Adds the directories of the disk that the beginnings of a path lead to. -/
def addDirectories (fs : FileSystem) (path : String) : IO FileSystem := do
  let names := path.splitOn "/"
  (List.range names.length).foldlM
    (fun fs n => do
      let beginning := "/".intercalate (names.take (n + 1)) ++ "/"
      if ← isDirectory beginning then
        match fs.resolve (Bytes.ofString beginning) with
        | .ok place => return fs.makeDirectory place
        | .error _ => return fs
      else return fs)
    fs

/-- Adds the client tools of one directory of the search path, and adds the directory to the path.
-/
def addTools (sofar : FileSystem × List Place) (directory : String) :
    IO (FileSystem × List Place) := do
  let (fs, searchPath) := sofar
  let directory := if directory.isEmpty then "." else directory
  let fs ← addDirectories fs directory
  match fs.resolve (Bytes.ofString directory) with
  | .error _ => return (fs, searchPath)
  | .ok place =>
    let fs ← ClientTools.required.foldlM
      (fun fs tool => do
        match ← content? (directory ++ "/" ++ tool) with
        | some content => return fs.makeFile (place ++ [Bytes.ofString tool]) content true
        | none => return fs)
      fs
    return (fs, searchPath ++ [place])

/-- The path of the file that the arguments name as the target, if there is one. -/
def targetPath? (argv : List Bytes) : Option String :=
  match Arguments.parse argv with
  | .ok a => a.file.bind Utf8.decode?
  | .error _ => none

/-- The part of the disk that a run can see, and the search path. -/
def surroundings (argv : List Bytes) : IO (FileSystem × List Place) := do
  let workPlace := FileSystem.names (Bytes.ofString (← IO.currentDir).toString)
  let bare : FileSystem := { entries := [([], .directory)], workPlace }
  let fs := (FileSystem.System.addTo bare).makeDirectory workPlace
  let fs ← match targetPath? argv with
    | some path => addDirectories fs path
    | none => pure fs
  match ← IO.getEnv "PATH" with
  | some text => (text.splitOn ":").foldlM addTools (fs, [])
  | none => return (fs, [])

/-- The variables of the environment that a run looks at. -/
def environment : IO (List (String × String)) := do
  match ← IO.getEnv CommandLine.filterVariable with
  | some text => return [(CommandLine.filterVariable, text)]
  | none => return []

/-! ## Writing out -/

/-- A byte string as the system takes it. -/
def packed (bs : Bytes) : ByteArray := ⟨bs.toArray⟩

/-- Writes the files among some entries to the disk. -/
def writeFiles (entries : List (Place × Entry)) : IO Unit := do
  for (place, entry) in entries do
    match entry, Utf8.decode? (place.flatMap (FileSystem.separator :: ·)) with
    | .file content _, some path => IO.FS.writeBinFile path (packed content)
    | _, _ => pure ()

end MaskedDump.Main

open MaskedDump in
/-- Runs the program. Its log goes to standard error. -/
def main (args : List String) : IO UInt32 := do
  let argv := args.map Bytes.ofString
  let (fs, searchPath) ← Main.surroundings argv
  let environment ← Main.environment
  let (shown, files) := CommandLine.run { searchPath, environment } argv fs
  Main.writeFiles (files.changedSince fs)
  let output ← IO.getStdout
  output.write (Main.packed shown.standardOutput)
  output.flush
  let diagnostics ← IO.getStderr
  diagnostics.putStr (String.join (shown.log.map (· ++ "\n")) ++ shown.report)
  return UInt32.ofNat shown.exit
