import MaskedDump.FileSystem.System
import MaskedDump.Program.Machine

/-!
# The stage of a rehearsal

A scratch directory with two parts: `bin`, which holds the tools and is the whole search path, and
`work`, in which everything runs. Around it stands as much of a usual system as paths may lead to.
-/

namespace MaskedDump.Rehearsal

/-- The tools and files that a rehearsal begins with. -/
structure Props where
  scripts : List (String × Bytes) := []
  /-- The scripts that are not executable. -/
  plain : List String := []
  /-- The files in the work directory; a name that ends in a separator is that of a directory. -/
  files : List (String × Bytes) := []

namespace Stage

/-- The scratch directory. -/
def root : Place := ["tmp", "rehearsal"].map Bytes.ofString

/-- Where the tools are. -/
def bin : Place := root ++ [Bytes.ofString "bin"]

/-- Where everything runs. -/
def work : Place := root ++ [Bytes.ofString "work"]

/-- The system with an empty scratch directory. -/
def empty : FileSystem :=
  let bare : FileSystem := { entries := [([], .directory)], workPlace := work }
  ((FileSystem.System.addTo bare).makeDirectory bin).makeDirectory work

/-- The file of a tool. -/
def scriptFile (text : Bytes) : Bytes := Bytes.ofString "#!/bin/sh\n" ++ text

/-- The stage with its props. -/
def build (props : Props) : FileSystem :=
  let withTools := props.scripts.foldl
    (fun fs (name, text) =>
      fs.makeFile (bin ++ FileSystem.names (Bytes.ofString name)) (scriptFile text)
        (!props.plain.contains name))
    empty
  props.files.foldl
    (fun fs (name, content) =>
      let path := Bytes.ofString name
      let place := work ++ FileSystem.names path
      if path.getLast? = some FileSystem.separator then fs.makeDirectory place
      else fs.makeFile place content false)
    withTools

/-- The machine on a stage, with an environment. -/
def machine (environment : List (String × String)) : Program.Machine :=
  { searchPath := [bin], environment }

/-- The files left in the work directory. -/
def filesLeft (fs : FileSystem) : List (Bytes × Bytes) := fs.filesBelow work

end Stage

end MaskedDump.Rehearsal
