import MaskedDump.FileSystem

/-!
# A usual system

The directories, devices and links that every run finds around its own files, and the shell, which
is the only program among them. The outlets of a process are files in a directory of their own, to
which links lead. Nothing can be made beside them, as that directory tells what the system does.
-/

namespace MaskedDump.FileSystem.System

/-- A place by its path from the root. -/
def placeOf (path : String) : Place := names (Bytes.ofString path)

/-- The directories. -/
def directories : List String :=
  ["boot", "dev", "dev/pts", "dev/shm", "etc", "home", "media", "mnt", "opt", "proc", "proc/self",
    "root", "run", "srv", "sys", "tmp", "usr", "usr/bin", "usr/lib", "usr/local", "usr/local/bin",
    "usr/sbin", "usr/share", "var", "var/lib", "var/log", "var/tmp"]

/-- The devices. -/
def devices : List (String × Device) :=
  [("dev/null", .discard), ("dev/zero", .discard), ("dev/full", .full), ("dev/random", .discard),
    ("dev/urandom", .discard), ("dev/tty", .terminal), ("proc/self/fd/0", .discard),
    ("proc/self/fd/1", .standardOutput), ("proc/self/fd/2", .standardError)]

/-- The links. -/
def links : List (String × String) :=
  [("bin", "usr/bin"), ("lib", "usr/lib"), ("sbin", "usr/sbin"), ("dev/fd", "proc/self/fd"),
    ("dev/stdin", "proc/self/fd/0"), ("dev/stdout", "proc/self/fd/1"),
    ("dev/stderr", "proc/self/fd/2"), ("var/run", "run")]

/-- The directories in which nothing can be made, and why. -/
def closed : List (String × SystemError) :=
  [("proc", .notFound), ("sys", .permissionDenied)]

/-- The place of the shell. -/
def shell : Place := placeOf "usr/bin/sh"

/-- The first bytes of a program that is no script. -/
def programMark : Bytes := [127, 69, 76, 70]

/-- Adds the system to a file system. -/
def addTo (fs : FileSystem) : FileSystem :=
  let fs := directories.foldl (fun fs path => fs.makeDirectory (placeOf path)) fs
  let fs := devices.foldl (fun fs (path, kind) => fs.makeDevice (placeOf path) kind) fs
  let fs := fs.makeFile shell programMark true
  { fs with
    links := fs.links ++ links.map fun (path, target) => (placeOf path, placeOf target)
    closed := fs.closed ++ closed.map fun (path, error) => (placeOf path, error) }

end MaskedDump.FileSystem.System
