import RecordLayer.Error

/-!
# Where a file goes

A program that starts in an empty directory, fresh among the temporary ones,
appends to a file.  Its path decides whether the file appears in the
directory, lies elsewhere, or cannot be used: names cannot lead through
directories that do not exist or through files, and a directory is no file.

Outside the directory only the usual directories and devices of a system are
known; every other name is free there.
-/

namespace RecordLayer.CommandLine

/-- Where a path leads. -/
inductive Destination where
  /-- A file of the starting directory. -/
  | here (name : String)
  /-- A file outside the starting directory. -/
  | elsewhere
  | nowhere (error : FileError)
deriving DecidableEq, Repr

/-- The longest name of a file, in bytes. -/
def maxNameBytes : Nat := 255

/-- The longest path, in bytes. -/
def maxPathBytes : Nat := 4095

/-- The directories at the root of a usual system. -/
def topDirectories : List String :=
  ["bin", "boot", "dev", "etc", "home", "lib", "lib64", "media", "mnt", "opt", "proc", "root",
    "run", "sbin", "srv", "sys", "tmp", "usr", "var"]

/-- The directories of a usual system, each by its names from the root. -/
def usualDirectories : List (List String) :=
  topDirectories.map (fun name => [name]) ++
    [["dev", "shm"], ["dev", "pts"], ["usr", "bin"], ["usr", "include"], ["usr", "lib"],
      ["usr", "local"], ["usr", "local", "bin"], ["usr", "local", "lib"], ["usr", "sbin"],
      ["usr", "share"], ["usr", "src"], ["var", "cache"], ["var", "lib"], ["var", "log"],
      ["var", "tmp"]]

/-- The device that is always full. -/
def fullDevice : List String := ["dev", "full"]

/-- The directory of processes, where no file can be made. -/
def processDirectory : List String := ["proc"]

/-- The directory of the kernel's settings, which refuses new files. -/
def settingsDirectory : List String := ["sys"]

/-- The devices of a usual system. -/
def usualDevices : List (List String) :=
  [["dev", "null"], ["dev", "zero"], fullDevice, ["dev", "random"], ["dev", "urandom"]]

/-- The directory in which the starting directory lies. -/
def temporaryDirectory : List String := ["tmp"]

/-- Where a walk along a path has come to. -/
inductive Place where
  /-- The starting directory, which is empty. -/
  | start
  /-- A usual directory, by its names from the root. -/
  | usual (names : List String)
deriving DecidableEq, Repr

namespace Place

/-- The directory that a place is in; the root is in itself. -/
def parent : Place → Place
  | .start => .usual temporaryDirectory
  | .usual names => .usual names.dropLast

/-- The names from the root of what has a name at a place, where they are known. -/
def names? (place : Place) (name : String) : Option (List String) :=
  match place with
  | .start => none
  | .usual names => some (names ++ [name])

/-- The usual directory that has a name at a place. -/
def directory? (place : Place) (name : String) : Option Place :=
  ((place.names? name).filter usualDirectories.contains).map .usual

/-- Whether a device has a name at a place. -/
def hasDevice (place : Place) (name : String) : Bool :=
  (place.names? name).any usualDevices.contains

end Place

/-- The parts of a path between slashes. -/
def pathParts (path : String) : List String :=
  path.splitOn "/"

/-- Where the last name of a path leads. -/
def lastPart (path : String) (place : Place) (name : String) : Destination :=
  if maxNameBytes < name.utf8ByteSize then .nowhere (.nameTooLong path)
  else
    match place with
    | .start => .here name
    | .usual names =>
      if names ++ [name] = fullDevice then .nowhere .noSpace
      else if names = processDirectory then .nowhere (.missing path)
      else if names = settingsDirectory then .nowhere (.denied path)
      else .elsewhere

/-- Why a path cannot lead on from a name that is no directory. -/
def impasse (path : String) (place : Place) (name : String) : FileError :=
  if maxNameBytes < name.utf8ByteSize then .nameTooLong path
  else if place.hasDevice name then .notDirectory path
  else .missing path

/-- Follow the parts of a path from a place.  An empty part and `.` stay where
they are.  A slash at the end asks for a directory, whatever the name before it. -/
def follow (path : String) (place : Place) : List String → Destination
  | [] => .nowhere (.isDirectory path)
  | part :: rest =>
    if part = "" || part = "." then follow path place rest
    else if part = ".." then follow path place.parent rest
    else
      match place.directory? part with
      | some directory => follow path directory rest
      | none =>
        if rest.isEmpty then lastPart path place part
        else if rest.all (· = "") then .nowhere (.isDirectory path)
        else .nowhere (impasse path place part)

/-- Where a path leads. -/
def destination (path : String) : Destination :=
  if path.toList.contains '\x00' then .nowhere .nulInPath
  else if maxPathBytes < path.utf8ByteSize then .nowhere (.nameTooLong path)
  else if path = "" then .nowhere (.missing path)
  else if path.toList.head? = some '/' then follow path (.usual []) (pathParts path)
  else follow path .start (pathParts path)

/-- Why a file cannot be used, if it cannot. -/
def Destination.fault? : Destination → Option FileError
  | .nowhere error => some error
  | _ => none

end RecordLayer.CommandLine
