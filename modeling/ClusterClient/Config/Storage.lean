import ClusterClient.Config.File

namespace ClusterClient

/-- What stands at a path. -/
inductive Disk.Entry where
  | directory
  | file (text : String)
  /-- Takes everything and holds nothing. -/
  | sink
  deriving DecidableEq, Repr

/-- Files by their paths, the latest entry of a path first. The root is always there. -/
structure Disk where
  entries : List (List String × Disk.Entry) := []
  deriving DecidableEq, Repr

namespace Disk

/-- The names along a path. -/
def names (path : String) : List String := (Text.pieces '/' path).filter (· != "")

def entry? (disk : Disk) (path : List String) : Option Entry :=
  if path = [] then some .directory else disk.entries.lookup path

/-- Make one directory, unless it is there. -/
def makeDirectory (disk : Disk) (path : List String) : Option Disk :=
  match disk.entry? path with
  | none => some ⟨(path, .directory) :: disk.entries⟩
  | some .directory => some disk
  | some _ => none

/-- Make a directory and all those on the way to it. -/
def makeDirectories (disk : Disk) (path : List String) : Option Disk :=
  (List.range (path.length + 1)).foldlM (fun disk depth => disk.makeDirectory (path.take depth))
    disk

/-- Write a file in a directory that is there. -/
def write (disk : Disk) (path : List String) (text : String) : Option Disk :=
  match disk.entry? path with
  | some .directory => none
  | some .sink => some disk
  | _ => some ⟨(path, .file text) :: disk.entries⟩

/-- The text at a path, if there is one. -/
def read (disk : Disk) (path : List String) : Option String :=
  match disk.entry? path with
  | some (.file text) => some text
  | some .sink => some ""
  | _ => none

/-- What every system has: a directory of devices with one that swallows everything. -/
def system : Disk := ⟨[(["dev"], .directory), (["dev", "null"], .sink)]⟩

end Disk

namespace Config

/-- The configuration in a file, or the default if there is none that can be read. -/
def loadFrom (disk : Disk) (path : String) : Config :=
  (disk.read (Disk.names path)).elim {} ofText

/-- Write the configuration to a file, whose directories are made. -/
def saveTo (disk : Disk) (path : String) (config : Config) : Except Error Disk :=
  let names := Disk.names path
  match disk.makeDirectories names.dropLast with
  | none => .error (.configuration (.directoryNotCreated path))
  | some disk =>
    match disk.write names config.text with
    | none => .error (.configuration (.fileNotWritten path))
    | some disk => .ok disk

/-- Where a user's configuration file is, below the directory for such files. -/
def filePath (directory : String) : String := directory ++ "/kubeclient/config.yaml"

/-- Set the namespace, and write the configuration to the user's file. -/
def setNamespace (disk : Disk) (directory name : String) (config : Config) :
    Config × Except Error Disk :=
  let changed := { config with namespaceName := some name }
  (changed, changed.saveTo disk (filePath directory))

end Config

end ClusterClient
