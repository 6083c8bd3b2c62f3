import ClusterClient.CommandLine
import ClusterClient.Config.Storage

namespace ClusterClient.CommandLine

/-- The directory for configuration files. Only an absolute path overrides the one at home. -/
def configDirectory? (configHome home : Option String) : Option String :=
  (configHome.filter (·.startsWith "/")).or
    ((home.filter (· != "")).map (· ++ "/.config"))

/-- Where the log is, below the directory for configuration files. -/
def logDirectory (directory : String) : String := directory ++ "/kubeclient"

/-- The text of a file, if there is one that can be read. -/
def fileText? (path : String) : IO (Option String) :=
  try
    return some (← IO.FS.readFile path)
  catch _ => return none

/-- Make the log, unless it is there. -/
def openLog (directory : Option String) : IO Unit := do
  let path ← match directory with
    | some directory =>
      try IO.FS.createDirAll (logDirectory directory) catch _ => pure ()
      pure (logDirectory directory ++ "/kubeclient.log")
    | none => pure "kubeclient.log"
  let _ ← IO.FS.Handle.mk path IO.FS.Mode.append

/-- The variables that count for a configuration. -/
def environmentNames : List String :=
  ["KUBECLIENT_SERVER", "KUBECLIENT_TOKEN", "KUBECLIENT_NAMESPACE"]

end ClusterClient.CommandLine

open ClusterClient CommandLine in
/-- The program. It has no network of its own: no server is in its reach. -/
def main (arguments : List String) : IO UInt32 := do
  let directory := configDirectory? (← IO.getEnv "XDG_CONFIG_HOME") (← IO.getEnv "HOME")
  let file ← match directory with
    | some directory => fileText? (Config.filePath directory)
    | none => pure none
  let environment ← environmentNames.filterMapM fun name => do
    return (← IO.getEnv name).map (name, ·)
  let outcome := outcome Server.unreachable file (fun name => environment.lookup name) arguments
  if outcome.logs then openLog directory
  IO.print outcome.output
  outcome.complaint.forM fun complaint => IO.eprintln complaint
  return outcome.exitCode.toUInt32
