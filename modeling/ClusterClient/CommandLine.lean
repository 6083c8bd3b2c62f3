import ClusterClient.Client
import ClusterClient.CommandLine.Arguments
import ClusterClient.Config.File
import ClusterClient.LogText
import ClusterClient.Url.DomainName

namespace ClusterClient

/-- An endpoint as it is shown, its members in this order. -/
def Endpoint.toJson (endpoint : Endpoint) : Json :=
  .object [
    ("address_prefix", .text endpoint.addressPrefix),
    ("group_name", (endpoint.groupName.map Json.text).getD .null),
    ("version", .text endpoint.version),
    ("plural_name", .text endpoint.pluralName),
    ("kind", .text endpoint.kind),
    ("namespaced", .bool endpoint.namespaced),
    ("verbs", .list (endpoint.verbs.map .text)),
    ("capabilities", .list (endpoint.capabilities.map .text))]

namespace CommandLine

/-- What a run of the program leaves behind. -/
structure Outcome where
  exitCode : Nat
  output : String := ""
  /-- What is told to the user of a run that failed. -/
  complaint : Option String := none
  /-- Whether there is a log. -/
  logs : Bool := false
  /-- The requests sent, in order. -/
  sent : List Http.Request := []

/-- The name and version of the program. -/
def versionLine : String := "kubeclient 0.1.0\n"

/-- How the program is used. -/
def helpText : String := String.join <| [
  "Command line client for Kubernetes/OpenShift API servers",
  "",
  "Usage: kubeclient [OPTIONS] <COMMAND>",
  "",
  "Commands:",
  "  api-resources  Print the discovered resource endpoints",
  "  get            Get one resource, or list a kind when no name is given",
  "  delete         Delete one resource",
  "  version        Print client and server versions",
  "  help           Print this message",
  "",
  "Options:",
  "  -s, --server <SERVER>        API server URL",
  "      --token <TOKEN>          Bearer token",
  "  -n, --namespace <NAMESPACE>  Namespace to use",
  "      --log-level <LOG_LEVEL>  off, error, warn, info, debug or trace",
  "  -h, --help                   Print help",
  "  -V, --version                Print version"].map (· ++ "\n")

/-- The program's own build. -/
def build : String := "dev"

/-- Carry out a command. The document is what gets printed. -/
def Command.run (client : Client) : Command → StateM Session (Except Error Json)
  | .apiResources => return .ok (.list ((← client.router.catalog).endpoints.map Endpoint.toJson))
  | .get kind (some name) apiVersion =>
    return (← client.get { kind, version := apiVersion, name := some name }).map Resource.toJson
  | .get kind none apiVersion =>
    return (← client.list { kind, version := apiVersion }).map ResourceList.toJson
  | .delete kind name apiVersion =>
    client.delete { kind, version := apiVersion, name := some name }
  | .version => do
    let server := ((← client.router.serverVersion).map ServerVersion.toJson).getD .null
    return .ok (.object [("client", .text build), ("server", server)])

/-- The configuration that counts: flags before the environment before the file. -/
def configuration (file : Option String) (lookup : String → Option String)
    (settings : Settings) : Config :=
  ((file.elim {} Config.ofText).applyEnv lookup).override settings.server settings.token
    settings.namespaceName

/-- Carry out a command with a configuration. -/
def Command.outcome (server : Server) (config : Config) (logs : Bool) (command : Command) :
    Outcome :=
  match Client.ofConfig server Capability.Factory.standard config with
  | .error error => { exitCode := 1, complaint := some (LogText.ofError error), logs }
  | .ok client =>
    match (command.run client).run {} with
    | (.ok document, session) =>
      { exitCode := 0, output := document.pretty ++ "\n", logs, sent := session.sent }
    | (.error error, session) =>
      { exitCode := 1, complaint := some (LogText.ofError error), logs, sent := session.sent }

/-- Run the program. -/
def outcome (server : Server) (file : Option String) (lookup : String → Option String)
    (arguments : List String) : Outcome :=
  match ofArguments arguments with
  | .error .version => { exitCode := 0, output := versionLine }
  | .error .help => { exitCode := 0, output := helpText }
  | .error .misuse => { exitCode := 2 }
  | .ok (settings, command) =>
    command.outcome server (configuration file lookup settings)
      (settings.logLevel.any (· != .off))

end CommandLine

end ClusterClient
