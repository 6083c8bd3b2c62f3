import ClusterClient.Error
import ClusterClient.Text
import ClusterClient.Url

namespace ClusterClient

/-- What a user may set. Everything that is missing has a default. -/
structure Config where
  server : Option String := none
  token : Option String := none
  namespaceName : Option String := none
  timeoutSecs : Option Nat := none
  userAgent : Option String := none
  deriving DecidableEq, Repr

namespace Config

def effectiveServer (config : Config) : String := config.server.getD "https://localhost:8443"

def effectiveNamespace (config : Config) : String := config.namespaceName.getD "default"

def effectiveTimeoutSecs (config : Config) : Nat := config.timeoutSecs.getD 30

def effectiveUserAgent (config : Config) : String := config.userAgent.getD "kubeclient/0.1.0"

/-- Variables of the environment go before the file, unless they are empty. -/
def applyEnv (lookup : String → Option String) (config : Config) : Config :=
  let given (name : String) : Option String := (lookup name).filter (· != "")
  { config with
    server := (given "KUBECLIENT_SERVER").or config.server
    token := (given "KUBECLIENT_TOKEN").or config.token
    namespaceName := (given "KUBECLIENT_NAMESPACE").or config.namespaceName }

/-- Flags of the command line go before everything else. -/
def override (server token namespaceName : Option String) (config : Config) : Config :=
  { config with
    server := server.or config.server
    token := token.or config.token
    namespaceName := namespaceName.or config.namespaceName }

/-- The server's address in its normal form, without slashes at its end. -/
def baseUrl [HostNames] (config : Config) : Except Error String :=
  match Url.read config.effectiveServer with
  | .ok (.web url) => .ok (Text.trimEnd '/' url.text)
  | .ok (.other scheme) => .error (.configuration (.unsupportedScheme scheme))
  | .error reason => .error (.configuration (.invalidServerUrl config.effectiveServer reason))

end Config

end ClusterClient
