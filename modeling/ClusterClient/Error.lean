import ClusterClient.Status
import ClusterClient.Url.Host

namespace ClusterClient

/-- What a caller or a configuration got wrong. -/
inductive Misuse where
  /-- An address without an endpoint. -/
  | noKind
  /-- An operation on one object, without its name. -/
  | nameRequired (kind : String)
  | updateWithoutName
  | resourceWithoutKind
  /-- A resource that is no object; `found` says what it is. -/
  | notAnObject (found : String)
  | invalidServerUrl (raw : String) (reason : UrlError)
  | unsupportedScheme (scheme : String)
  /-- A user agent that no header can hold. -/
  | invalidUserAgent
  | directoryNotCreated (path : String)
  | fileNotWritten (path : String)
  /-- What the maker of a resource reports, in its own words. -/
  | rejected (message : String)
  deriving DecidableEq, Repr

def Misuse.message : Misuse → String
  | noKind => "No kind set on the endpoint address builder"
  | nameRequired kind => "A name is required for " ++ kind
  | updateWithoutName => "Cannot update a resource without a name"
  | resourceWithoutKind => "Resource has no kind"
  | notAnObject found => "Expected a JSON object for a resource, got " ++ found
  | invalidServerUrl raw reason => "Invalid server URL '" ++ raw ++ "': " ++ reason.message
  | unsupportedScheme scheme => "Unsupported scheme '" ++ scheme ++ "' in server URL"
  | invalidUserAgent => "Failed to create HTTP client: builder error"
  | directoryNotCreated path => "Failed to create " ++ path
  | fileNotWritten path => "Failed to write " ++ path
  | rejected message => message

/-- Everything that an operation can fail with. -/
inductive Error where
  /-- No discovered endpoint serves the kind at the version. -/
  | unsupportedEndpoint (kind : String) (version : Option String)
  /-- No server carries the verb out on the kind. -/
  | unsupportedOperation (verb kind : String)
  /-- The request got no answer. -/
  | transport (url : String)
  | unauthorized (url message : String)
  | forbidden (url message : String)
  /-- Any other answer that is no success. -/
  | serverRejection (url : String) (status : Status)
  | configuration (misuse : Misuse)
  /-- The answer is not what was asked for. -/
  | materialization
  deriving DecidableEq, Repr

namespace Error

/-- The error of an answer: its HTTP code decides the kind, its status tells the rest. -/
def ofResponse (url : String) (code : Nat) (body : String) : Error :=
  let status := Status.ofBody code body
  if code = 401 then unauthorized url status.message
  else if code = 403 then forbidden url status.message
  else serverRejection url status

def statusCode? : Error → Option Nat
  | unauthorized .. => some 401
  | forbidden .. => some 403
  | serverRejection _ status => some status.code
  | _ => none

def isNotFound (error : Error) : Bool := error.statusCode? == some 404

def message : Error → String
  | unsupportedEndpoint kind version =>
    "Unsupported endpoint: kind " ++ kind ++ " version " ++ version.getD "<any>"
  | unsupportedOperation verb kind => "Unsupported operation: " ++ verb ++ " on " ++ kind
  | transport url => "Transport failure for " ++ url ++ ": no response"
  | unauthorized url message => "Unauthorized for " ++ url ++ ": " ++ message
  | forbidden url message => "Forbidden for " ++ url ++ ": " ++ message
  | serverRejection url status => "Server rejected request to " ++ url ++ ": " ++ status.text
  | configuration misuse => "Configuration error: " ++ misuse.message
  | materialization => "Failed to materialize response: not the expected JSON"

end Error

end ClusterClient
