import ClusterClient.Config
import ClusterClient.Router
import ClusterClient.Text
import ClusterClient.Watch

namespace ClusterClient

/-- A client of one server: where it is, what it prefers, and how answers become resources. -/
structure Client where
  config : Config
  router : Router
  materializer : Materializer := {}

namespace Client

/-- The client of a configuration, which has to name a web server. -/
def ofConfig [HostNames] (server : Server) (factories : List Capability.Factory) (config : Config) :
    Except Error Client := do
  let base ← config.baseUrl
  let transport ← Transport.ofUserAgent server config.effectiveUserAgent config.token
  return { config, router := .ofBase base transport factories }

def base (client : Client) : String := client.router.base

/-- The namespace of an operation: the one asked for, or else the configured one if the kind is
served in namespaces. The catalog is needed only for that. -/
def namespaceFor (client : Client) (identity : Identity) : StateM Session (Option String) := do
  match identity.namespaceName with
  | some name => return some name
  | none =>
    if Kind.isNamespaceRoot identity.kind then return none
    else
      let endpoint ← client.router.resolve identity.version identity.kind
      return endpoint.bind fun endpoint =>
        if endpoint.namespaced then some client.config.effectiveNamespace else none

/-- The request of a verb for an identity, without its name. The aggregate kind is refused before
the catalog is needed. -/
def request (client : Client) (verb : Verb) (identity : Identity) :
    StateM Session (Except Error Request) := do
  if identity.kind = Kind.aggregate then
    return .error (.unsupportedOperation verb.name identity.kind)
  else
    let namespaceName ← client.namespaceFor identity
    return .ok {
      verb
      kind := identity.kind
      version := identity.version
      namespaceName
      subresource := identity.subresource }

/-- The name that an operation on one object needs. -/
def requiredName (identity : Identity) : Except Error String :=
  match identity.name with
  | some name => .ok name
  | none => .error (.configuration (.nameRequired identity.kind))

/-- Carry out a verb on the object that an identity names. -/
def onNamed {α : Type} (client : Client) (verb : Verb) (identity : Identity)
    (materialize : String → Except Error α) : StateM Session (Except Error α) := do
  match requiredName identity with
  | .error error => return .error error
  | .ok name =>
    match ← client.request verb identity with
    | .error error => return .error error
    | .ok request => client.router.execute { request with name := some name } materialize

/-- Get one resource. -/
def get (client : Client) (identity : Identity) : StateM Session (Except Error Resource) :=
  client.onNamed .get identity client.materializer.materializeBody

/-- The document that a deletion answers with; null if the body is blank. -/
def deletionAnswer (body : String) : Except Error Json :=
  if body.toList.all Text.isSpace then .ok .null else Materializer.document body

/-- Delete one resource. -/
def delete (client : Client) (identity : Identity) : StateM Session (Except Error Json) :=
  client.onNamed .delete identity deletionAnswer

/-- List a collection. A name in the identity does not count. -/
def list (client : Client) (identity : Identity) : StateM Session (Except Error ResourceList) := do
  match ← client.request .list identity with
  | .error error => return .error error
  | .ok request => client.router.execute request client.materializer.materializeList

/-- The request that writes a resource, in the namespace asked for or else in its own. -/
def writeRequest (client : Client) (verb : Verb) (resource : Resource)
    (namespaceName : Option String) : StateM Session (Except Error Request) := do
  match resource.kind? with
  | none => return .error (.configuration .resourceWithoutKind)
  | some kind =>
    let request ← client.request verb {
      kind
      version := resource.apiVersion?
      namespaceName := namespaceName.or resource.namespace? }
    return request.map fun request => { request with payload := some (.resource resource) }

/-- Create a resource. -/
def create (client : Client) (resource : Resource) (namespaceName : Option String) :
    StateM Session (Except Error Resource) := do
  match ← client.writeRequest .create resource namespaceName with
  | .error error => return .error error
  | .ok request => client.router.execute request client.materializer.materializeBody

/-- Replace the resource of the same name. -/
def update (client : Client) (resource : Resource) (namespaceName : Option String) :
    StateM Session (Except Error Resource) := do
  match resource.name? with
  | none => return .error (.configuration .updateWithoutName)
  | some name =>
    match ← client.writeRequest .update resource namespaceName with
    | .error error => return .error error
    | .ok request =>
      client.router.execute { request with name := some name } client.materializer.materializeBody

/-- The address of a watch on a collection, which goes on where a list ended. -/
def watchUrl (client : Client) (identity : Identity) (list : Option ResourceList) :
    StateM Session (Except Error String) := do
  if identity.kind = Kind.aggregate then
    return .error (.unsupportedOperation "watch" identity.kind)
  else
    let namespaceName ← client.namespaceFor identity
    let catalog ← client.router.catalog
    return Watch.address client.base catalog identity.version identity.kind namespaceName list

/-- A watch on a collection. -/
def watchChannel (client : Client) (identity : Identity) (list : Option ResourceList) :
    StateM Session (Except Error Watch.Channel) := do
  return (← client.watchUrl identity list).map fun url =>
    { url, materializer := client.materializer }

end Client

end ClusterClient
