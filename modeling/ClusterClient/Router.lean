import ClusterClient.Request
import ClusterClient.Session

namespace ClusterClient

/-- How operations reach a server. -/
structure Router where
  /-- The server's address without slashes at its end. -/
  base : String
  transport : Transport
  factories : List Capability.Factory

namespace Router

def ofBase (base : String) (transport : Transport) (factories : List Capability.Factory) : Router :=
  { base := Text.trimEnd '/' base, transport, factories }

/-- The catalog, discovered now if it has not been. -/
def catalog (router : Router) : StateM Session Catalog := do
  match (← get).catalog with
  | some catalog => return catalog
  | none =>
    let catalog ← Session.onWire (Discovery.discover router.transport router.base)
    modify fun session => { session with catalog := some catalog }
    return catalog

def resolve (router : Router) (version : Option String) (kind : String) :
    StateM Session (Option Endpoint) :=
  return (← router.catalog).resolve version kind

/-- Whether a resource's own kind and version resolve. Without a kind it is not looked up. -/
def isSupportedResource (router : Router) (resource : Resource) : StateM Session Bool :=
  match resource.kind? with
  | some kind => return (← router.catalog).isSupported kind resource.apiVersion?
  | none => return false

/-- The server's version, asked for now if it has not been. A failure counts as an answer. -/
def serverVersion (router : Router) : StateM Session (Option ServerVersion) := do
  match (← get).serverVersion with
  | some version => return version
  | none =>
    let answer ← Session.onWire
      (router.transport.fetch ServerVersion.ofTree? (router.base ++ "/version"))
    let version := answer.toOption
    modify fun session => { session with serverVersion := some version }
    return version

/-- Find the address of a request. The aggregate kind is refused before the catalog is needed. -/
def prepare (router : Router) (request : Request) : StateM Session (Except Error PreparedRequest) :=
  if request.kind = Kind.aggregate then return .error request.aggregateError
  else return request.prepare router.base (← router.catalog)

/-- Send a prepared request. -/
def sendPrepared (router : Router) (prepared : PreparedRequest) :
    StateM Session (Except Error String) := do
  let response ← Session.onWire
    (router.transport.send prepared.method prepared.url prepared.body)
  return Transport.outcome prepared.url response

/-- Carry a request out, and turn the body of the answer into something. -/
def execute {α : Type} (router : Router) (request : Request)
    (materialize : String → Except Error α) : StateM Session (Except Error α) := do
  match ← router.prepare request with
  | .error error => return .error error
  | .ok prepared => return (← router.sendPrepared prepared).bind materialize

/-- The registry of the client as a whole, made now if it has not been. The server's version is
needed before the catalog. -/
def registry (router : Router) : StateM Session Capability.Registry := do
  match (← get).capabilities with
  | some registry => return registry
  | none =>
    let serverVersion ← router.serverVersion
    let catalog ← router.catalog
    let registry := Capability.Registry.ofFactories router.factories
      { serverVersion, catalog := some catalog }
    modify fun session => { session with capabilities := some registry }
    return registry

/-- Put a question to the registry of the client as a whole. The factories that run for it are kept
track of in the session, whatever becomes of the registry. -/
def ask {α : Type} (router : Router) (question : Capability.Registry → α × Capability.Registry) :
    StateM Session α := do
  let registry ← router.registry
  let (answer, asked) := question registry
  modify fun session => { session with
    capabilities := some asked
    consulted := session.consulted ++ asked.consultedSince registry }
  return answer

def supports (router : Router) (kind : CapabilityKind) : StateM Session Bool :=
  router.ask (Capability.Registry.supports kind)

/-- The registry of a resource. Here the catalog is needed before the server's version. -/
def registryOf (router : Router) (resource : Resource) : StateM Session Capability.Registry := do
  let catalog ← router.catalog
  let endpoint := resource.kind?.bind (catalog.resolve resource.apiVersion?)
  let serverVersion ← router.serverVersion
  return Capability.Registry.ofFactories router.factories
    (.ofResource resource endpoint serverVersion (some catalog))

end Router

end ClusterClient
