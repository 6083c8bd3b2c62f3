import ClusterClient.Proofs.Client.Objects

namespace ClusterClient

/-- What a client is asked to do. -/
inductive Operation where
  | get (identity : Identity)
  | list (identity : Identity)
  | create (resource : Resource) (namespaceName : Option String)
  | update (resource : Resource) (namespaceName : Option String)
  | delete (identity : Identity)
  | watchUrl (identity : Identity) (since : Option ResourceList)
  | supports (kind : CapabilityKind)
  | capabilitiesFor (resource : Resource)
  | serverVersion
  | catalog
  | resolve (version : Option String) (kind : String)
  | resolveType (version : Option String) (kind : String)
  | isSupported (kind : String) (version : Option String)
  | isSupportedResource (resource : Resource)

inductive Answer where
  | resource (outcome : Except Error Resource)
  | list (outcome : Except Error ResourceList)
  | document (outcome : Except Error Json)
  | url (outcome : Except Error String)
  | flag (holds : Bool)
  | registry (registry : Capability.Registry)
  | version (version : Option ServerVersion)
  | catalog (catalog : Catalog)
  | endpoint (endpoint : Option Endpoint)
  | type (type : Option TypeDescriptor)

def Operation.run (client : Client) : Operation → StateM Session Answer
  | .get identity => .resource <$> client.get identity
  | .list identity => .list <$> client.list identity
  | .create resource namespaceName => .resource <$> client.create resource namespaceName
  | .update resource namespaceName => .resource <$> client.update resource namespaceName
  | .delete identity => .document <$> client.delete identity
  | .watchUrl identity since => .url <$> client.watchUrl identity since
  | .supports kind => .flag <$> client.router.supports kind
  | .capabilitiesFor resource => .registry <$> client.router.registryOf resource
  | .serverVersion => .version <$> client.router.serverVersion
  | .catalog => .catalog <$> client.router.catalog
  | .resolve version kind => .endpoint <$> client.router.resolve version kind
  | .resolveType version kind => do
    return .type ((← client.router.catalog).resolveType version kind)
  | .isSupported kind version => do
    return .flag ((← client.router.catalog).isSupported kind version)
  | .isSupportedResource resource => .flag <$> client.router.isSupportedResource resource

/-- The session after some operations. -/
def Client.after (client : Client) (operations : List Operation) (session : Session) : Session :=
  operations.foldl (fun session operation => ((operation.run client).run session).2) session

/-- What an operation on resources asks for, before anything about the server is known. -/
structure Demand where
  verb : Verb
  identity : Identity
  name : Option String := none
  payload : Option Payload := none

namespace Demand

/-- There is nothing to ask of the aggregate kind. -/
def accept (demand : Demand) : Except Error Demand :=
  if demand.identity.kind = Kind.aggregate then
    .error (.unsupportedOperation demand.verb.name demand.identity.kind)
  else .ok demand

/-- An operation on one object needs a name. -/
def named (verb : Verb) (identity : Identity) : Except Error Demand :=
  match identity.name with
  | none => .error (.configuration (.nameRequired identity.kind))
  | some name => accept { verb, identity, name := some name }

def listing (identity : Identity) : Except Error Demand := accept { verb := .list, identity }

/-- To write a resource is to need its kind. -/
def writing (verb : Verb) (resource : Resource) (namespaceName name : Option String) :
    Except Error Demand :=
  match resource.kind? with
  | none => .error (.configuration .resourceWithoutKind)
  | some kind => accept {
      verb
      identity := Client.writeIdentity resource kind namespaceName
      name
      payload := some (.resource resource) }

def creating (resource : Resource) (namespaceName : Option String) : Except Error Demand :=
  writing .create resource namespaceName none

def updating (resource : Resource) (namespaceName : Option String) : Except Error Demand :=
  match resource.name? with
  | none => .error (.configuration .updateWithoutName)
  | some name => writing .update resource namespaceName (some name)

def request (client : Client) (catalog : Catalog) (demand : Demand) : Request where
  verb := demand.verb
  kind := demand.identity.kind
  version := demand.identity.version
  namespaceName := client.namespaceIn catalog demand.identity
  name := demand.name
  subresource := demand.identity.subresource
  payload := demand.payload

/-- What is left to do once the catalog is known: to send one request, if it has an address. -/
def carry {α : Type} (client : Client) (catalog : Catalog) (materialize : String → Except Error α) :
    Except Error Demand → Wire (Except Error α)
  | .error error => return .error error
  | .ok demand =>
    match (demand.request client catalog).prepare client.router.base catalog with
    | .error error => return .error error
    | .ok prepared => do
      let response ← client.router.transport.send prepared.method prepared.url prepared.body
      return (Transport.outcome prepared.url response).bind materialize

end Demand

/-- What a client may have to find out about its server first. -/
inductive Probe where
  | catalog
  | version
  deriving DecidableEq

/-- A demand that is refused needs nothing. -/
def Demand.needs : Except Error Demand → List Probe
  | .error _ => []
  | .ok _ => [.catalog]

namespace Operation

/-- What an operation needs to know about the server, in the order in which it is needed. -/
def needs : Operation → List Probe
  | get identity => Demand.needs (Demand.named .get identity)
  | list identity => Demand.needs (Demand.listing identity)
  | create resource namespaceName => Demand.needs (Demand.creating resource namespaceName)
  | update resource namespaceName => Demand.needs (Demand.updating resource namespaceName)
  | delete identity => Demand.needs (Demand.named .delete identity)
  | watchUrl identity _ => if identity.kind = Kind.aggregate then [] else [.catalog]
  | supports _ => [.version, .catalog]
  | capabilitiesFor _ => [.catalog, .version]
  | serverVersion => [.version]
  | isSupportedResource resource => if resource.kind? = none then [] else [.catalog]
  | catalog => [.catalog]
  | resolve _ _ => [.catalog]
  | resolveType _ _ => [.catalog]
  | isSupported _ _ => [.catalog]

/-- Whether an operation is about the capabilities of the client as a whole. -/
def isSupports : Operation → Bool
  | supports _ => true
  | _ => false

end Operation

/-- What there is to know about a server. -/
structure Snapshot where
  catalog : Catalog
  serverVersion : Option ServerVersion

/-- The registry of the client as a whole before its record is negotiated. -/
def Snapshot.newRegistry (snapshot : Snapshot) (client : Client) : Capability.Registry :=
  .ofFactories client.router.factories
    { serverVersion := snapshot.serverVersion, catalog := some snapshot.catalog }

/-- The registry of the client as a whole, with its record. -/
def Snapshot.registry (snapshot : Snapshot) (client : Client) : Capability.Registry :=
  (snapshot.newRegistry client).populate.2

/-- What is left to do of an operation when all that it needs is known. -/
def Operation.given (client : Client) (snapshot : Snapshot) : Operation → Wire Answer
  | .get identity => .resource <$> Demand.carry client snapshot.catalog
      client.materializer.materializeBody (Demand.named .get identity)
  | .list identity => .list <$> Demand.carry client snapshot.catalog
      client.materializer.materializeList (Demand.listing identity)
  | .create resource namespaceName => .resource <$> Demand.carry client snapshot.catalog
      client.materializer.materializeBody (Demand.creating resource namespaceName)
  | .update resource namespaceName => .resource <$> Demand.carry client snapshot.catalog
      client.materializer.materializeBody (Demand.updating resource namespaceName)
  | .delete identity => .document <$> Demand.carry client snapshot.catalog
      Client.deletionAnswer (Demand.named .delete identity)
  | .watchUrl identity since => pure <| .url <|
      if identity.kind = Kind.aggregate then .error (.unsupportedOperation "watch" identity.kind)
      else Watch.address client.base snapshot.catalog identity.version identity.kind
        (client.namespaceIn snapshot.catalog identity) since
  | .supports kind => pure <| .flag ((snapshot.registry client).supports kind).1
  | .capabilitiesFor resource => pure <| .registry <| .ofFactories client.router.factories <|
      .ofResource resource (resource.kind?.bind (snapshot.catalog.resolve resource.apiVersion?))
        snapshot.serverVersion (some snapshot.catalog)
  | .serverVersion => pure <| .version snapshot.serverVersion
  | .catalog => pure <| .catalog snapshot.catalog
  | .resolve version kind => pure <| .endpoint (snapshot.catalog.resolve version kind)
  | .resolveType version kind => pure <| .type (snapshot.catalog.resolveType version kind)
  | .isSupported kind version => pure <| .flag (snapshot.catalog.isSupported kind version)
  | .isSupportedResource resource => pure <| .flag <|
      resource.kind?.any (snapshot.catalog.isSupported · resource.apiVersion?)

end ClusterClient
