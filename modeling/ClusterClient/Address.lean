import ClusterClient.Catalog
import ClusterClient.Error
import ClusterClient.Text.Percent

namespace ClusterClient

/-- Where an address has its namespace. -/
inductive Convention where
  /-- In a query parameter. -/
  | legacy
  /-- In the path. -/
  | modern
  deriving DecidableEq, Repr

/-- Only the oldest versions, and those outside groups, use the query. -/
def Convention.ofVersion (apiVersion : String) : Convention :=
  if apiVersion = "v1beta1" ∨ apiVersion = "v1beta2" then .legacy else .modern

def Endpoint.convention (endpoint : Endpoint) : Convention := .ofVersion endpoint.apiVersion

/-- An address in the making. -/
structure Address where
  /-- The server's address without slashes at its end. -/
  base : String
  endpoint : Option Endpoint := none
  name : Option String := none
  namespaceName : Option String := none
  subresource : Option String := none
  watch : Bool := false
  /-- Query parameters in the order in which they were given. -/
  params : List (String × String) := []
  deriving DecidableEq, Repr

namespace Address

def ofBase (base : String) : Address := { base := Text.trimEnd '/' base }

/-- Address the endpoint that serves a kind. -/
def setKind (catalog : Catalog) (version : Option String) (kind : String) (address : Address) :
    Except Error Address :=
  match catalog.resolve version kind with
  | some endpoint => .ok { address with endpoint := some endpoint }
  | none => .error (.unsupportedEndpoint kind version)

def setEndpoint (endpoint : Endpoint) (address : Address) : Address :=
  { address with endpoint := some endpoint }

/-- An empty text stands for nothing. -/
def given (text : String) : Option String := if text = "" then none else some text

def setName (name : String) (address : Address) : Address := { address with name := given name }

def setNamespace (name : String) (address : Address) : Address :=
  { address with namespaceName := given name }

def setSubresource (name : String) (address : Address) : Address :=
  { address with subresource := given name }

def setWatch (watch : Bool) (address : Address) : Address := { address with watch }

def addParams (params : List (String × String)) (address : Address) : Address :=
  { address with params := address.params ++ params }

/-- Take over what an identity has, its kind and version aside. -/
def setIdentity (identity : Identity) (address : Address) : Address :=
  { address with
    namespaceName := identity.namespaceName.elim address.namespaceName given
    name := identity.name.elim address.name given
    subresource := identity.subresource.elim address.subresource given }

/-- The namespace, where the endpoint has one in its address. -/
def scopedNamespace (address : Address) (endpoint : Endpoint) : Option String :=
  if endpoint.isScoped then address.namespaceName else none

/-- The segments of the path, without the empty one before the first slash. -/
def segments (address : Address) (endpoint : Endpoint) : List String :=
  let watch := if address.watch then ["watch"] else []
  let place := match endpoint.convention with
    | .legacy => [endpoint.version] ++ watch
    | .modern =>
      endpoint.groupName.toList ++ [endpoint.version] ++ watch
        ++ (match address.scopedNamespace endpoint with
          | some name => ["namespaces", Percent.encode name]
          | none => [])
  [endpoint.addressPrefix] ++ place ++ [endpoint.pluralName]
    ++ (address.name.map Percent.encode).toList ++ address.subresource.toList

/-- All query parameters. A namespace that belongs here comes first. -/
def query (address : Address) (endpoint : Endpoint) : List (String × String) :=
  let scope := match endpoint.convention, address.scopedNamespace endpoint with
    | .legacy, some name => [("namespace", name)]
    | _, _ => []
  scope ++ address.params

def paramText (param : String × String) : String :=
  Percent.encode param.1 ++ "=" ++ Percent.encode param.2

def queryText : List (String × String) → String
  | [] => ""
  | params => "?" ++ String.intercalate "&" (params.map paramText)

/-- The URL of an address on an endpoint. -/
def urlAt (address : Address) (endpoint : Endpoint) : String :=
  address.base ++ "/" ++ String.intercalate "/" (address.segments endpoint)
    ++ queryText (address.query endpoint)

/-- The URL of an address. -/
def url (address : Address) : Except Error String :=
  match address.endpoint with
  | some endpoint => .ok (address.urlAt endpoint)
  | none => .error (.configuration .noKind)

/-- One step of making an address. -/
inductive Step where
  | kind (version : Option String) (kind : String)
  | endpoint (endpoint : Endpoint)
  | name (name : String)
  | namespaceName (name : String)
  | subresource (name : String)
  | watch (watch : Bool)
  | params (params : List (String × String))
  | identity (identity : Identity)
  deriving DecidableEq, Repr

def apply (catalog : Catalog) (address : Address) : Step → Except Error Address
  | .kind version kind => address.setKind catalog version kind
  | .endpoint endpoint => .ok (address.setEndpoint endpoint)
  | .name name => .ok (address.setName name)
  | .namespaceName name => .ok (address.setNamespace name)
  | .subresource name => .ok (address.setSubresource name)
  | .watch watch => .ok (address.setWatch watch)
  | .params params => .ok (address.addParams params)
  | .identity identity => .ok (address.setIdentity identity)

end Address

end ClusterClient
