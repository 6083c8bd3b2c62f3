import ClusterClient.Kind
import ClusterClient.Surface
import ClusterClient.Text

namespace ClusterClient

/-- What tells one collection of a server from every other. -/
structure EndpointKey where
  addressPrefix : String
  groupName : Option String
  version : String
  pluralName : String
  deriving DecidableEq, Repr

/-- A collection of resources that a server has an address for. -/
structure Endpoint where
  addressPrefix : String
  groupName : Option String
  version : String
  pluralName : String
  kind : String
  namespaced : Bool
  verbs : List String
  /-- The sub-resources listed for the collection, in byte order and each once. -/
  capabilities : List String
  deriving DecidableEq, Repr

/-- `group/version` in a group, the bare version elsewhere. -/
def qualifiedVersion (groupName : Option String) (version : String) : String :=
  match groupName with
  | some group => group ++ "/" ++ version
  | none => version

namespace Endpoint

def key (endpoint : Endpoint) : EndpointKey :=
  ⟨endpoint.addressPrefix, endpoint.groupName, endpoint.version, endpoint.pluralName⟩

def apiVersion (endpoint : Endpoint) : String :=
  qualifiedVersion endpoint.groupName endpoint.version

/-- Whether discovery listed a sub-resource for the collection. -/
def isSupported (endpoint : Endpoint) (capability : String) : Bool :=
  endpoint.capabilities.contains capability

/-- A kind names the collection by the kind of its items or by its plural. -/
def matchesKind (endpoint : Endpoint) (kind : String) : Bool :=
  endpoint.kind == kind || endpoint.pluralName == Kind.plural kind

/-- Whether a namespace belongs in the collection's address. -/
def isScoped (endpoint : Endpoint) : Bool :=
  endpoint.namespaced && !Kind.isNamespaceRoot endpoint.kind

end Endpoint

/-- What tells one type of a server from every other. -/
structure TypeKey where
  groupName : Option String
  version : String
  kind : String
  deriving DecidableEq, Repr

/-- A type that a server knows, whether or not a collection holds it. -/
structure TypeDescriptor where
  addressPrefix : String
  groupName : Option String
  version : String
  kind : String
  deriving DecidableEq, Repr

def TypeDescriptor.key (type : TypeDescriptor) : TypeKey :=
  ⟨type.groupName, type.version, type.kind⟩

/-- What a requested `apiVersion` asks for. -/
inductive VersionSelector where
  /-- Nothing in particular: any surface may answer. -/
  | any
  /-- One segment: a bare version, or the name of a group. -/
  | single (segment : String)
  /-- One version of one group. -/
  | grouped (group version : String)
  deriving DecidableEq, Repr

/-- Read a requested version. The first slash parts the group from the version, and an empty
text asks for nothing. -/
def VersionSelector.ofRequest : Option String → VersionSelector
  | none => .any
  | some text =>
    if text = "" then .any
    else match Text.cut '/' text with
      | (group, some version) => .grouped group version
      | (segment, none) => .single segment

/-- What a caller wants to address. Only the kind is needed for every operation. -/
structure Identity where
  kind : String
  version : Option String := none
  namespaceName : Option String := none
  name : Option String := none
  subresource : Option String := none
  deriving DecidableEq, Repr

end ClusterClient
