import ClusterClient.Discovery.Documents
import ClusterClient.Endpoint

namespace ClusterClient

/-- What a server has been found to serve, in the order of discovery. The indices give the
positions of endpoints and types by their keys. -/
structure Catalog where
  groups : List ApiGroup := []
  endpoints : List Endpoint := []
  endpointIndex : List (EndpointKey × Nat) := []
  types : List TypeDescriptor := []
  typeIndex : List (TypeKey × Nat) := []
  /-- The collection name first listed for each kind of a group and version. -/
  plurals : List (TypeKey × String) := []
  deriving DecidableEq, Repr

namespace Catalog

def isEmpty (catalog : Catalog) : Bool := catalog.endpoints.isEmpty && catalog.types.isEmpty

def endpointAt? (catalog : Catalog) (key : EndpointKey) : Option Endpoint :=
  (catalog.endpointIndex.lookup key).bind fun position => catalog.endpoints[position]?

def typeAt? (catalog : Catalog) (key : TypeKey) : Option TypeDescriptor :=
  (catalog.typeIndex.lookup key).bind fun position => catalog.types[position]?

/-- The collection name of a kind: the one that was listed, or else the kind's plural. -/
def pluralFor (catalog : Catalog) (kind : String) (group : Option String) (version : String) :
    String :=
  (catalog.plurals.lookup ⟨group, version, kind⟩).getD (Kind.plural kind)

/-- The endpoint that serves a kind at a version. A version of a group is looked up; anything less
takes the first endpoint that fits. -/
def resolve (catalog : Catalog) (version : Option String) (kind : String) : Option Endpoint :=
  match VersionSelector.ofRequest version with
  | .any => catalog.endpoints.find? (·.matchesKind kind)
  | .single segment => catalog.endpoints.find? fun endpoint =>
      endpoint.matchesKind kind
        && (endpoint.version == segment || endpoint.groupName == some segment)
  | .grouped group version =>
    catalog.endpointAt?
      ⟨Surface.groupedPrefix, some group, version, catalog.pluralFor kind (some group) version⟩

/-- The type of a kind at a version. Plurals do not count here. -/
def resolveType (catalog : Catalog) (version : Option String) (kind : String) :
    Option TypeDescriptor :=
  match VersionSelector.ofRequest version with
  | .any => catalog.types.find? (·.kind == kind)
  | .single segment => catalog.types.find? fun type =>
      type.kind == kind && (type.version == segment || type.groupName == some segment)
  | .grouped group version => catalog.typeAt? ⟨some group, version, kind⟩

def isSupported (catalog : Catalog) (kind : String) (version : Option String) : Bool :=
  (catalog.resolve version kind).isSome

/-- Enter a group, unless one of its prefix and name is there. -/
def addGroup (catalog : Catalog) (group : ApiGroup) : Catalog :=
  if catalog.groups.any fun known =>
      known.addressPrefix == group.addressPrefix && known.groupName == group.groupName then catalog
  else { catalog with groups := catalog.groups ++ [group] }

/-- The type that an entry of a surface returns. The entry may name a group or a version of its
own; with a version alone the type has no group. -/
def declaredType (surface : Surface) (entry : ResourceEntry) : TypeDescriptor :=
  let own (text : Option String) : Option String := text.filter (· != "")
  let groupName := match own entry.group with
    | some group => some group
    | none => if (own entry.version).isSome then none else surface.groupName
  { addressPrefix := if groupName.isSome then Surface.groupedPrefix else surface.addressPrefix
    groupName
    version := (own entry.version).getD surface.version
    kind := entry.kind }

/-- Enter a type under its key, unless its key is known. -/
def enterType (catalog : Catalog) (type : TypeDescriptor) : Catalog :=
  match catalog.typeIndex.lookup type.key with
  | some _ => catalog
  | none =>
    { catalog with
      types := catalog.types ++ [type]
      typeIndex := (type.key, catalog.types.length) :: catalog.typeIndex }

/-- Enter the type that an entry returns, if it names one. -/
def addType (surface : Surface) (catalog : Catalog) (entry : ResourceEntry) : Catalog :=
  if entry.kind = "" then catalog else catalog.enterType (declaredType surface entry)

/-- Keep the first collection name listed for a kind. -/
def learnPlural (catalog : Catalog) (key : TypeKey) (plural : String) : Catalog :=
  match catalog.plurals.lookup key with
  | some _ => catalog
  | none => { catalog with plurals := (key, plural) :: catalog.plurals }

/-- The verbs of an endpoint with those that are new among some others. -/
def mergeVerbs (known new : List String) : List String :=
  new.foldl (fun verbs verb => if verbs.contains verb then verbs else verbs ++ [verb]) known

/-- Enter an endpoint under its key. Of one whose key is known only new verbs are kept. -/
def enterEndpoint (catalog : Catalog) (endpoint : Endpoint) : Catalog :=
  match catalog.endpointIndex.lookup endpoint.key with
  | some position =>
    { catalog with
      endpoints := catalog.endpoints.modify position fun known =>
        { known with verbs := mergeVerbs known.verbs endpoint.verbs } }
  | none =>
    { catalog with
      endpoints := catalog.endpoints ++ [endpoint]
      endpointIndex := (endpoint.key, catalog.endpoints.length) :: catalog.endpointIndex }

/-- The endpoint of an entry. -/
def listedEndpoint (surface : Surface) (entry : ResourceEntry) : Endpoint :=
  { addressPrefix := surface.addressPrefix
    groupName := surface.groupName
    version := surface.version
    pluralName := entry.name
    kind := entry.kind
    namespaced := entry.namespaced
    verbs := entry.verbs
    capabilities := [] }

/-- Merge an entry for a collection. Without verbs it only declares a type. -/
def addCollection (surface : Surface) (catalog : Catalog) (entry : ResourceEntry) : Catalog :=
  let typed := addType surface catalog entry
  if entry.verbs = [] then typed
  else (typed.learnPlural ⟨surface.groupName, surface.version, entry.kind⟩ entry.name).enterEndpoint
    (listedEndpoint surface entry)

/-- Put a text into its place in byte order, unless it is there. -/
def insertOnce (text : String) : List String → List String
  | [] => [text]
  | other :: rest =>
    if text = other then other :: rest
    else if text < other then text :: other :: rest
    else other :: insertOnce text rest

/-- Note a sub-resource at the endpoint of its collection, if there is one. -/
def noteCapability (catalog : Catalog) (key : EndpointKey) (capability : String) : Catalog :=
  match catalog.endpointIndex.lookup key with
  | some position =>
    { catalog with
      endpoints := catalog.endpoints.modify position fun known =>
        { known with capabilities := insertOnce capability known.capabilities } }
  | none => catalog

/-- Merge an entry for a sub-resource. -/
def addSubresource (surface : Surface) (catalog : Catalog) (entry : ResourceEntry) : Catalog :=
  let typed := addType surface catalog entry
  match entry.suffix? with
  | some suffix =>
    typed.noteCapability
      ⟨surface.addressPrefix, surface.groupName, surface.version, entry.base⟩ suffix
  | none => typed

/-- Merge the list of a surface. Collections come first, so a sub-resource finds its collection
wherever in the list it stands. -/
def addListing (catalog : Catalog) (surface : Surface) (listing : ResourceListing) : Catalog :=
  let collections := listing.resources.filter (·.suffix?.isNone)
  let subresources := listing.resources.filter (·.suffix?.isSome)
  subresources.foldl (addSubresource surface) (collections.foldl (addCollection surface) catalog)

end Catalog

end ClusterClient
