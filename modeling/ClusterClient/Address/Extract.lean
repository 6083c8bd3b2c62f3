import ClusterClient.Address

namespace ClusterClient.Address

/-- The segments after one that has to be there. -/
def afterSegment? (segment : String) : List String → Option (List String)
  | [] => none
  | first :: rest => if first = segment then some rest else none

/-- The segments after one that may be there. -/
def skipSegment (segment : String) : List String → List String
  | [] => []
  | first :: rest => if first = segment then rest else first :: rest

/-- The segments after those of an endpoint's surface. -/
def afterSurface? (endpoint : Endpoint) (segments : List String) : Option (List String) := do
  let rest ← afterSegment? endpoint.addressPrefix segments
  let rest ← match endpoint.convention, endpoint.groupName with
    | .modern, some group => afterSegment? group rest
    | _, _ => some rest
  let rest ← afterSegment? endpoint.version rest
  some (skipSegment "watch" rest)

/-- The namespace in a path, and the segments after it. -/
def takeNamespace? (endpoint : Endpoint) (segments : List String) :
    Option (Option String × List String) :=
  if endpoint.convention = .modern ∧ endpoint.isScoped ∧ segments.head? = some "namespaces" then
    match segments.tail with
    | [] => none
    | name :: rest => (Percent.decode? name).map fun name => (some name, rest)
  else some (none, segments)

/-- The namespace in a query: that of the first parameter of this name, if it decodes. -/
def queryNamespace? (query : Option String) : Option String := do
  let pairs := (Text.pieces '&' (← query)).filterMap fun piece =>
    match Text.cut '=' piece with
    | (key, some value) => some (key, value)
    | (_, none) => none
  Percent.decode? (← pairs.lookup "namespace")

/-- The identity that a URL addresses on an endpoint; none if the URL is not one of it. Nothing
after the sub-resource counts. -/
def extract? (base : String) (endpoint : Endpoint) (url : String) : Option Identity := do
  let (path, query) := Text.cut '?' (← Text.afterPrefix? (Text.trimEnd '/' base) url)
  let rest ← afterSurface? endpoint (Text.pieces '/' (Text.trimStart '/' path))
  let (pathNamespace, rest) ← takeNamespace? endpoint rest
  let rest ← afterSegment? endpoint.pluralName rest
  let name ← match rest.head? with
    | some segment => (Percent.decode? segment).map some
    | none => some none
  some {
    kind := endpoint.kind
    version := some endpoint.apiVersion
    namespaceName :=
      if endpoint.convention = .legacy ∧ endpoint.isScoped then queryNamespace? query
      else pathNamespace
    name
    subresource := rest[1]? }

end ClusterClient.Address
