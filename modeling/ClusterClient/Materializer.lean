import ClusterClient.Endpoint
import ClusterClient.Resource

namespace ClusterClient

/-- What a list request answers. -/
structure ResourceList where
  /-- The kind of the items. -/
  kind : String
  apiVersion : Option String
  /-- Where a watch goes on after the list. -/
  resourceVersion : Option String
  items : List Resource
  deriving Repr

/-- The document of a list, its members in this order. -/
def ResourceList.toJson (list : ResourceList) : Json :=
  let orNull (text : Option String) : Json := (text.map Json.text).getD .null
  .object [("kind", .text list.kind), ("apiVersion", orNull list.apiVersion),
    ("resourceVersion", orNull list.resourceVersion),
    ("items", .list (list.items.map Resource.toJson))]

/-- How objects of one type become resources. -/
abbrev Maker := Json → Except Error Resource

/-- The makers of some types, the latest registration first. -/
structure Materializer where
  makers : List (TypeKey × Maker) := []

namespace Materializer

/-- The type that an `apiVersion` and a kind name. -/
def typeKey (apiVersion : Option String) (kind : String) : TypeKey :=
  match VersionSelector.ofRequest apiVersion with
  | .any => ⟨none, "", kind⟩
  | .single version => ⟨none, version, kind⟩
  | .grouped group version => ⟨some group, version, kind⟩

def register (apiVersion kind : String) (maker : Maker) (materializer : Materializer) :
    Materializer :=
  ⟨(typeKey (some apiVersion) kind, maker) :: materializer.makers⟩

def maker? (materializer : Materializer) (key : TypeKey) : Option Maker :=
  materializer.makers.lookup key

def isRegistered (materializer : Materializer) (apiVersion kind : String) : Bool :=
  (materializer.maker? (typeKey (some apiVersion) kind)).isSome

/-- The type that a document claims. -/
def claimedType (json : Json) : TypeKey :=
  typeKey ((json.field? "apiVersion").bind (·.text?))
    (((json.field? "kind").bind (·.text?)).getD "")

/-- A document as a resource: through the maker of its type, or as it is. -/
def materialize (materializer : Materializer) (json : Json) : Except Error Resource :=
  match materializer.maker? (claimedType json) with
  | some make => make json
  | none => Resource.ofJson json

/-- The document of a body. -/
def document (body : String) : Except Error Json :=
  match Json.ofText? body with
  | some json => .ok json
  | none => .error .materialization

def materializeBody (materializer : Materializer) (body : String) : Except Error Resource := do
  materializer.materialize (← document body)

/-- Set a field that an object lacks. Anything else stays as it is. -/
def inherit (field : String) (value : Option String) : Json → Json
  | .object fields =>
    match value with
    | some text =>
      if Json.Fields.has fields field then .object fields
      else .object (Json.Fields.insert field (.text text) fields)
    | none => .object fields
  | other => other

/-- The kind of a list's items: that of the list without one `List` at its end. -/
def itemKind (envelope : Json) : String :=
  let listKind := ((envelope.field? "kind").bind (·.text?)).getD Kind.aggregate
  (Text.beforeSuffix? Kind.aggregate listKind).getD listKind

/-- The items of a list's envelope; none if there is no list of them. -/
def rawItems (envelope : Json) : List Json :=
  ((envelope.field? "items").bind (·.items?)).getD []

/-- An item with the kind and `apiVersion` of its list, as far as it lacks its own. -/
def inheritType (envelope item : Json) : Json :=
  let kind := itemKind envelope
  inherit "apiVersion" ((envelope.field? "apiVersion").bind (·.text?))
    (inherit "kind" (if kind = "" then none else some kind) item)

/-- The list in a body, its items materialized in order. The first that fails decides. -/
def materializeList (materializer : Materializer) (body : String) : Except Error ResourceList := do
  let envelope ← document body
  let items ← (rawItems envelope).mapM fun item =>
    materializer.materialize (inheritType envelope item)
  return {
    kind := itemKind envelope
    apiVersion := (envelope.field? "apiVersion").bind (·.text?)
    resourceVersion :=
      ((envelope.field? "metadata").bind (·.field? "resourceVersion")).bind (·.text?)
    items }

end Materializer

end ClusterClient
