import ClusterClient.Error

namespace ClusterClient

/-- An object of the server, as its JSON fields. -/
structure Resource where
  fields : Json.Fields
  deriving Repr

namespace Resource

/-- What a document is, for a message. -/
def describe : Json → String
  | .null => "null"
  | .bool _ => "a boolean"
  | .number _ => "a number"
  | .text _ => "a string"
  | .list _ => "an array"
  | .object _ => "an object"

/-- Only objects are resources. -/
def ofJson : Json → Except Error Resource
  | .object fields => .ok ⟨fields⟩
  | other => .error (.configuration (.notAnObject (describe other)))

/-- An empty resource of a type. -/
def ofType (apiVersion kind : String) : Resource :=
  ⟨[("apiVersion", .text apiVersion), ("kind", .text kind)]⟩

def toJson (resource : Resource) : Json := .object resource.fields

def get? (resource : Resource) (field : String) : Option Json := resource.fields.get? field

def kind? (resource : Resource) : Option String := (resource.get? "kind").bind (·.text?)

def apiVersion? (resource : Resource) : Option String := (resource.get? "apiVersion").bind (·.text?)

/-- A field of the metadata. -/
def metadata? (resource : Resource) (field : String) : Option Json :=
  (resource.get? "metadata").bind (·.field? field)

def name? (resource : Resource) : Option String := (resource.metadata? "name").bind (·.text?)

def namespace? (resource : Resource) : Option String :=
  (resource.metadata? "namespace").bind (·.text?)

def resourceVersion? (resource : Resource) : Option String :=
  (resource.metadata? "resourceVersion").bind (·.text?)

/-- The annotations that are texts. -/
def annotations (resource : Resource) : List (String × String) :=
  match resource.metadata? "annotations" with
  | some (.object fields) => fields.filterMap fun (name, value) => value.text?.map (name, ·)
  | _ => []

def setKind (kind : String) (resource : Resource) : Resource :=
  ⟨resource.fields.insert "kind" (.text kind)⟩

def setApiVersion (apiVersion : String) (resource : Resource) : Resource :=
  ⟨resource.fields.insert "apiVersion" (.text apiVersion)⟩

/-- The metadata to add a field to. What is no object gives way to an empty one. -/
def metadataFields (resource : Resource) : Json.Fields :=
  match resource.get? "metadata" with
  | some (.object fields) => fields
  | _ => []

def setMetadata (field value : String) (resource : Resource) : Resource :=
  ⟨resource.fields.insert "metadata" (.object (resource.metadataFields.insert field (.text value)))⟩

def setName (name : String) : Resource → Resource := setMetadata "name" name

def setNamespace (name : String) : Resource → Resource := setMetadata "namespace" name

end Resource

end ClusterClient
