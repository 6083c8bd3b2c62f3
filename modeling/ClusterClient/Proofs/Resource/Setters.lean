import ClusterClient.Proofs.Json.Fields
import ClusterClient.Resource

namespace ClusterClient.Resource

/-- The parts of a resource that can be set. -/
inductive Part where
  | kind
  | apiVersion
  | name
  | namespaceName
  deriving DecidableEq, Repr

namespace Part

def set : Part → String → Resource → Resource
  | kind => setKind
  | apiVersion => setApiVersion
  | name => setName
  | namespaceName => setNamespace

def text? : Part → Resource → Option String
  | kind => kind?
  | apiVersion => apiVersion?
  | name => name?
  | namespaceName => namespace?

/-- The document that a part is read from. -/
def json? : Part → Resource → Option Json
  | kind => (·.get? "kind")
  | apiVersion => (·.get? "apiVersion")
  | name => (·.metadata? "name")
  | namespaceName => (·.metadata? "namespace")

theorem text?_eq (part : Part) (resource : Resource) :
    part.text? resource = (part.json? resource).bind (·.text?) := by
  cases part <;> rfl

end Part

variable {resource : Resource} {field other value : String} {part : Part}

theorem get?_metadataFields (resource : Resource) (field : String) :
    resource.metadataFields.get? field = resource.metadata? field := by
  rw [metadataFields, metadata?]
  cases resource.get? "metadata" with
  | none => rfl
  | some json => cases json <;> rfl

theorem metadata?_setMetadata_self :
    (setMetadata field value resource).metadata? field = some (.text value) := by
  rw [metadata?, setMetadata, get?, Json.Fields.get?_insert_self]
  exact Json.Fields.get?_insert_self ..

theorem metadata?_setMetadata_other (different : other ≠ field) :
    (setMetadata field value resource).metadata? other = resource.metadata? other := by
  rw [metadata?, setMetadata, get?, Json.Fields.get?_insert_self, ← get?_metadataFields]
  exact Json.Fields.get?_insert_other _ _ different

theorem get?_setMetadata (different : other ≠ "metadata") :
    (setMetadata field value resource).get? other = resource.get? other :=
  Json.Fields.get?_insert_other _ _ different

/-- Setting a part sets what it is read from, and no other part. -/
theorem Part.json?_set (part written : Part) (value : String) (resource : Resource) :
    part.json? (written.set value resource) =
      if part = written then some (.text value) else part.json? resource := by
  have top {field other : String} (different : other ≠ field) :
      (resource.fields.insert field (.text value)).get? other = resource.fields.get? other :=
    Json.Fields.get?_insert_other _ _ different
  cases written with
  | kind | apiVersion =>
    cases part <;> simp [json?, set, setKind, setApiVersion, metadata?, get?, top]
  | name | namespaceName =>
    cases part <;> simp [json?, set, setName, setNamespace, metadata?_setMetadata_self,
      metadata?_setMetadata_other, get?_setMetadata]

theorem Part.metadataFields_set (part : Part) (value : String) (resource : Resource) :
    (part.set value resource).metadataFields = match part with
      | .name => resource.metadataFields.insert "name" (.text value)
      | .namespaceName => resource.metadataFields.insert "namespace" (.text value)
      | _ => resource.metadataFields := by
  have top {field : String} (different : "metadata" ≠ field) :
      (resource.fields.insert field (.text value)).get? "metadata" =
        resource.fields.get? "metadata" :=
    Json.Fields.get?_insert_other _ _ different
  cases part <;>
    simp [set, setKind, setApiVersion, setName, setNamespace, setMetadata, metadataFields, get?, top]

/-- Parts of the metadata turn it into an object; the others leave it. -/
theorem Part.get?_metadata_set (part : Part) (value : String) (resource : Resource) :
    (part.set value resource).get? "metadata" =
      if part = .name ∨ part = .namespaceName then
        some (.object (part.set value resource).metadataFields)
      else resource.get? "metadata" := by
  have top {field : String} (different : "metadata" ≠ field) :
      (resource.fields.insert field (.text value)).get? "metadata" =
        resource.fields.get? "metadata" :=
    Json.Fields.get?_insert_other _ _ different
  cases part <;>
    simp [set, setKind, setApiVersion, setName, setNamespace, setMetadata, metadataFields, get?, top]

theorem Part.metadata?_set (part : Part) (value : String) (resource : Resource)
    (notName : field ≠ "name") (notNamespace : field ≠ "namespace") :
    (part.set value resource).metadata? field = resource.metadata? field := by
  rw [← get?_metadataFields, ← get?_metadataFields, metadataFields_set]
  cases part with
  | kind | apiVersion => rfl
  | name => exact Json.Fields.get?_insert_other _ _ notName
  | namespaceName => exact Json.Fields.get?_insert_other _ _ notNamespace

theorem Part.get?_set (part : Part) (value : String) (resource : Resource)
    (notKind : field ≠ "kind") (notApiVersion : field ≠ "apiVersion")
    (notMetadata : field ≠ "metadata") :
    (part.set value resource).get? field = resource.get? field := by
  cases part with
  | kind => exact Json.Fields.get?_insert_other _ _ notKind
  | apiVersion => exact Json.Fields.get?_insert_other _ _ notApiVersion
  | name | namespaceName => exact get?_setMetadata notMetadata

theorem isOrdered_insert {fields : Json.Fields} {json : Json}
    (ordered : (Json.object fields).IsOrdered) (own : json.IsOrdered) (field : String) :
    (Json.object (fields.insert field json)).IsOrdered := by
  cases ordered with
  | object ordered each =>
    refine .object (ordered.insert field json) fun other member => ?_
    rcases Json.Fields.mem_insert member with rfl | earlier
    · exact own
    · exact each other earlier

theorem isOrdered_metadataFields (ordered : resource.toJson.IsOrdered) :
    (Json.object resource.metadataFields).IsOrdered := by
  have empty : (Json.object []).IsOrdered := .object .nil (by simp)
  rw [metadataFields]
  split
  · next fields found => exact ordered.of_field? found
  · exact empty

/-- Setting keeps the fields of every object in byte order, each once. -/
theorem Part.isOrdered_set (part : Part) (value : String) (ordered : resource.toJson.IsOrdered) :
    (part.set value resource).toJson.IsOrdered := by
  have metadata (field : String) :=
    isOrdered_insert (isOrdered_metadataFields ordered) (.text value) field
  cases part with
  | kind | apiVersion => exact isOrdered_insert ordered (.text value) _
  | name | namespaceName => exact isOrdered_insert ordered (metadata _) _

/-- A resource after some calls of setters, from first to last. -/
def setAll (calls : List (Part × String)) (resource : Resource) : Resource :=
  calls.foldl (fun resource call => call.1.set call.2 resource) resource

/-- The text that a part was set to last. -/
def lastText? (part : Part) (calls : List (Part × String)) : Option String :=
  ((calls.filter (·.1 == part)).getLast?).map (·.2)

section Calls

variable {calls : List (Part × String)}

theorem setAll_concat (calls : List (Part × String)) (call : Part × String) (resource : Resource) :
    setAll (calls ++ [call]) resource = call.1.set call.2 (setAll calls resource) := by
  rw [setAll, List.foldl_append]
  rfl

theorem lastText?_concat (part : Part) (calls : List (Part × String)) (call : Part × String) :
    lastText? part (calls ++ [call]) =
      if part = call.1 then some call.2 else lastText? part calls := by
  rw [lastText?, List.filter_append]
  by_cases own : part = call.1
  · simp [own]
  · have other : (call.1 == part) = false := by simpa using Ne.symm own
    simp [own, other, lastText?]

theorem json?_setAll (part : Part) (calls : List (Part × String)) (resource : Resource) :
    part.json? (setAll calls resource) =
      ((lastText? part calls).map Json.text).or (part.json? resource) := by
  induction calls using List.reverseRecOn with
  | nil => rfl
  | append_singleton calls call ih =>
    rw [setAll_concat, lastText?_concat, Part.json?_set, ih]
    split <;> rfl

/-- What no call of a setter changes, no sequence of them changes. -/
theorem setAll_keeps {α : Type} (read : Resource → α)
    (keeps : ∀ (part : Part) (value : String) (resource : Resource),
      read (part.set value resource) = read resource)
    (calls : List (Part × String)) (resource : Resource) :
    read (setAll calls resource) = read resource := by
  induction calls using List.reverseRecOn with
  | nil => rfl
  | append_singleton calls call ih => rw [setAll_concat, keeps, ih]

theorem isOrdered_setAll (calls : List (Part × String)) (ordered : resource.toJson.IsOrdered) :
    (setAll calls resource).toJson.IsOrdered := by
  induction calls using List.reverseRecOn with
  | nil => exact ordered
  | append_singleton calls call ih =>
    rw [setAll_concat]
    exact call.1.isOrdered_set call.2 ih

theorem get?_metadata_setAll (calls : List (Part × String)) (resource : Resource) :
    (setAll calls resource).get? "metadata" =
      if lastText? .name calls = none ∧ lastText? .namespaceName calls = none then
        resource.get? "metadata"
      else some (.object (setAll calls resource).metadataFields) := by
  induction calls using List.reverseRecOn with
  | nil => rfl
  | append_singleton calls call ih =>
    obtain ⟨part, value⟩ := call
    rw [setAll_concat, lastText?_concat, lastText?_concat, Part.get?_metadata_set]
    cases part with
    | kind | apiVersion => simpa [Part.metadataFields_set] using ih
    | name | namespaceName => simp

/-- Metadata that holds a name and a namespace, as far as there are any, and nothing else. -/
def metadataOf (name namespaceName : Option String) : Json.Fields :=
  (name.map fun text => ("name", Json.text text)).toList
    ++ (namespaceName.map fun text => ("namespace", Json.text text)).toList

theorem metadataFields_setAll (nothing : resource.metadataFields = [])
    (calls : List (Part × String)) : (setAll calls resource).metadataFields =
      metadataOf (lastText? .name calls) (lastText? .namespaceName calls) := by
  induction calls using List.reverseRecOn with
  | nil => exact nothing
  | append_singleton calls call ih =>
    obtain ⟨part, value⟩ := call
    have order : "name" < "namespace" := by decide
    rw [setAll_concat, Part.metadataFields_set, ih, lastText?_concat, lastText?_concat]
    cases part with
    | kind | apiVersion => rfl
    | name | namespaceName =>
      cases lastText? .name calls <;> cases lastText? .namespaceName calls <;>
        simp [metadataOf, Json.Fields.insert, order, String.lt_asymm order]

/-- For every resource and every sequence of calls, each part answers with the text it was set to
last, or else as before, and nothing else changes: no other field, no other field of the metadata.
Metadata that is no object gives way to just what was set of it, if anything was. -/
theorem setAll_sets_alone (resource : Resource) (calls : List (Part × String)) :
    (∀ part : Part, part.text? (setAll calls resource) =
      (lastText? part calls).or (part.text? resource)) ∧
    (setAll calls resource).resourceVersion? = resource.resourceVersion? ∧
    (setAll calls resource).annotations = resource.annotations ∧
    (∀ field, field ≠ "kind" → field ≠ "apiVersion" → field ≠ "metadata" →
      (setAll calls resource).get? field = resource.get? field) ∧
    (∀ field, field ≠ "name" → field ≠ "namespace" →
      (setAll calls resource).metadata? field = resource.metadata? field) ∧
    (lastText? .name calls = none → lastText? .namespaceName calls = none →
      (setAll calls resource).get? "metadata" = resource.get? "metadata") ∧
    (lastText? .name calls ≠ none ∨ lastText? .namespaceName calls ≠ none →
      ∃ fields, (setAll calls resource).get? "metadata" = some (.object fields) ∧
        ((∀ before, resource.get? "metadata" ≠ some (.object before)) →
          fields = metadataOf (lastText? .name calls) (lastText? .namespaceName calls))) ∧
    (resource.toJson.IsOrdered → (setAll calls resource).toJson.IsOrdered) := by
  have metadata (field : String) (notName : field ≠ "name") (notNamespace : field ≠ "namespace") :
      (setAll calls resource).metadata? field = resource.metadata? field :=
    setAll_keeps (·.metadata? field)
      (fun part value resource => part.metadata?_set value resource notName notNamespace) calls resource
  refine ⟨fun part => ?_, ?_, ?_, ?_, metadata, ?_, ?_, isOrdered_setAll calls⟩
  · rw [Part.text?_eq, Part.text?_eq, json?_setAll]
    cases lastText? part calls <;> rfl
  · rw [resourceVersion?, metadata _ (by decide) (by decide)]
    rfl
  · rw [annotations, metadata _ (by decide) (by decide)]
    rfl
  · intro field notKind notApiVersion notMetadata
    exact setAll_keeps (·.get? field) (fun part value resource =>
      part.get?_set value resource notKind notApiVersion notMetadata) calls resource
  · intro noName noNamespace
    rw [get?_metadata_setAll, if_pos ⟨noName, noNamespace⟩]
  · intro named
    refine ⟨(setAll calls resource).metadataFields, ?_, fun noObject => ?_⟩
    · rw [get?_metadata_setAll, if_neg (not_and_or.mpr named)]
    · have nothing : resource.metadataFields = [] := by
        rw [metadataFields]
        split
        · next fields found => exact absurd found (noObject fields)
        · rfl
      exact metadataFields_setAll nothing calls

/-- A document whose metadata is a number gets an object in its place. -/
theorem setAll_sets_alone_number :
    let resource : Resource := ⟨[("metadata", .number (.integer 7)), ("spec", .bool true)]⟩
    let calls : List (Part × String) :=
      [(.namespaceName, "ns1"), (.name, "a"), (.kind, "Pod"), (.name, "b")]
    (setAll calls resource).name? = some "b" ∧
      (setAll calls resource).get? "spec" = some (.bool true) ∧
      (setAll calls resource).metadata? "labels" = none ∧
      (setAll [(.kind, "Pod")] resource).get? "metadata" = some (.number (.integer 7)) ∧
      (setAll calls resource).get? "metadata" =
        some (.object [("name", .text "b"), ("namespace", .text "ns1")]) ∧
      (setAll calls resource).toJson.IsOrdered := by
  intro resource calls
  obtain ⟨texts, -, -, fields, metadata, -, named, ordered⟩ := setAll_sets_alone resource calls
  obtain ⟨-, -, -, -, -, untouched, -, -⟩ := setAll_sets_alone resource [(.kind, "Pod")]
  obtain ⟨written, found, exact⟩ := named (.inl (by decide))
  refine ⟨texts .name, fields "spec" (by decide) (by decide) (by decide),
    metadata "labels" (by decide) (by decide), untouched rfl rfl, ?_, ordered ?_⟩
  · rw [found, exact fun before same => by cases same]
    rfl
  · have order : "metadata" < "spec" := by decide
    exact .object (List.pairwise_pair.mpr order)
      (by simp [resource, Json.IsOrdered.number, Json.IsOrdered.bool])

end Calls

end ClusterClient.Resource
