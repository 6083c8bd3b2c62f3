import ClusterClient.Materializer
import ClusterClient.Proofs.Text.Pieces
import Mathlib.Data.List.Induction

namespace ClusterClient

/-- The text of a field; what is missing or no text counts as the empty text. -/
def Json.ownText (name : String) (json : Json) : String :=
  match json.field? name with
  | some (.text value) => value
  | _ => ""

theorem Json.ownText_eq (name : String) (json : Json) :
    json.ownText name = ((json.field? name).bind (·.text?)).getD "" := by
  rw [ownText]
  cases json.field? name with
  | none => rfl
  | some value => cases value <;> rfl

namespace Materializer

/-- The group and the version of a type's key are the text that they were split from. -/
theorem qualifiedVersion_typeKey (apiVersion : Option String) (kind : String) :
    qualifiedVersion (typeKey apiVersion kind).groupName (typeKey apiVersion kind).version
      = apiVersion.getD "" := by
  cases apiVersion with
  | none => rfl
  | some text =>
    rw [Option.getD_some, typeKey, VersionSelector.ofRequest]
    by_cases empty : text = ""
    · rw [if_pos empty, empty]
      rfl
    · have whole := (Text.eq_of_cut '/' text).2
      rw [if_neg empty]
      generalize Text.cut '/' text = parts at whole
      subst whole
      rcases parts with ⟨group, _ | version⟩
      · exact String.append_empty.symm
      · exact String.append_assoc ..

theorem typeKey_kind (apiVersion : Option String) (kind : String) :
    (typeKey apiVersion kind).kind = kind := by
  rw [typeKey]
  split <;> rfl

theorem typeKey_getD (apiVersion : Option String) (kind : String) :
    typeKey apiVersion kind = typeKey (some (apiVersion.getD "")) kind := by
  cases apiVersion <;> rfl

/-- No two texts share a type, whatever slashes are in them. -/
theorem typeKey_inj {apiVersion otherVersion kind otherKind : String} :
    typeKey (some apiVersion) kind = typeKey (some otherVersion) otherKind ↔
      apiVersion = otherVersion ∧ kind = otherKind := by
  constructor
  · intro same
    have version := qualifiedVersion_typeKey (some apiVersion) kind
    have named := typeKey_kind (some apiVersion) kind
    rw [same, qualifiedVersion_typeKey] at version
    rw [same, typeKey_kind] at named
    exact ⟨version.symm, named.symm⟩
  · rintro ⟨rfl, rfl⟩
    rfl

example : typeKey (some "/v1") "Pod" ≠ typeKey (some "v1") "Pod" := by
  decide

theorem claimedType_eq (json : Json) :
    claimedType json = typeKey (some (json.ownText "apiVersion")) (json.ownText "kind") := by
  rw [claimedType, typeKey_getD, Json.ownText_eq, Json.ownText_eq]

/-- One registration of a maker. -/
structure Registration where
  apiVersion : String
  kind : String
  maker : Maker

namespace Registration

def key (registration : Registration) : TypeKey :=
  typeKey (some registration.apiVersion) registration.kind

/-- Whether the maker is registered for exactly the texts that a document bears. -/
def isFor (json : Json) (registration : Registration) : Bool :=
  registration.apiVersion == json.ownText "apiVersion" && registration.kind == json.ownText "kind"

theorem isFor_eq (json : Json) (registration : Registration) :
    registration.isFor json = (claimedType json == registration.key) := by
  rw [Bool.eq_iff_iff, isFor, beq_iff_eq, claimedType_eq, key, typeKey_inj, Bool.and_eq_true,
    beq_iff_eq, beq_iff_eq, eq_comm, @eq_comm _ (json.ownText "kind")]

end Registration

/-- A materializer after some registrations, from first to last. -/
def ofRegistrations (registrations : List Registration) : Materializer :=
  registrations.foldl (fun materializer registration =>
    materializer.register registration.apiVersion registration.kind registration.maker) {}

theorem ofRegistrations_append_singleton (registrations : List Registration)
    (registration : Registration) :
    ofRegistrations (registrations ++ [registration]) =
      (ofRegistrations registrations).register registration.apiVersion registration.kind
        registration.maker := by
  rw [ofRegistrations, List.foldl_append]
  rfl

theorem maker?_register (materializer : Materializer) (apiVersion kind : String) (maker : Maker)
    (key : TypeKey) : (materializer.register apiVersion kind maker).maker? key =
      if key == typeKey (some apiVersion) kind then some maker else materializer.maker? key := by
  rw [maker?, register, List.lookup_cons]
  cases key == typeKey (some apiVersion) kind <;> rfl

/-- The maker of a type is the one registered last for it. -/
theorem maker?_ofRegistrations (registrations : List Registration) (key : TypeKey) :
    (ofRegistrations registrations).maker? key =
      ((registrations.filter (key == ·.key)).getLast?).map (·.maker) := by
  induction registrations using List.reverseRecOn with
  | nil => rfl
  | append_singleton registrations registration ih =>
    rw [ofRegistrations_append_singleton, maker?_register, List.filter_append, ih,
      ← Registration.key]
    split
    · next same => simp [same]
    · next other => simp [other]

/-- For every sequence of registrations, the last one for exactly the texts that a document bears
makes its resource. Without one an object is a resource as it is, and nothing else is. -/
theorem ofRegistrations_materialize (registrations : List Registration) :
    (∀ json, (ofRegistrations registrations).materialize json =
      match (registrations.filter (·.isFor json)).getLast? with
      | some registration => registration.maker json
      | none => match json with
        | .object fields => .ok ⟨fields⟩
        | other => .error (.configuration (.notAnObject (Resource.describe other)))) ∧
    (∀ apiVersion kind, (ofRegistrations registrations).isRegistered apiVersion kind = true ↔
      ∃ registration ∈ registrations,
        registration.apiVersion = apiVersion ∧ registration.kind = kind) ∧
    ∀ apiVersion kind otherVersion otherKind,
      typeKey (some apiVersion) kind = typeKey (some otherVersion) otherKind ↔
        apiVersion = otherVersion ∧ kind = otherKind := by
  refine ⟨fun json => ?_, fun apiVersion kind => ?_, fun _ _ _ _ => typeKey_inj⟩
  · have chosen : (registrations.filter (·.isFor json)) =
        registrations.filter (claimedType json == ·.key) :=
      List.filter_congr fun registration _ => registration.isFor_eq json
    rw [materialize, maker?_ofRegistrations, chosen]
    cases (registrations.filter (claimedType json == ·.key)).getLast? with
    | some registration => rfl
    | none => cases json <;> rfl
  · rw [isRegistered, maker?_ofRegistrations, Option.isSome_map, List.getLast?_isSome]
    simp only [ne_eq, List.filter_eq_nil_iff, beq_iff_eq, Registration.key, typeKey_inj]
    push Not
    simp only [eq_comm]

end Materializer

end ClusterClient
