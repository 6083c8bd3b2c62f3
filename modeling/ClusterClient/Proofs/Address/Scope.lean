import ClusterClient.Proofs.Address.Unambiguous
import ClusterClient.Proofs.Address.Recognition

namespace ClusterClient

namespace Endpoint

/-- The segments that a namespace takes in a path of the endpoint. -/
def scopeSegments (endpoint : Endpoint) (place : Option String) : List String :=
  match endpoint.convention with
  | .legacy => []
  | .modern => Address.placeSegments (place.map Percent.encode)

/-- The parameters that a namespace takes in a query of the endpoint. -/
def scopeParams (endpoint : Endpoint) (place : Option String) : List (String × String) :=
  match endpoint.convention with
  | .legacy => place.toList.map (("namespace", ·))
  | .modern => []

end Endpoint

namespace Address

variable {endpoint : Endpoint}

/-- The URL of an address, were it in some namespace or in none. -/
def textIn (address : Address) (endpoint : Endpoint) (place : Option String) : String :=
  address.base ++ "/" ++ "/".intercalate (endpoint.surfaceSegments
      ++ (if address.watch then ["watch"] else []) ++ endpoint.scopeSegments place
      ++ address.objectSegments endpoint)
    ++ queryText (endpoint.scopeParams place ++ address.params)

theorem namespaceSegments_eq (address : Address) (endpoint : Endpoint) :
    address.namespaceSegments endpoint
      = endpoint.scopeSegments (address.scopedNamespace endpoint) := by
  unfold namespaceSegments Endpoint.scopeSegments
  cases endpoint.convention <;> cases address.scopedNamespace endpoint <;> rfl

theorem query_eq (address : Address) (endpoint : Endpoint) :
    address.query endpoint
      = endpoint.scopeParams (address.scopedNamespace endpoint) ++ address.params := by
  unfold query Endpoint.scopeParams
  cases endpoint.convention <;> cases address.scopedNamespace endpoint <;> rfl

/-- An address is in its namespace, where the endpoint has namespaces. -/
theorem urlAt_eq_textIn (address : Address) (endpoint : Endpoint) :
    address.urlAt endpoint = address.textIn endpoint (address.scopedNamespace endpoint) := by
  rw [urlAt, textIn, segments_eq, namespaceSegments_eq, query_eq]

theorem queryText_injective : Function.Injective queryText := by
  intro one other same
  have parted (params : List (String × String)) := cut_queryText (by decide : '?' ∉ "".toList) params
  have bodies := parted one
  rw [same, parted other, Prod.mk.injEq] at bodies
  exact queryBody?_injective bodies.2.symm

/-- The parts of a URL from left to right: a watch is marked right after the version. -/
theorem textIn_eq (address : Address) (endpoint : Endpoint) (place : Option String) :
    address.textIn endpoint place =
      address.base ++ "/" ++ "/".intercalate endpoint.surfaceSegments
        ++ (if address.watch then "/watch" else "") ++ "/"
        ++ "/".intercalate (endpoint.scopeSegments place ++ address.objectSegments endpoint)
        ++ queryText (endpoint.scopeParams place ++ address.params) := by
  have surface : endpoint.surfaceSegments ≠ [] := List.cons_ne_nil _ _
  have collection : endpoint.scopeSegments place ++ address.objectSegments endpoint ≠ [] :=
    List.append_ne_nil_of_right_ne_nil _ (List.cons_ne_nil _ _)
  rw [textIn, List.append_assoc, List.append_assoc,
    String.intercalate_append_of_ne_nil surface (List.append_ne_nil_of_right_ne_nil _ collection)]
  cases address.watch with
  | false => simp [String.append_assoc]
  | true =>
    simp only [if_true, List.cons_append, List.nil_append, String.append_assoc,
      String.intercalate_cons_of_ne_nil collection]
    rfl

/-- Before a collection a namespace in the path is told from every other and from none. -/
theorem intercalate_placeSegments_injective {collection : List String} (nonempty : collection ≠ []) :
    Function.Injective fun place : Option String =>
      "/".intercalate (placeSegments (place.map Percent.encode) ++ collection) := by
  have longer (name : String) :
      "/".intercalate (placeSegments (some (Percent.encode name)) ++ collection)
        ≠ "/".intercalate collection := by
    intro same
    have lengths := congrArg String.length same
    simp only [placeSegments, List.cons_append, List.nil_append, String.intercalate_cons_cons,
      String.intercalate_cons_of_ne_nil nonempty, String.length_append,
      show "/".length = 1 from rfl] at lengths
    omega
  intro one other same
  cases one <;> cases other
  · rfl
  · exact absurd same.symm (longer _)
  · exact absurd same (longer _)
  · simp only [placeSegments, Option.map_some, List.cons_append, List.nil_append,
      String.intercalate_cons_cons, String.intercalate_cons_of_ne_nil nonempty, String.append_assoc,
      String.append_right_inj, String.append_left_inj] at same
    rw [Percent.encode_injective same]

/-- The text of a URL tells which namespace it is in, if any. -/
theorem textIn_injective (address : Address) (endpoint : Endpoint) :
    Function.Injective (address.textIn endpoint) := by
  intro one other same
  simp only [textIn_eq, Endpoint.scopeSegments, Endpoint.scopeParams, String.append_assoc,
    String.append_right_inj] at same
  cases convention : endpoint.convention with
  | legacy =>
    simp only [convention, String.append_right_inj] at same
    have params := List.append_cancel_right (queryText_injective same)
    have keyed : Function.Injective fun name : String => ("namespace", name) :=
      fun _ _ same => (Prod.mk.inj same).2
    have places := congrArg List.head? (List.map_injective_iff.mpr keyed params)
    rwa [Option.head?_toList, Option.head?_toList] at places
  | modern =>
    simp only [convention, List.nil_append, String.append_left_inj] at same
    exact intercalate_placeSegments_injective (List.cons_ne_nil _ _) same

end Address

end ClusterClient
