import ClusterClient.Proofs.Address.Scope
import ClusterClient.Proofs.Address.Belonging

namespace ClusterClient

namespace Address

namespace Step

/-- Whether a step says what to address. -/
def ChoosesEndpoint : Step → Prop
  | .kind .. | .endpoint _ => True
  | _ => False

/-- Whether a step can be taken: the catalog has to know the kind that is asked for. -/
def Resolves (catalog : Catalog) : Step → Prop
  | .kind version asked => (catalog.resolve version asked).isSome
  | _ => True

instance (catalog : Catalog) : DecidablePred (Resolves catalog)
  | .kind version asked => inferInstanceAs (Decidable (catalog.resolve version asked).isSome)
  | .endpoint _ | .name _ | .namespaceName _ | .subresource _ | .watch _ | .params _
  | .identity _ => .isTrue trivial

/-! What a step gives to each part of an address, if anything. -/

def endpoint? (catalog : Catalog) : Step → Option Endpoint
  | .kind version asked => catalog.resolve version asked
  | .endpoint chosen => some chosen
  | _ => none

def name? : Step → Option String
  | .name text => some text
  | .identity object => object.name
  | _ => none

def namespaceName? : Step → Option String
  | .namespaceName text => some text
  | .identity object => object.namespaceName
  | _ => none

def subresource? : Step → Option String
  | .subresource text => some text
  | .identity object => object.subresource
  | _ => none

def watch? : Step → Option Bool
  | .watch watched => some watched
  | _ => none

def params? : Step → Option (List (String × String))
  | .params added => some added
  | _ => none

/-- Two steps that give nothing to the same part. -/
structure Apart (one other : Step) : Prop where
  endpoint : ¬ one.ChoosesEndpoint ∨ ¬ other.ChoosesEndpoint
  name : one.name? = none ∨ other.name? = none
  namespaceName : one.namespaceName? = none ∨ other.namespaceName? = none
  subresource : one.subresource? = none ∨ other.subresource? = none
  watch : one.watch? = none ∨ other.watch? = none
  params : one.params? = none ∨ other.params? = none

variable {catalog : Catalog} {step : Step}

theorem endpoint?_eq_none (unchosen : ¬ step.ChoosesEndpoint) : step.endpoint? catalog = none := by
  cases step with
  | kind | endpoint => exact absurd trivial unchosen
  | _ => rfl

theorem isSome_endpoint?_iff (resolves : step.Resolves catalog) :
    (step.endpoint? catalog).isSome ↔ step.ChoosesEndpoint := by
  cases step with
  | kind => exact iff_of_true resolves trivial
  | endpoint => exact iff_of_true rfl trivial
  | _ => exact iff_of_false Bool.false_ne_true id

/-- A single parameter is given as a list of one. -/
def param (key value : String) : Step := .params [(key, value)]

end Step

section Reading

variable {α : Type} {read : Step → Option α}

/-- What the last of some steps to give a value gives. -/
def lastOf (read : Step → Option α) (steps : List Step) : Option α :=
  (steps.filterMap read).getLast?

theorem lastOf_concat (steps : List Step) (step : Step) :
    lastOf read (steps ++ [step]) = (read step).or (lastOf read steps) := by
  rw [lastOf, List.filterMap_append, List.getLast?_append]
  cases given : read step <;> simp [given, lastOf]

theorem lastOf_eq_none_iff {steps : List Step} :
    lastOf read steps = none ↔ ∀ step ∈ steps, read step = none := by
  rw [lastOf, List.getLast?_eq_none_iff, List.filterMap_eq_nil_iff]

theorem filterMap_swap {one other : Step} (apart : read one = none ∨ read other = none)
    (before after : List Step) : (before ++ one :: other :: after).filterMap read
      = (before ++ other :: one :: after).filterMap read := by
  rcases apart with silent | silent <;>
    simp only [List.filterMap_append, List.filterMap_cons, silent]

end Reading

/-- The address that holds what steps gave last to each part, and all parameters in the order of the
steps. A part that was last given an empty text holds nothing. -/
def told (catalog : Catalog) (base : String) (steps : List Step) : Address where
  base := Text.trimEnd '/' base
  endpoint := lastOf (Step.endpoint? catalog) steps
  name := (lastOf Step.name? steps).filter (· ≠ "")
  namespaceName := (lastOf Step.namespaceName? steps).filter (· ≠ "")
  subresource := (lastOf Step.subresource? steps).filter (· ≠ "")
  watch := (lastOf Step.watch? steps).getD false
  params := (steps.filterMap Step.params?).flatten

/-- A later text takes the place of an earlier one, also when it is empty. -/
theorem filter_or_eq_elim (later earlier : Option String) :
    (later.or earlier).filter (· ≠ "") = later.elim (earlier.filter (· ≠ "")) given := by
  cases later with
  | none => rfl
  | some text => by_cases empty : text = "" <;> simp [given, empty]

/-- A step that can be taken gives its values to their parts, and leaves the others as they are. -/
theorem apply_told {catalog : Catalog} {step : Step} (resolves : step.Resolves catalog)
    (base : String) (steps : List Step) :
    apply catalog (told catalog base steps) step = .ok (told catalog base (steps ++ [step])) := by
  simp only [told, lastOf_concat, List.filterMap_append, List.flatten_append, filter_or_eq_elim]
  cases step with
  | kind version kind =>
    obtain ⟨endpoint, found⟩ := Option.isSome_iff_exists.mp resolves
    simp [apply, setKind, found, Step.endpoint?, Step.name?, Step.namespaceName?,
      Step.subresource?, Step.watch?, Step.params?]
  | endpoint | name | namespaceName | subresource | watch | params | identity =>
    simp [apply, setEndpoint, setName, setNamespace, setSubresource, setWatch, addParams, setIdentity,
      Step.endpoint?, Step.name?, Step.namespaceName?, Step.subresource?, Step.watch?, Step.params?]

/-- Whatever the steps were, only what they gave last counts. -/
theorem foldlM_apply {catalog : Catalog} {steps : List Step}
    (resolve : ∀ step ∈ steps, step.Resolves catalog) (base : String) :
    steps.foldlM (apply catalog) (ofBase base) = .ok (told catalog base steps) := by
  induction steps using List.reverseRecOn with
  | nil => rfl
  | append_singleton steps step ih =>
    -- The steps before the last one have left what they told, which is all that the last one changes.
    have taken := ih fun earlier member => resolve earlier (List.mem_append_left _ member)
    have last := resolve step (List.mem_append_right _ (List.mem_singleton_self step))
    rw [List.foldlM_append, taken]
    change (apply catalog (told catalog base steps) step >>= pure) = _
    rw [apply_told last, bind_pure]

/-! The URL of an address, spelled out. -/

/-- A segment that may be missing, with the slash before it. -/
def slashed : Option String → String
  | some text => "/" ++ text
  | none => ""

/-- The parameters of a query: a question mark before the first, an ampersand before each other. -/
def paramsText : List (String × String) → String
  | [] => ""
  | (key, value) :: rest =>
    "?" ++ Percent.encode key ++ "=" ++ Percent.encode value
      ++ String.join (rest.map fun (key, value) =>
        "&" ++ Percent.encode key ++ "=" ++ Percent.encode value)

/-- The namespace of an address, unless the endpoint is one of the whole cluster or one of the
namespaces themselves. -/
def place (address : Address) (endpoint : Endpoint) : Option String :=
  if endpoint.namespaced ∧ endpoint.kind ≠ "Project" ∧ endpoint.kind ≠ "Namespace" then
    address.namespaceName
  else none

/-- The namespace segment, which only modern addresses have. -/
def placeText (address : Address) (endpoint : Endpoint) : String :=
  match endpoint.convention, address.place endpoint with
  | .modern, some name => "/namespaces/" ++ Percent.encode name
  | _, _ => ""

/-- The namespace parameter, which only legacy addresses have. -/
def placeParams (address : Address) (endpoint : Endpoint) : List (String × String) :=
  match endpoint.convention, address.place endpoint with
  | .legacy, some name => [("namespace", name)]
  | _, _ => []

def spelling (address : Address) (endpoint : Endpoint) : String :=
  address.base ++ "/" ++ endpoint.addressPrefix ++ slashed endpoint.groupName
    ++ "/" ++ endpoint.version ++ (if address.watch then "/watch" else "")
    ++ address.placeText endpoint ++ "/" ++ endpoint.pluralName
    ++ slashed (address.name.map Percent.encode) ++ slashed address.subresource
    ++ paramsText (address.placeParams endpoint ++ address.params)

variable (address : Address) (endpoint : Endpoint)

theorem place_eq_scopedNamespace : address.place endpoint = address.scopedNamespace endpoint := by
  simp [place, scopedNamespace, Endpoint.isScoped, Kind.isNamespaceRoot]

theorem intercalate_surfaceSegments : "/".intercalate endpoint.surfaceSegments
    = endpoint.addressPrefix ++ slashed endpoint.groupName ++ "/" ++ endpoint.version := by
  cases group : endpoint.groupName <;>
    simp [Endpoint.surfaceSegments, group, slashed, String.append_assoc]

theorem intercalate_objectSegments : "/".intercalate (address.objectSegments endpoint)
    = endpoint.pluralName ++ slashed (address.name.map Percent.encode)
      ++ slashed address.subresource := by
  cases name : address.name <;> cases subresource : address.subresource <;>
    simp [objectSegments, name, subresource, slashed, String.append_assoc]

theorem intercalate_collection : "/" ++ "/".intercalate
      (endpoint.scopeSegments (address.scopedNamespace endpoint) ++ address.objectSegments endpoint)
    = address.placeText endpoint ++ "/" ++ "/".intercalate (address.objectSegments endpoint) := by
  have written : address.objectSegments endpoint ≠ [] := List.cons_ne_nil _ _
  unfold placeText Endpoint.scopeSegments
  rw [place_eq_scopedNamespace]
  cases endpoint.convention with
  | legacy => cases address.scopedNamespace endpoint <;> simp
  | modern =>
    cases address.scopedNamespace endpoint with
    | none => simp [placeSegments]
    | some name =>
      simp only [Option.map_some, placeSegments, List.cons_append, List.nil_append,
        String.intercalate_cons_cons, String.intercalate_cons_of_ne_nil written]
      simp [← String.append_assoc]

theorem placeParams_eq : address.placeParams endpoint
    = endpoint.scopeParams (address.scopedNamespace endpoint) := by
  unfold placeParams Endpoint.scopeParams
  rw [place_eq_scopedNamespace]
  cases endpoint.convention <;> cases address.scopedNamespace endpoint <;> rfl

theorem join_ampersands (param : String × String) (rest : List (String × String)) :
    "&".intercalate ((param :: rest).map paramText)
      = paramText param ++ String.join (rest.map fun param => "&" ++ paramText param) := by
  induction rest generalizing param with
  | nil => simp
  | cons next rest ih =>
    have following := ih next
    simp only [List.map_cons] at following ⊢
    rw [String.intercalate_cons_cons, following, String.join_cons, String.append_assoc,
      String.append_assoc]

theorem queryText_eq_paramsText (params : List (String × String)) :
    queryText params = paramsText params := by
  cases params with
  | nil => rfl
  | cons param rest =>
    rw [queryText, join_ampersands]
    · simp only [paramsText, paramText, String.append_assoc]
    · exact List.cons_ne_nil _ _

theorem urlAt_eq_spelling : address.urlAt endpoint = address.spelling endpoint := by
  calc address.urlAt endpoint
      = address.base ++ "/" ++ "/".intercalate endpoint.surfaceSegments
          ++ (if address.watch then "/watch" else "")
          ++ ("/" ++ "/".intercalate (endpoint.scopeSegments (address.scopedNamespace endpoint)
            ++ address.objectSegments endpoint))
          ++ paramsText (address.placeParams endpoint ++ address.params) := by
        rw [urlAt_eq_textIn, textIn_eq, queryText_eq_paramsText, placeParams_eq]
        simp only [String.append_assoc]
    _ = address.spelling endpoint := by
        rw [intercalate_surfaceSegments, intercalate_collection, intercalate_objectSegments, spelling]
        simp only [String.append_assoc]

/-- The URL that steps of making an address come to, each step taken after the other. -/
def make (catalog : Catalog) (base : String) (steps : List Step) : Except Error String :=
  steps.foldlM (apply catalog) (ofBase base) >>= url

/-- Two neighbouring steps change places that give nothing to the same part. -/
inductive Exchange : List Step → List Step → Prop
  | swap (before after : List Step) {one other : Step} (apart : one.Apart other) :
    Exchange (before ++ one :: other :: after) (before ++ other :: one :: after)

/-- What the making of an address comes to. -/
structure Spelled (catalog : Catalog) (base : String) (steps : List Step) : Prop where
  /-- It fails where no step says what to address, and only there. -/
  fails_iff : (∃ error, make catalog base steps = .error error) ↔
    ∀ step ∈ steps, ¬ step.ChoosesEndpoint
  error_eq : ∀ error, make catalog base steps = .error error → error = .configuration .noKind
  /-- The URL is that of the endpoint chosen last, with what was given last to each other part. -/
  url_eq : ∀ url, make catalog base steps = .ok url → ∃ endpoint,
    lastOf (Step.endpoint? catalog) steps = some endpoint ∧
      url = (told catalog base steps).spelling endpoint
  /-- The order of steps that have no part in common does not matter. -/
  exchange : ∀ other, Relation.ReflTransGen Exchange steps other →
    make catalog base other = make catalog base steps

section Steps

variable {catalog : Catalog} {steps : List Step}

theorem make_eq (resolve : ∀ step ∈ steps, step.Resolves catalog) (base : String) :
    make catalog base steps = (told catalog base steps).url := by
  rw [make, foldlM_apply resolve]
  rfl

theorem make_of_unchosen (resolve : ∀ step ∈ steps, step.Resolves catalog)
    (last : lastOf (Step.endpoint? catalog) steps = none) (base : String) :
    make catalog base steps = .error (.configuration .noKind) := by
  have unset : (told catalog base steps).endpoint = none := last
  rw [make_eq resolve, url, unset]

theorem make_of_chosen {endpoint : Endpoint} (resolve : ∀ step ∈ steps, step.Resolves catalog)
    (last : lastOf (Step.endpoint? catalog) steps = some endpoint) (base : String) :
    make catalog base steps = .ok ((told catalog base steps).spelling endpoint) := by
  have set : (told catalog base steps).endpoint = some endpoint := last
  rw [make_eq resolve, url, set, ← urlAt_eq_spelling]

theorem lastOf_endpoint?_eq_none_iff (resolve : ∀ step ∈ steps, step.Resolves catalog) :
    lastOf (Step.endpoint? catalog) steps = none ↔ ∀ step ∈ steps, ¬ step.ChoosesEndpoint := by
  rw [lastOf_eq_none_iff]
  refine forall₂_congr fun step member => ?_
  rw [← Step.isSome_endpoint?_iff (resolve step member), Option.not_isSome_iff_eq_none]

theorem told_swap {one other : Step} (apart : one.Apart other) (catalog : Catalog) (base : String)
    (before after : List Step) : told catalog base (before ++ one :: other :: after)
      = told catalog base (before ++ other :: one :: after) := by
  have chosen : one.endpoint? catalog = none ∨ other.endpoint? catalog = none :=
    apart.endpoint.imp Step.endpoint?_eq_none Step.endpoint?_eq_none
  simp only [told, lastOf, filterMap_swap chosen, filterMap_swap apart.name,
    filterMap_swap apart.namespaceName, filterMap_swap apart.subresource,
    filterMap_swap apart.watch, filterMap_swap apart.params]

/-- Exchanges move steps about: they keep each of them, and what each part is given last. -/
theorem told_of_exchanges {other : List Step} (exchanged : Relation.ReflTransGen Exchange steps other)
    (catalog : Catalog) (base : String) :
    other.Perm steps ∧ told catalog base other = told catalog base steps := by
  induction exchanged with
  | refl => exact ⟨List.Perm.refl _, rfl⟩
  | tail _ swapped ih =>
    obtain @⟨before, after, one, other, apart⟩ := swapped
    have moved : (before ++ other :: one :: after).Perm (before ++ one :: other :: after) :=
      (List.Perm.swap one other after).append_left before
    exact ⟨moved.trans ih.1, (told_swap apart catalog base before after).symm.trans ih.2⟩

theorem make_of_exchanges {other : List Step} (resolve : ∀ step ∈ steps, step.Resolves catalog)
    (exchanged : Relation.ReflTransGen Exchange steps other) (base : String) :
    make catalog base other = make catalog base steps := by
  obtain ⟨moved, same⟩ := told_of_exchanges exchanged catalog base
  have resolve' : ∀ step ∈ other, step.Resolves catalog :=
    fun step member => resolve step (moved.mem_iff.mp member)
  rw [make_eq resolve', make_eq resolve, same]

/-- An address is what its steps gave last to each part, whatever came before or between. -/
theorem make_spelled (catalog : Catalog) (base : String) (steps : List Step)
    (resolve : ∀ step ∈ steps, step.Resolves catalog) : Spelled catalog base steps := by
  have chosen := lastOf_endpoint?_eq_none_iff resolve
  have exchange (other : List Step) (exchanged : Relation.ReflTransGen Exchange steps other) :=
    make_of_exchanges resolve exchanged base
  cases last : lastOf (Step.endpoint? catalog) steps with
  | none =>
    have failed := make_of_unchosen resolve last base
    refine ⟨iff_of_true ⟨_, failed⟩ (chosen.mp last), fun error same => ?_, fun url made => ?_,
      exchange⟩
    · exact (Except.error.inj (failed.symm.trans same)).symm
    · rw [failed] at made
      cases made
  | some endpoint =>
    have made := make_of_chosen resolve last base
    have succeeds (error : Error) : make catalog base steps ≠ .error error := by
      intro failed
      rw [made] at failed
      cases failed
    have someChosen : ¬ ∀ step ∈ steps, ¬ step.ChoosesEndpoint := by
      rw [← chosen, last]
      exact Option.some_ne_none endpoint
    refine ⟨iff_of_false (not_exists.mpr succeeds) someChosen, fun error failed => ?_,
      fun url same => ⟨endpoint, last, ?_⟩, exchange⟩
    · exact absurd failed (succeeds error)
    · exact (Except.ok.inj (made.symm.trans same)).symm

end Steps

/-- Steps of every sort, some of which take back what earlier ones gave. -/
def podSteps : List Step := [.name "a b", .kind none "Pod", .namespaceName "team a",
  Step.param "follow" "1/2", .subresource "status", .watch true,
  .identity { kind := "Pod", name := some "", subresource := some "log" },
  .params [("x", "&"), ("follow", "")]]

theorem make_spelled_pods :
    (∀ step ∈ podSteps, step.Resolves { endpoints := [podEndpoint] }) ∧
      Spelled { endpoints := [podEndpoint] } "https://c.example//" podSteps ∧
      make { endpoints := [podEndpoint] } "https://c.example//" podSteps
        = .ok "https://c.example/api/v1/watch/namespaces/team%20a/pods/log?follow=1%2F2&x=%26&follow=" := by
  have resolve : ∀ step ∈ podSteps, step.Resolves { endpoints := [podEndpoint] } := by
    decide +kernel
  exact ⟨resolve, make_spelled _ _ _ resolve, by decide +kernel⟩

/-- A name is escaped where it stands in the path. And the name of an identity and a name on its own
are given to the same part: of these two the later one counts. -/
theorem make_name_pods :
    make {} "https://c.example" [.endpoint podEndpoint, .name "a b"]
        ≠ .ok "https://c.example/api/v1/pods/a b" ∧
      make {} "https://c.example"
          [.endpoint podEndpoint, .name "a", .identity { kind := "Pod", name := some "b" }]
        ≠ make {} "https://c.example"
          [.endpoint podEndpoint, .identity { kind := "Pod", name := some "b" }, .name "a"] := by
  decide +kernel

end Address

end ClusterClient
