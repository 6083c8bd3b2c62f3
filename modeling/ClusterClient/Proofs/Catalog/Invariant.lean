import ClusterClient.Proofs.Catalog.History
import ClusterClient.Proofs.Catalog.Restriction
import ClusterClient.Proofs.Catalog.Types
import Mathlib.Data.List.Nodup

namespace ClusterClient

theorem IndexedBy.nodup {α κ : Type} [DecidableEq κ] {key : α → κ} {items : List α}
    {index : List (κ × Nat)} (indexed : IndexedBy key items index) : (items.map key).Nodup := by
  rw [List.nodup_iff_getElem?_ne_getElem?]
  intro first second before within same
  have at_second : (items[second]?).map key = some (items.map key)[second] := by
    rw [← List.getElem?_map, List.getElem?_eq_getElem within]
  have at_first : (items[first]?).map key = some (items.map key)[second] := by
    rw [← List.getElem?_map, same, List.getElem?_map, at_second]
  exact Nat.ne_of_lt before (indexed.position_unique at_first at_second)

namespace Catalog

/-- Change what stands at a position. There is no result if nothing does. -/
def changeAt? (catalog : Catalog) (position : Nat) (change : Endpoint → Endpoint) :
    Option Catalog :=
  if position < catalog.endpoints.length then
    some { catalog with endpoints := catalog.endpoints.modify position change }
  else none

def enterEndpoint? (catalog : Catalog) (endpoint : Endpoint) : Option Catalog :=
  match catalog.endpointIndex.lookup endpoint.key with
  | some position => catalog.changeAt? position fun known =>
      { known with verbs := mergeVerbs known.verbs endpoint.verbs }
  | none => some (catalog.enterEndpoint endpoint)

def noteCapability? (catalog : Catalog) (key : EndpointKey) (capability : String) :
    Option Catalog :=
  match catalog.endpointIndex.lookup key with
  | some position => catalog.changeAt? position fun known =>
      { known with capabilities := insertOnce capability known.capabilities }
  | none => some catalog

def addEntry? (catalog : Catalog) (item : Surface × ResourceEntry) : Option Catalog :=
  let typed := addType item.1 catalog item.2
  match item.2.suffix? with
  | none =>
    if item.2.verbs = [] then some typed
    else (typed.learnPlural (item.1.kindKey item.2) item.2.name).enterEndpoint?
      (listedEndpoint item.1 item.2)
  | some suffix => typed.noteCapability? (item.1.entryKey item.2) suffix

def add? (catalog : Catalog) : Addition → Option Catalog
  | .group group => some (catalog.addGroup group)
  | .listing surface listing => (listing.merged surface).foldlM addEntry? catalog

/-- The catalog that some additions build if each position that is used is one of the lists. -/
def ofAdditions? (additions : List Addition) : Option Catalog := additions.foldlM add? {}

/-- The item at the position of a key, if the key has one. There is no result where the position is
beyond the items. -/
def itemAt? {α κ : Type} [BEq κ] (items : List α) (index : List (κ × Nat)) (key : κ) :
    Option (Option α) :=
  match index.lookup key with
  | some position => items[position]?.map some
  | none => some none

def resolve? (catalog : Catalog) (version : Option String) (kind : String) :
    Option (Option Endpoint) :=
  match VersionSelector.ofRequest version with
  | .grouped group version => itemAt? catalog.endpoints catalog.endpointIndex
      ⟨Surface.groupedPrefix, some group, version, catalog.pluralFor kind (some group) version⟩
  | _ => some (catalog.resolve version kind)

def resolveType? (catalog : Catalog) (version : Option String) (kind : String) :
    Option (Option TypeDescriptor) :=
  match VersionSelector.ofRequest version with
  | .grouped group version => itemAt? catalog.types catalog.typeIndex ⟨some group, version, kind⟩
  | _ => some (catalog.resolveType version kind)

variable {catalog : Catalog}

theorem lt_length_of_lookup (indexed : catalog.Indexed) {key : EndpointKey} {position : Nat}
    (found : catalog.endpointIndex.lookup key = some position) :
    position < catalog.endpoints.length := by
  obtain ⟨endpoint, there, _⟩ := Option.map_eq_some_iff.mp ((indexed.endpoints key position).mp found)
  exact (List.getElem?_eq_some_iff.mp there).1

theorem enterEndpoint?_eq_some (indexed : catalog.Indexed) (endpoint : Endpoint) :
    catalog.enterEndpoint? endpoint = some (catalog.enterEndpoint endpoint) := by
  unfold enterEndpoint?
  split
  · next position found =>
    rw [changeAt?, if_pos (lt_length_of_lookup indexed found)]
    simp only [enterEndpoint, found]
  · rfl

theorem noteCapability?_eq_some (indexed : catalog.Indexed) (key : EndpointKey)
    (capability : String) :
    catalog.noteCapability? key capability = some (catalog.noteCapability key capability) := by
  unfold noteCapability?
  split
  · next position found =>
    rw [changeAt?, if_pos (lt_length_of_lookup indexed found)]
    simp only [noteCapability, found]
  · next absent => simp only [noteCapability, absent]

theorem addEntry?_eq_some (indexed : catalog.Indexed) (item : Surface × ResourceEntry) :
    catalog.addEntry? item = some (catalog.addEntry item) := by
  have typed := addType_indexed indexed item.1 item.2
  unfold addEntry?
  cases suffix : item.2.suffix? with
  | none =>
    simp only [addEntry, addCollection, suffix, Option.isNone_none, if_true]
    split
    · rfl
    · exact enterEndpoint?_eq_some (learnPlural_indexed typed _ _) _
  | some text =>
    simp only [addEntry, addSubresource, suffix, Option.isNone_some, Bool.false_eq_true, if_false]
    exact noteCapability?_eq_some typed _ _

theorem foldlM_addEntry?_eq_some (indexed : catalog.Indexed)
    (items : List (Surface × ResourceEntry)) :
    items.foldlM addEntry? catalog = some (items.foldl addEntry catalog) := by
  induction items generalizing catalog with
  | nil => rfl
  | cons item rest ih =>
    rw [List.foldlM_cons, addEntry?_eq_some indexed]
    exact ih (addEntry_indexed indexed item)

theorem add?_eq_some (indexed : catalog.Indexed) (addition : Addition) :
    catalog.add? addition = some (catalog.add addition) := by
  cases addition with
  | group group => rfl
  | listing surface listing =>
    rw [add?, foldlM_addEntry?_eq_some indexed, add, addListing_eq_foldl]

/-- Building a catalog never reaches for a position that its index does not have. -/
theorem ofAdditions?_eq_some (additions : List Addition) :
    ofAdditions? additions = some (ofAdditions additions) := by
  induction additions using List.reverseRecOn with
  | nil => rfl
  | append_singleton additions addition ih =>
    calc ofAdditions? (additions ++ [addition])
        = (ofAdditions? additions).bind fun catalog => catalog.add? addition := by simp [ofAdditions?]
      _ = some (ofAdditions (additions ++ [addition])) := by
        rw [ih, Option.bind_some, add?_eq_some (ofAdditions_indexed additions), ofAdditions_append]

theorem itemAt?_eq_some {α κ : Type} [DecidableEq κ] {key : α → κ} {items : List α}
    {index : List (κ × Nat)} (indexed : IndexedBy key items index) (k : κ) :
    itemAt? items index k = some ((index.lookup k).bind fun position => items[position]?) := by
  unfold itemAt?
  split
  · next position found =>
    obtain ⟨item, there, _⟩ := Option.map_eq_some_iff.mp ((indexed k position).mp found)
    rw [found, Option.bind_some, there]
    rfl
  · next absent => rw [absent, Option.bind_none]

theorem resolve?_eq_some (indexed : catalog.Indexed) (version : Option String) (kind : String) :
    catalog.resolve? version kind = some (catalog.resolve version kind) := by
  unfold resolve? resolve
  split
  · next group segment selected =>
    rw [selected]
    exact itemAt?_eq_some indexed.endpoints _
  · rfl

theorem resolveType?_eq_some (indexed : catalog.Indexed) (version : Option String)
    (kind : String) : catalog.resolveType? version kind = some (catalog.resolveType version kind) := by
  unfold resolveType? resolveType
  split
  · next group segment selected =>
    rw [selected]
    exact itemAt?_eq_some indexed.types _
  · rfl

theorem addGroup_keys_nodup
    (distinct : (catalog.groups.map fun known => (known.addressPrefix, known.groupName)).Nodup)
    (group : ApiGroup) :
    ((catalog.addGroup group).groups.map
      fun known => (known.addressPrefix, known.groupName)).Nodup := by
  rw [addGroup_groups]
  split
  · rwa [List.append_nil]
  · next fresh =>
    rw [List.map_append, List.map_singleton, ← List.concat_eq_append]
    refine distinct.concat fun member => fresh ?_
    obtain ⟨known, there, same⟩ := List.mem_map.mp member
    exact ⟨known, there, (Prod.mk.injEq ..).mp same⟩

theorem foldl_addEntry_groups (items : List (Surface × ResourceEntry)) (catalog : Catalog) :
    (items.foldl addEntry catalog).groups = catalog.groups := by
  -- Merging entries does not look at the groups, whatever they are.
  have kept : items.foldl addEntry catalog
      = { items.foldl addEntry catalog with groups := catalog.groups } :=
    foldl_addEntry_withGroups catalog.groups catalog items
  exact (congrArg Catalog.groups kept).trans rfl

theorem ofAdditions_groups_nodup (additions : List Addition) :
    ((ofAdditions additions).groups.map
      fun known => (known.addressPrefix, known.groupName)).Nodup := by
  induction additions using List.reverseRecOn with
  | nil => exact .nil
  | append_singleton additions addition ih =>
    rw [ofAdditions_append]
    cases addition with
    | group group => exact addGroup_keys_nodup ih group
    | listing surface listing => rwa [add, addListing_eq_foldl, foldl_addEntry_groups]

theorem mem_servedEntries {key : EndpointKey} {items : List (Surface × ResourceEntry)}
    {entry : ResourceEntry} : entry ∈ servedEntries key items ↔
      ∃ surface, (surface, entry) ∈ items ∧ entry.isServed ∧ surface.entryKey entry = key := by
  simp [servedEntries]

theorem ofAdditions_served (additions : List Addition) :
    ∀ endpoint ∈ (ofAdditions additions).endpoints,
      endpoint.verbs ≠ [] ∧ '/' ∉ endpoint.pluralName.toList := by
  intro endpoint member
  rw [ofAdditions_endpoints] at member
  obtain ⟨first, later, entries, -, -, verbs⟩ := foldl_endpoint _ member
  have head : first ∈ servedEntries endpoint.key (additions.flatMap Addition.merged) := by
    rw [entries]
    exact List.mem_cons_self
  obtain ⟨surface, -, served, key⟩ := mem_servedEntries.mp head
  obtain ⟨plain, busy⟩ := of_decide_eq_true served
  rw [entryKey_of_served served] at key
  have name : first.name = endpoint.pluralName := congrArg EndpointKey.pluralName key
  constructor
  · rw [verbs, mergeVerbs_eq]
    exact List.append_ne_nil_of_left_ne_nil busy _
  · rwa [← name]

theorem ofAdditions_sorted (additions : List Addition) :
    ∀ endpoint ∈ (ofAdditions additions).endpoints, endpoint.capabilities.Pairwise (· < ·) := by
  rw [ofAdditions_endpoints]
  exact foldl_sorted _

theorem foldl_types_named (indexed : catalog.Indexed)
    (named : ∀ type ∈ catalog.types, type.kind ≠ "") (items : List (Surface × ResourceEntry)) :
    ∀ type ∈ (items.foldl addEntry catalog).types, type.kind ≠ "" := by
  induction items generalizing catalog with
  | nil => exact named
  | cons item rest ih =>
    refine ih (addEntry_indexed indexed item) fun type member => ?_
    rcases (mem_addEntry_types indexed).mp member with old | ⟨-, hasKind, rfl⟩
    · exact named type old
    · exact hasKind

/-- A catalog whose lists and indices fit each other. -/
structure IsSound (catalog : Catalog) : Prop where
  /-- A key has a position exactly if an endpoint of that key stands there. -/
  endpointIndex : ∀ key position, catalog.endpointIndex.lookup key = some position ↔
    ∃ endpoint, catalog.endpoints[position]? = some endpoint ∧ endpoint.key = key
  typeIndex : ∀ key position, catalog.typeIndex.lookup key = some position ↔
    ∃ type, catalog.types[position]? = some type ∧ type.key = key
  endpoints_nodup : (catalog.endpoints.map Endpoint.key).Nodup
  types_nodup : (catalog.types.map TypeDescriptor.key).Nodup
  groups_nodup : (catalog.groups.map fun group => (group.addressPrefix, group.groupName)).Nodup
  served : ∀ endpoint ∈ catalog.endpoints,
    endpoint.verbs ≠ [] ∧ '/' ∉ endpoint.pluralName.toList
  named : ∀ type ∈ catalog.types, type.kind ≠ ""
  /-- What a version of a group resolves to is found by going through the endpoints. -/
  resolve : ∀ requested group version kind,
    VersionSelector.ofRequest requested = .grouped group version →
    catalog.resolve requested kind = catalog.endpoints.find? (·.key =
      ⟨Surface.groupedPrefix, some group, version, catalog.pluralFor kind (some group) version⟩)
  resolveType : ∀ requested group version kind,
    VersionSelector.ofRequest requested = .grouped group version →
    catalog.resolveType requested kind = catalog.types.find? (·.key = ⟨some group, version, kind⟩)

theorem ofAdditions_isSound (additions : List Addition) : (ofAdditions additions).IsSound := by
  have indexed := ofAdditions_indexed additions
  exact {
    endpointIndex := fun key position => (indexed.endpoints key position).trans Option.map_eq_some_iff
    typeIndex := fun key position => (indexed.types key position).trans Option.map_eq_some_iff
    endpoints_nodup := indexed.endpoints.nodup
    types_nodup := indexed.types.nodup
    groups_nodup := ofAdditions_groups_nodup additions
    served := ofAdditions_served additions
    named := by
      rw [ofAdditions_eq]
      exact foldl_types_named indexed_empty (fun type member => by cases member) _
    resolve := by
      intro requested group version kind selected
      simp only [Catalog.resolve, selected, endpointAt?_eq_find? indexed]
    resolveType := by
      intro requested group version kind selected
      simp only [Catalog.resolveType, selected, typeAt?, indexed.types.lookup_bind] }

/-- However a catalog is built, its lists and indices fit, and neither building it nor asking it
reaches for a position that its lists do not have. -/
theorem ofAdditions_consistent (additions : List Addition) :
    (ofAdditions additions).IsSound ∧ ofAdditions? additions = some (ofAdditions additions) ∧
    ∀ version kind,
      (ofAdditions additions).resolve? version kind
        = some ((ofAdditions additions).resolve version kind) ∧
      (ofAdditions additions).resolveType? version kind
        = some ((ofAdditions additions).resolveType version kind) := by
  have indexed := ofAdditions_indexed additions
  refine ⟨ofAdditions_isSound additions, ofAdditions?_eq_some additions, fun version kind => ?_⟩
  exact ⟨resolve?_eq_some indexed version kind, resolveType?_eq_some indexed version kind⟩

end Catalog

end ClusterClient
