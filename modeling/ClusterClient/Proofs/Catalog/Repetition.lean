import ClusterClient.Proofs.Catalog.Growth
import ClusterClient.Proofs.Catalog.Invariant

namespace ClusterClient

theorem forall₂_trans {α : Type} {related : α → α → Prop} {first second third : List α}
    (trans : ∀ a b c, related a b → related b c → related a c)
    (earlier : List.Forall₂ related first second) (later : List.Forall₂ related second third) :
    List.Forall₂ related first third := by
  induction earlier generalizing third with
  | nil => exact later
  | cons head _ ih =>
    cases later with
    | cons head' tail' => exact .cons (trans _ _ _ head head') (ih tail')

/-- An endpoint is another, with more sub-resources perhaps. -/
def Endpoint.Enriches (now known : Endpoint) : Prop :=
  now = { known with capabilities := now.capabilities } ∧ known.capabilities ⊆ now.capabilities

theorem Endpoint.Enriches.trans {first second third : Endpoint} (later : third.Enriches second)
    (earlier : second.Enriches first) : third.Enriches first := by
  refine ⟨?_, List.Subset.trans earlier.2 later.2⟩
  rw [later.1, earlier.1]

namespace Catalog

variable {catalog : Catalog} {item : Surface × ResourceEntry}

theorem addType_of_knows (indexed : catalog.Indexed) (known : catalog.Knows item) :
    addType item.1 catalog item.2 = catalog := by
  unfold addType
  split
  · rfl
  · next named => exact enterType_of_known indexed (known.type named)

theorem learnPlural_of_isSome {key : TypeKey} (known : (catalog.plurals.lookup key).isSome)
    (plural : String) : catalog.learnPlural key plural = catalog := by
  obtain ⟨learned, found⟩ := Option.isSome_iff_exists.mp known
  simp only [learnPlural, found]

theorem noteCapability_eq (catalog : Catalog) (key : EndpointKey) (capability : String) :
    catalog.noteCapability key capability =
      { catalog with endpoints := (catalog.noteCapability key capability).endpoints } := by
  unfold noteCapability
  split <;> rfl

theorem enterEndpoint_eq {endpoint : Endpoint}
    (known : (catalog.endpointIndex.lookup endpoint.key).isSome) :
    catalog.enterEndpoint endpoint =
      { catalog with endpoints := (catalog.enterEndpoint endpoint).endpoints } := by
  obtain ⟨position, found⟩ := Option.isSome_iff_exists.mp known
  simp only [enterEndpoint, found]

/-- A known entry touches nothing but the endpoints. -/
theorem addEntry_eq_of_knows (indexed : catalog.Indexed) (known : catalog.Knows item) :
    catalog.addEntry item = { catalog with endpoints := (catalog.addEntry item).endpoints } := by
  have typed := addType_of_knows indexed known
  cases suffix : item.2.suffix? with
  | some text =>
    simp only [addEntry, addSubresource, suffix, Option.isNone_some, Bool.false_eq_true, if_false,
      typed]
    exact noteCapability_eq catalog _ _
  | none =>
    by_cases idle : item.2.verbs = []
    · simp only [addEntry, addCollection, suffix, idle, Option.isNone_none, if_true, typed]
    · have served : item.2.isServed := item.2.isServed_iff.mpr ⟨suffix, idle⟩
      obtain ⟨endpoint, member, same, -⟩ := known.verbs served
      have present : (listedEndpoint item.1 item.2).key ∈ catalog.endpoints.map Endpoint.key := by
        rw [listedEndpoint_key item.1 suffix, ← same]
        exact List.mem_map_of_mem member
      have found : (catalog.endpointIndex.lookup (listedEndpoint item.1 item.2).key).isSome := by
        rw [Option.isSome_iff_ne_none]
        exact fun fresh => (indexed.endpoints.lookup_eq_none_iff _).mp fresh present
      have learned := learnPlural_of_isSome (known.plural served) item.2.name
      rw [Surface.kindKey] at learned
      simp only [addEntry, addCollection, suffix, idle, Option.isNone_none, if_true, if_false, typed,
        learned]
      exact enterEndpoint_eq found

theorem addEntry_endpoints_of_knows (indexed : catalog.Indexed) (known : catalog.Knows item) :
    (catalog.addEntry item).endpoints = catalog.endpoints.map (Endpoint.afterEntry item) := by
  rw [addEntry_endpoints indexed, if_neg ?_, List.append_nil]
  rintro ⟨served, fresh⟩
  obtain ⟨endpoint, member, same, -⟩ := known.verbs served
  exact fresh (same ▸ List.mem_map_of_mem member)

/-- A known entry only adds its sub-resource. -/
theorem afterEntry_of_knows (indexed : catalog.Indexed) (known : catalog.Knows item)
    {endpoint : Endpoint} (member : endpoint ∈ catalog.endpoints) :
    endpoint.afterEntry item =
      { endpoint with capabilities := (endpoint.afterEntry item).capabilities } := by
  unfold Endpoint.afterEntry
  split
  · next same =>
    split
    · next collection =>
      by_cases idle : item.2.verbs = []
      · rw [idle]
        rfl
      · obtain ⟨listed, there, key, verbs⟩ :=
          known.verbs (item.2.isServed_iff.mpr ⟨collection, idle⟩)
        have one : listed = endpoint :=
          indexed.endpoints.eq_of_key_eq there member (key.trans same.symm)
        rw [mergeVerbs_of_subset (one ▸ verbs)]
    · rfl
  · rfl

/-- One catalog is another, with more sub-resources perhaps. -/
structure Enriches (after before : Catalog) : Prop where
  /-- Groups, types, collection names and positions are the same. -/
  rest : after = { before with endpoints := after.endpoints }
  endpoints : List.Forall₂ Endpoint.Enriches after.endpoints before.endpoints

namespace Enriches

theorem refl (catalog : Catalog) : catalog.Enriches catalog :=
  ⟨rfl, List.forall₂_same.mpr fun _ _ => ⟨rfl, List.Subset.refl _⟩⟩

theorem trans {first second third : Catalog} (later : third.Enriches second)
    (earlier : second.Enriches first) : third.Enriches first where
  rest := by rw [later.rest, earlier.rest]
  endpoints := forall₂_trans (fun _ _ _ now before => now.trans before) later.endpoints
    earlier.endpoints

end Enriches

theorem mem_capabilities_afterEntry {endpoint : Endpoint} {suffix : String}
    (member : suffix ∈ endpoint.capabilities) :
    suffix ∈ (endpoint.afterEntry item).capabilities :=
  mem_afterEntry_capabilities.mpr (Or.inl member)

theorem addEntry_enriches (indexed : catalog.Indexed) (known : catalog.Knows item) :
    (catalog.addEntry item).Enriches catalog where
  rest := addEntry_eq_of_knows indexed known
  endpoints := by
    rw [addEntry_endpoints_of_knows indexed known, List.forall₂_map_left_iff, List.forall₂_same]
    intro endpoint member
    exact ⟨afterEntry_of_knows indexed known member, fun suffix => mem_capabilities_afterEntry⟩

theorem foldl_enriches (indexed : catalog.Indexed) {items : List (Surface × ResourceEntry)}
    (known : ∀ item ∈ items, catalog.Knows item) :
    (items.foldl addEntry catalog).Enriches catalog := by
  induction items generalizing catalog with
  | nil => exact .refl catalog
  | cons item rest ih =>
    obtain ⟨first, others⟩ := List.forall_mem_cons.mp known
    refine Enriches.trans (ih (addEntry_indexed indexed item) fun other member => ?_)
      (addEntry_enriches indexed first)
    exact (others other member).addEntry indexed item

/-- An entry that is known and noted changes nothing. -/
theorem addEntry_eq_self (indexed : catalog.Indexed)
    (sorted : ∀ endpoint ∈ catalog.endpoints, endpoint.capabilities.Pairwise (· < ·))
    (known : catalog.Knows item) (noted : catalog.Notes item) : catalog.addEntry item = catalog := by
  rw [addEntry_eq_of_knows indexed known, addEntry_endpoints_of_knows indexed known]
  have same : catalog.endpoints.map (Endpoint.afterEntry item) = catalog.endpoints := by
    refine (List.map_congr_left fun endpoint member => ?_).trans (List.map_id _)
    rw [afterEntry_of_knows indexed known member, Endpoint.afterEntry]
    split
    · next atKey =>
      split
      · rfl
      · next suffix told =>
        have present : item.1.entryKey item.2 ∈ catalog.endpoints.map Endpoint.key := by
          rw [← atKey]
          exact List.mem_map_of_mem member
        obtain ⟨holder, there, key, inside⟩ := noted suffix told present
        have one : holder = endpoint :=
          indexed.endpoints.eq_of_key_eq there member (key.trans atKey.symm)
        rw [insertOnce_of_mem (sorted endpoint member) (one ▸ inside), id_eq]
    · rfl
  rw [same]

theorem foldl_eq_self (indexed : catalog.Indexed)
    (sorted : ∀ endpoint ∈ catalog.endpoints, endpoint.capabilities.Pairwise (· < ·))
    {items : List (Surface × ResourceEntry)}
    (settled : ∀ item ∈ items, catalog.Knows item ∧ catalog.Notes item) :
    items.foldl addEntry catalog = catalog := by
  induction items with
  | nil => rfl
  | cons item rest ih =>
    obtain ⟨⟨known, noted⟩, others⟩ := List.forall_mem_cons.mp settled
    rw [List.foldl_cons, addEntry_eq_self indexed sorted known noted, ih others]

/-- Merge the lists of some surfaces, one after the other. -/
def addListings (catalog : Catalog) (listings : List (Surface × ResourceListing)) : Catalog :=
  listings.foldl (fun catalog told => catalog.addListing told.1 told.2) catalog

/-- The entries of some lists in the order in which they are merged. -/
def entries (listings : List (Surface × ResourceListing)) : List (Surface × ResourceEntry) :=
  listings.flatMap fun told => told.2.merged told.1

theorem addListings_eq_foldl (catalog : Catalog) (listings : List (Surface × ResourceListing)) :
    catalog.addListings listings = (entries listings).foldl addEntry catalog := by
  rw [addListings, entries, List.foldl_flatMap]
  exact List.foldl_ext _ _ _ fun catalog told _ => catalog.addListing_eq_foldl told.1 told.2

theorem addListing_notes (indexed : catalog.Indexed) {surface : Surface}
    {listing : ResourceListing} (member : item ∈ listing.merged surface) :
    (catalog.addListing surface listing).Notes item := by
  obtain ⟨rfl, inside⟩ := mem_merged.mp member
  intro suffix told present
  exact (addListing_holds_iff indexed item.1 listing _ suffix).mpr
    (Or.inr ⟨present, item.2, inside, rfl, told⟩)

/-- Lists of distinct surfaces leave every sub-resource noted. -/
theorem addListings_notes (indexed : catalog.Indexed) {listings : List (Surface × ResourceListing)}
    (distinct : (listings.map (·.1)).Nodup) (member : item ∈ entries listings) :
    (catalog.addListings listings).Notes item := by
  induction listings generalizing catalog with
  | nil => cases member
  | cons told rest ih =>
    have next : (catalog.addListing told.1 told.2).Indexed := by
      rw [addListing_eq_foldl]
      exact foldl_addEntry_indexed indexed _
    obtain ⟨apart, others⟩ := List.nodup_cons.mp distinct
    rw [entries, List.flatMap_cons, List.mem_append] at member
    rcases member with first | later
    · have noted := addListing_notes indexed first
      have surface := (mem_merged.mp first).1
      change ((catalog.addListing told.1 told.2).addListings rest).Notes item
      rw [addListings_eq_foldl]
      -- The other lists are of other surfaces and enter no endpoint of this one.
      refine noted.foldl next fun other inside _ same => absurd ?_ apart
      obtain ⟨listing, listed, inListing⟩ := List.mem_flatMap.mp inside
      have place : other.1 = item.1 := by
        obtain ⟨addressPrefix, groupName, version, -⟩ := (EndpointKey.mk.injEq ..).mp same
        exact (Surface.mk.injEq ..).mpr ⟨addressPrefix, groupName, version⟩
      have from_rest := (mem_merged.mp inListing).1
      exact List.mem_map.mpr ⟨listing, listed, from_rest.symm.trans (place.trans surface)⟩
    · exact ih next others later

/-- Merging what is known leaves every sub-resource noted. -/
theorem foldl_notes (indexed : catalog.Indexed) {items : List (Surface × ResourceEntry)}
    (known : ∀ item ∈ items, catalog.Knows item) (member : item ∈ items) :
    (items.foldl addEntry catalog).Notes item := by
  induction items generalizing catalog with
  | nil => cases member
  | cons first rest ih =>
    have next := addEntry_indexed indexed first
    obtain ⟨knownFirst, knownRest⟩ := List.forall_mem_cons.mp known
    have stillKnown : ∀ other ∈ rest, (catalog.addEntry first).Knows other :=
      fun other inside => (knownRest other inside).addEntry indexed first
    rcases List.mem_cons.mp member with rfl | later
    · have noted : (catalog.addEntry item).Notes item := by
        intro suffix told present
        have unserved : ¬ item.2.isServed := by simp [item.2.isServed_iff, told]
        rw [addEntry_keys_of_not_served indexed unserved] at present
        exact (addEntry_holds_iff indexed item _ suffix).mpr (Or.inr ⟨present, rfl, told⟩)
      -- Every endpoint of a later entry is known already, so none comes too late for its sub-resource.
      refine noted.foldl next fun other inside served same => ?_
      obtain ⟨endpoint, there, key, -⟩ := (stillKnown other inside).verbs served
      exact (key.trans same) ▸ List.mem_map_of_mem there
    · exact ih next stillKnown later

/-- Lists that were merged once change nothing any more if their surfaces are distinct. Any lists
only add sub-resources the second time, and nothing the third time. -/
theorem addListings_again (prior : List Addition) (listings : List (Surface × ResourceListing)) :
    let once := (ofAdditions prior).addListings listings
    let twice := once.addListings listings
    ((listings.map (·.1)).Nodup →
      ∀ more, (∀ told ∈ more, told ∈ listings) → once.addListings more = once) ∧
    twice.Enriches once ∧ twice.addListings listings = twice := by
  intro once twice
  have start := ofAdditions_indexed prior
  have onceEq : once = (entries listings).foldl addEntry (ofAdditions prior) :=
    addListings_eq_foldl _ _
  have twiceEq : twice = (entries listings).foldl addEntry once := addListings_eq_foldl _ _
  have indexed : once.Indexed := onceEq ▸ foldl_addEntry_indexed start _
  have sorted := onceEq ▸ foldl_addEntry_sorted start (ofAdditions_sorted prior) (entries listings)
  have known : ∀ item ∈ entries listings, once.Knows item := by
    intro item member
    rw [onceEq]
    exact foldl_knows start member
  refine ⟨fun distinct more inside => ?_, ?_, ?_⟩
  · rw [addListings_eq_foldl]
    refine foldl_eq_self indexed sorted fun item member => ?_
    obtain ⟨told, again, inTold⟩ := List.mem_flatMap.mp member
    have before : item ∈ entries listings := List.mem_flatMap.mpr ⟨told, inside told again, inTold⟩
    exact ⟨known item before, addListings_notes start distinct before⟩
  · rw [twiceEq]
    exact foldl_enriches indexed known
  · rw [addListings_eq_foldl, twiceEq]
    refine foldl_eq_self (foldl_addEntry_indexed indexed _)
      (foldl_addEntry_sorted indexed sorted _) fun item member => ?_
    exact ⟨(known item member).foldl indexed _, foldl_notes indexed known member⟩

/-- A core version whose sub-resource is listed before its collection, and a group. -/
def podLists : List (Surface × ResourceListing) := [
  (⟨"api", none, "v1"⟩, { resources := [
    { name := "pods/log", kind := "Pod", verbs := ["get"] },
    { name := "pods", kind := "Pod", verbs := ["get", "list"] }] }),
  (⟨"apis", some "apps", "v1"⟩,
    { resources := [{ name := "deployments", kind := "Deployment", verbs := ["get"] }] })]

/-- The same core version in two lists, the sub-resource in the first. -/
def splitPodLists : List (Surface × ResourceListing) := [
  (⟨"api", none, "v1"⟩, { resources := [{ name := "pods/log", kind := "Pod", verbs := ["get"] }] }),
  (⟨"api", none, "v1"⟩, { resources := [{ name := "pods", kind := "Pod", verbs := ["get"] }] })]

/-- The collection of a sub-resource may come too late for it the first time, but not the second. -/
theorem addListings_again_pods :
    let once := (ofAdditions []).addListings podLists
    let split := (ofAdditions []).addListings splitPodLists
    (podLists.map (·.1)).Nodup ∧ once.addListings (podLists.reverse ++ podLists) = once ∧
    split.endpoints.map (·.capabilities) = [[]] ∧
    (split.addListings splitPodLists).endpoints.map (·.capabilities) = [["log"]] ∧
    (split.addListings splitPodLists).Enriches split ∧
    (split.addListings splitPodLists).addListings splitPodLists
      = split.addListings splitPodLists := by
  have distinct : (podLists.map (·.1)).Nodup := by decide
  refine ⟨distinct, (addListings_again [] podLists).1 distinct _ ?_, by decide, by decide,
    (addListings_again [] splitPodLists).2⟩
  intro told member
  simpa using member

end Catalog

end ClusterClient
