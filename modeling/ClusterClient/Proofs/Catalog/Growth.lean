import ClusterClient.Proofs.Catalog.History
import ClusterClient.Proofs.Catalog.Types

namespace ClusterClient

namespace Catalog

theorem mem_mergeVerbs {known new : List String} {verb : String} :
    verb ∈ mergeVerbs known new ↔ verb ∈ known ∨ verb ∈ new := by
  rw [mergeVerbs_eq, List.mem_append, List.mem_eraseDups, List.mem_filter]
  by_cases old : verb ∈ known <;> simp [old]

theorem mergeVerbs_of_subset {known new : List String} (old : new ⊆ known) :
    mergeVerbs known new = known := by
  have nothing : new.filter (· ∉ known) = [] :=
    List.filter_eq_nil_iff.mpr fun verb member => by simpa using old member
  rw [mergeVerbs_eq, nothing, List.eraseDups_nil, List.append_nil]

theorem insertOnce_of_mem {text : String} {list : List String} (sorted : list.Pairwise (· < ·))
    (member : text ∈ list) : insertOnce text list = list := by
  induction list with
  | nil => cases member
  | cons first rest ih =>
    obtain ⟨least, ordered⟩ := List.pairwise_cons.mp sorted
    unfold insertOnce
    rcases List.mem_cons.mp member with rfl | later
    · rw [if_pos rfl]
    · have before := least text later
      have different : text ≠ first := fun same => String.lt_irrefl text (same ▸ before)
      rw [if_neg different, if_neg (String.lt_asymm before), ih ordered later]

end Catalog

theorem Endpoint.verbs_subset_afterEntry (item : Surface × ResourceEntry) (endpoint : Endpoint) :
    endpoint.verbs ⊆ (endpoint.afterEntry item).verbs := by
  intro verb member
  rw [Catalog.afterEntry_verbs]
  exact Catalog.mem_mergeVerbs.mpr (Or.inl member)

theorem Endpoint.entry_verbs_subset_afterEntry {item : Surface × ResourceEntry}
    {endpoint : Endpoint} (served : item.2.isServed) (same : endpoint.key = item.1.entryKey item.2) :
    item.2.verbs ⊆ (endpoint.afterEntry item).verbs := by
  intro verb member
  rw [Catalog.afterEntry_verbs]
  refine Catalog.mem_mergeVerbs.mpr (Or.inr ?_)
  simpa [Catalog.servedEntries, served, same] using member

namespace Catalog

variable {catalog : Catalog} {item : Surface × ResourceEntry}

theorem mem_merged {surface : Surface} {listing : ResourceListing} :
    item ∈ listing.merged surface ↔ item.1 = surface ∧ item.2 ∈ listing.resources := by
  have parted : item.2 ∈ listing.resources.filter (·.suffix?.isNone)
      ++ listing.resources.filter (·.suffix?.isSome) ↔ item.2 ∈ listing.resources := by
    rw [List.mem_append, List.mem_filter, List.mem_filter]
    cases item.2.suffix? <;> simp
  rw [← parted, ResourceListing.merged, List.mem_map]
  constructor
  · rintro ⟨entry, member, rfl⟩
    exact ⟨rfl, member⟩
  · rintro ⟨rfl, member⟩
    exact ⟨item.2, member, rfl⟩

theorem merged_served (surface : Surface) (listing : ResourceListing) :
    (listing.merged surface).filter (·.2.isServed)
      = (listing.resources.filter (·.isServed)).map (surface, ·) := by
  have told := served_eq_filter [.listing surface listing]
  simp only [served, Addition.served, List.flatMap_singleton, Addition.merged] at told
  exact told.symm

theorem mem_keys_addEntry (indexed : catalog.Indexed) {key : EndpointKey} :
    key ∈ (catalog.addEntry item).endpoints.map Endpoint.key ↔
      key ∈ catalog.endpoints.map Endpoint.key ∨
        item.2.isServed ∧ item.1.entryKey item.2 = key := by
  have kept : (catalog.endpoints.map (Endpoint.afterEntry item)).map Endpoint.key
      = catalog.endpoints.map Endpoint.key := by simp [Function.comp_def]
  rw [addEntry_endpoints indexed, List.map_append, List.mem_append, kept]
  by_cases served : item.2.isServed
  · have listed : (listedEndpoint item.1 item.2).key = item.1.entryKey item.2 :=
      listedEndpoint_key item.1 (item.2.isServed_iff.mp served).1
    by_cases present : item.1.entryKey item.2 ∈ catalog.endpoints.map Endpoint.key
    · rw [if_neg fun fresh => fresh.2 present, List.map_nil]
      constructor
      · rintro (old | new)
        · exact Or.inl old
        · cases new
      · rintro (old | ⟨-, rfl⟩)
        · exact Or.inl old
        · exact Or.inl present
    · rw [if_pos ⟨served, present⟩, List.map_singleton, List.mem_singleton, listed]
      exact or_congr_right ⟨fun same => ⟨served, same.symm⟩, fun found => found.2.symm⟩
  · simp [served]

theorem mem_keys_foldl (indexed : catalog.Indexed) (items : List (Surface × ResourceEntry))
    {key : EndpointKey} :
    key ∈ (items.foldl addEntry catalog).endpoints.map Endpoint.key ↔
      key ∈ catalog.endpoints.map Endpoint.key ∨
        ∃ item ∈ items, item.2.isServed ∧ item.1.entryKey item.2 = key := by
  induction items generalizing catalog with
  | nil => simp
  | cons item rest ih =>
    rw [List.foldl_cons, ih (addEntry_indexed indexed item), mem_keys_addEntry indexed,
      List.exists_mem_cons_iff, or_assoc]

theorem Holds.foldl {key : EndpointKey} {suffix : String} (holds : catalog.Holds key suffix)
    (indexed : catalog.Indexed) (items : List (Surface × ResourceEntry)) :
    (items.foldl addEntry catalog).Holds key suffix := by
  induction items generalizing catalog with
  | nil => exact holds
  | cons item rest ih =>
    exact ih ((addEntry_holds_iff indexed item key suffix).mpr (Or.inl holds))
      (addEntry_indexed indexed item)

theorem foldl_addEntry_sorted (indexed : catalog.Indexed)
    (sorted : ∀ endpoint ∈ catalog.endpoints, endpoint.capabilities.Pairwise (· < ·))
    (items : List (Surface × ResourceEntry)) :
    ∀ endpoint ∈ (items.foldl addEntry catalog).endpoints,
      endpoint.capabilities.Pairwise (· < ·) := by
  induction items generalizing catalog with
  | nil => exact sorted
  | cons item rest ih =>
    exact ih (addEntry_indexed indexed item) (addEntry_sorted indexed sorted item)

/-- A catalog has the type and the collection name that an entry tells, and all of the entry's verbs
at its endpoint. Nothing is said of sub-resources. -/
structure Knows (catalog : Catalog) (item : Surface × ResourceEntry) : Prop where
  type : item.2.kind ≠ "" →
    (declaredType item.1 item.2).key ∈ catalog.types.map TypeDescriptor.key
  plural : item.2.isServed → (catalog.plurals.lookup (item.1.kindKey item.2)).isSome
  verbs : item.2.isServed → ∃ endpoint ∈ catalog.endpoints,
    endpoint.key = item.1.entryKey item.2 ∧ item.2.verbs ⊆ endpoint.verbs

/-- An entry is known once it is merged. -/
theorem addEntry_knows (indexed : catalog.Indexed) (item : Surface × ResourceEntry) :
    (catalog.addEntry item).Knows item where
  type named := (mem_keys_addEntry_types indexed item).mpr (Or.inr ⟨named, rfl⟩)
  plural served := by
    rw [addEntry_lookup_plurals, if_pos ⟨served, rfl⟩, Option.isSome_or, Option.isSome_some,
      Bool.or_true]
  verbs served := by
    rw [addEntry_endpoints indexed]
    by_cases present : item.1.entryKey item.2 ∈ catalog.endpoints.map Endpoint.key
    · obtain ⟨known, old, same⟩ := List.mem_map.mp present
      refine ⟨known.afterEntry item, List.mem_append_left _ (List.mem_map_of_mem old), ?_, ?_⟩
      · rw [Endpoint.afterEntry_key, same]
      · exact Endpoint.entry_verbs_subset_afterEntry served same
    · rw [if_pos ⟨served, present⟩]
      refine ⟨listedEndpoint item.1 item.2, List.mem_append_right _ List.mem_cons_self, ?_, ?_⟩
      · exact listedEndpoint_key item.1 (item.2.isServed_iff.mp served).1
      · exact List.Subset.refl _

theorem Knows.addEntry (known : catalog.Knows item) (indexed : catalog.Indexed)
    (other : Surface × ResourceEntry) : (catalog.addEntry other).Knows item where
  type named := (mem_keys_addEntry_types indexed other).mpr (Or.inl (known.type named))
  plural served := by
    rw [addEntry_lookup_plurals, Option.isSome_or, known.plural served, Bool.true_or]
  verbs served := by
    obtain ⟨endpoint, member, same, verbs⟩ := known.verbs served
    rw [addEntry_endpoints indexed]
    refine ⟨endpoint.afterEntry other, List.mem_append_left _ (List.mem_map_of_mem member), ?_, ?_⟩
    · rw [Endpoint.afterEntry_key, same]
    · exact List.Subset.trans verbs (endpoint.verbs_subset_afterEntry other)

theorem Knows.foldl (known : catalog.Knows item) (indexed : catalog.Indexed)
    (items : List (Surface × ResourceEntry)) : (items.foldl Catalog.addEntry catalog).Knows item := by
  induction items generalizing catalog with
  | nil => exact known
  | cons other rest ih => exact ih (known.addEntry indexed other) (addEntry_indexed indexed other)

theorem foldl_knows (indexed : catalog.Indexed) {items : List (Surface × ResourceEntry)}
    (member : item ∈ items) : (items.foldl addEntry catalog).Knows item := by
  induction items generalizing catalog with
  | nil => cases member
  | cons first rest ih =>
    have next := addEntry_indexed indexed first
    rcases List.mem_cons.mp member with rfl | later
    · exact (addEntry_knows indexed item).foldl next rest
    · exact ih next later

/-- A catalog has an entry's sub-resource at the entry's endpoint, if it has that endpoint. -/
def Notes (catalog : Catalog) (item : Surface × ResourceEntry) : Prop :=
  ∀ suffix, item.2.suffix? = some suffix →
    item.1.entryKey item.2 ∈ catalog.endpoints.map Endpoint.key →
    catalog.Holds (item.1.entryKey item.2) suffix

/-- A sub-resource stays noted until its endpoint is listed anew. -/
theorem Notes.foldl (noted : catalog.Notes item) (indexed : catalog.Indexed)
    {items : List (Surface × ResourceEntry)}
    (listed : ∀ other ∈ items, other.2.isServed → other.1.entryKey other.2 = item.1.entryKey item.2 →
      item.1.entryKey item.2 ∈ catalog.endpoints.map Endpoint.key) :
    (items.foldl addEntry catalog).Notes item := by
  intro suffix told present
  -- An endpoint that is there in the end was there at the start.
  refine Holds.foldl (noted suffix told ?_) indexed items
  rcases (mem_keys_foldl indexed items).mp present with old | ⟨other, member, served, same⟩
  · exact old
  · exact listed other member served same

end Catalog

end ClusterClient
