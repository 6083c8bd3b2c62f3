import ClusterClient.Proofs.Catalog.Merge
import Mathlib.Data.List.Induction

namespace ClusterClient

theorem eraseDups_append_singleton {α : Type} [DecidableEq α] (list : List α) (last : α) :
    (list ++ [last]).eraseDups = list.eraseDups ++ if last ∈ list then [] else [last] := by
  rw [List.eraseDups_append]
  by_cases again : last ∈ list <;> simp [List.removeAll, again, List.eraseDups_cons]

namespace Catalog

theorem mergeVerbs_append (known first second : List String) :
    mergeVerbs known (first ++ second) = mergeVerbs (mergeVerbs known first) second :=
  List.foldl_append

/-- Merging keeps what is known and appends what is new, each verb once. -/
theorem mergeVerbs_eq (known new : List String) :
    mergeVerbs known new = known ++ (new.filter (· ∉ known)).eraseDups := by
  induction new generalizing known with
  | nil => simp [mergeVerbs]
  | cons verb rest ih =>
    have step : mergeVerbs known (verb :: rest) =
        mergeVerbs (if known.contains verb then known else known ++ [verb]) rest := rfl
    by_cases old : verb ∈ known
    · rw [step, if_pos (List.contains_iff_mem.mpr old), ih,
        List.filter_cons_of_neg (by simpa using old)]
    · rw [step, if_neg (by simpa using old), ih, List.filter_cons_of_pos (by simpa using old),
        List.eraseDups_cons, List.append_assoc, List.filter_filter]
      refine congrArg (fun rest => known ++ verb :: List.eraseDups rest) ?_
      refine List.filter_congr fun other _ => ?_
      by_cases same : other = verb <;> simp [same, old]

theorem mem_insertOnce {text other : String} {list : List String} :
    other ∈ insertOnce text list ↔ other = text ∨ other ∈ list := by
  induction list with
  | nil => simp [insertOnce]
  | cons first rest ih =>
    unfold insertOnce
    split
    · next same => simp [same]
    · split
      · simp
      · simp only [List.mem_cons, ih]
        tauto

theorem insertOnce_sorted {text : String} {list : List String} (sorted : list.Pairwise (· < ·)) :
    (insertOnce text list).Pairwise (· < ·) := by
  induction list with
  | nil => simp [insertOnce]
  | cons first rest ih =>
    obtain ⟨least, ordered⟩ := List.pairwise_cons.mp sorted
    unfold insertOnce
    split
    · exact sorted
    · next different =>
      split
      · next before =>
        refine List.pairwise_cons.mpr ⟨?_, sorted⟩
        intro other member
        rcases List.mem_cons.mp member with rfl | later
        · exact before
        · exact String.lt_trans before (least other later)
      · next behind =>
        refine List.pairwise_cons.mpr ⟨?_, ih ordered⟩
        intro other member
        rcases mem_insertOnce.mp member with rfl | later
        · exact String.not_le.mp fun reverse =>
            different (String.le_antisymm reverse (String.not_lt.mp behind))
        · exact least other later

/-- The endpoints of a catalog stand under the keys of the served collections, each once, in the
order in which they first come. -/
theorem foldl_keys (items : List (Surface × ResourceEntry)) :
    (items.foldl addEntry {}).endpoints.map Endpoint.key
      = ((items.filter (·.2.isServed)).map fun item => item.1.entryKey item.2).eraseDups := by
  induction items using List.reverseRecOn with
  | nil => rfl
  | append_singleton items item ih =>
    have indexed := foldl_addEntry_indexed indexed_empty items
    rw [List.foldl_append, List.foldl_cons, List.foldl_nil, addEntry_endpoints indexed,
      List.map_append, List.map_map, List.filter_append, List.map_append]
    have kept : Endpoint.key ∘ Endpoint.afterEntry item = Endpoint.key :=
      funext fun known => by simp
    rw [kept]
    by_cases served : item.2.isServed
    · have collection := (item.2.isServed_iff.mp served).1
      have lone : [item].filter (·.2.isServed) = [item] := List.filter_cons_of_pos served
      rw [lone, List.map_singleton, eraseDups_append_singleton, ih]
      simp only [served, true_and, List.mem_eraseDups, ite_not]
      split
      · rfl
      · rw [List.map_singleton, listedEndpoint_key _ collection]
    · simp [served, ih]

/-- The entries for a collection that are served, in the order in which they come. -/
def servedEntries (key : EndpointKey) (items : List (Surface × ResourceEntry)) :
    List ResourceEntry :=
  (items.filter fun item => item.2.isServed && item.1.entryKey item.2 = key).map (·.2)

theorem servedEntries_append (key : EndpointKey) (first second : List (Surface × ResourceEntry)) :
    servedEntries key (first ++ second) = servedEntries key first ++ servedEntries key second := by
  simp only [servedEntries, List.filter_append, List.map_append]

theorem servedEntries_ne_nil_iff (key : EndpointKey) (items : List (Surface × ResourceEntry)) :
    servedEntries key items ≠ [] ↔ key ∈ (items.foldl addEntry {}).endpoints.map Endpoint.key := by
  rw [foldl_keys, List.mem_eraseDups]
  simp only [servedEntries, ne_eq, List.map_eq_nil_iff, List.filter_eq_nil_iff, List.mem_map,
    List.mem_filter]
  push Not
  simp [and_assoc]

theorem afterEntry_verbs (item : Surface × ResourceEntry) (endpoint : Endpoint) :
    (endpoint.afterEntry item).verbs =
      mergeVerbs endpoint.verbs ((servedEntries endpoint.key [item]).flatMap (·.verbs)) := by
  unfold Endpoint.afterEntry
  by_cases same : endpoint.key = item.1.entryKey item.2
  · rw [if_pos same]
    cases suffix : item.2.suffix? with
    | some text =>
      have unserved : ¬ item.2.isServed := by simp [item.2.isServed_iff, suffix]
      simp [servedEntries, unserved, mergeVerbs]
    | none =>
      by_cases idle : item.2.verbs = []
      · have unserved : ¬ item.2.isServed := by simp [item.2.isServed_iff, idle]
        simp [servedEntries, unserved, idle]
      · have served : item.2.isServed := item.2.isServed_iff.mpr ⟨suffix, idle⟩
        simp [servedEntries, served, same]
  · rw [if_neg same]
    simp [servedEntries, Ne.symm same, mergeVerbs]

/-- An endpoint is what its first entry makes it, with the new verbs of the later ones. -/
theorem foldl_endpoint (items : List (Surface × ResourceEntry)) {endpoint : Endpoint}
    (member : endpoint ∈ (items.foldl addEntry {}).endpoints) :
    ∃ first later, servedEntries endpoint.key items = first :: later ∧
      endpoint.kind = first.kind ∧ endpoint.namespaced = first.namespaced ∧
      endpoint.verbs = mergeVerbs first.verbs (later.flatMap (·.verbs)) := by
  induction items using List.reverseRecOn generalizing endpoint with
  | nil => cases member
  | append_singleton items item ih =>
    have indexed := foldl_addEntry_indexed indexed_empty items
    rw [List.foldl_append, List.foldl_cons, List.foldl_nil, addEntry_endpoints indexed,
      List.mem_append] at member
    rcases member with changed | added
    · obtain ⟨known, old, rfl⟩ := List.mem_map.mp changed
      obtain ⟨first, later, history, kind, namespaced, verbs⟩ := ih old
      refine ⟨first, later ++ servedEntries known.key [item], ?_, ?_, ?_, ?_⟩
      · rw [Endpoint.afterEntry_key, servedEntries_append, history, List.cons_append]
      · rw [Endpoint.afterEntry_kind, kind]
      · rw [Endpoint.afterEntry_namespaced, namespaced]
      · rw [afterEntry_verbs, verbs, List.flatMap_append, mergeVerbs_append]
    · split at added
      · next fresh =>
        rw [List.mem_singleton] at added
        subst added
        obtain ⟨served, absent⟩ := fresh
        have collection := (item.2.isServed_iff.mp served).1
        have nothing : servedEntries (item.1.entryKey item.2) items = [] :=
          not_not.mp (mt (servedEntries_ne_nil_iff _ _).mp absent)
        refine ⟨item.2, [], ?_, rfl, rfl, rfl⟩
        rw [listedEndpoint_key item.1 collection, servedEntries_append, nothing, List.nil_append]
        simp [servedEntries, served]
      · cases added

theorem addEntry_sorted {catalog : Catalog} (indexed : catalog.Indexed)
    (sorted : ∀ endpoint ∈ catalog.endpoints, endpoint.capabilities.Pairwise (· < ·))
    (item : Surface × ResourceEntry) :
    ∀ endpoint ∈ (catalog.addEntry item).endpoints, endpoint.capabilities.Pairwise (· < ·) := by
  intro endpoint member
  rw [addEntry_endpoints indexed] at member
  rcases List.mem_append.mp member with changed | added
  · obtain ⟨known, old, rfl⟩ := List.mem_map.mp changed
    unfold Endpoint.afterEntry
    split
    · split
      · exact sorted known old
      · exact insertOnce_sorted (sorted known old)
    · exact sorted known old
  · split at added
    · rw [List.mem_singleton] at added
      subst added
      exact .nil
    · cases added

/-- Sub-resources stand in byte order, each once. -/
theorem foldl_sorted (items : List (Surface × ResourceEntry)) :
    ∀ endpoint ∈ (items.foldl addEntry {}).endpoints, endpoint.capabilities.Pairwise (· < ·) := by
  induction items using List.reverseRecOn with
  | nil => exact fun endpoint member => by cases member
  | append_singleton items item ih =>
    rw [List.foldl_append]
    exact addEntry_sorted (foldl_addEntry_indexed indexed_empty items) ih item

theorem foldl_lookup_plurals (items : List (Surface × ResourceEntry)) (catalog : Catalog)
    (key : TypeKey) :
    (items.foldl addEntry catalog).plurals.lookup key = (catalog.plurals.lookup key).or
      ((items.find? fun item => item.2.isServed && item.1.kindKey item.2 = key).map
        (·.2.name)) := by
  induction items generalizing catalog with
  | nil => simp
  | cons item rest ih =>
    rw [List.foldl_cons, ih, addEntry_lookup_plurals, Option.or_assoc]
    by_cases told : item.2.isServed ∧ item.1.kindKey item.2 = key
    · simp [told]
    · rw [if_neg told, Option.none_or, List.find?_cons_of_neg (by simpa using told)]

/-- Some endpoint under a key has a sub-resource. -/
def Holds (catalog : Catalog) (key : EndpointKey) (suffix : String) : Prop :=
  ∃ endpoint ∈ catalog.endpoints, endpoint.key = key ∧ suffix ∈ endpoint.capabilities

theorem mem_afterEntry_capabilities {item : Surface × ResourceEntry} {endpoint : Endpoint}
    {suffix : String} :
    suffix ∈ (endpoint.afterEntry item).capabilities ↔ suffix ∈ endpoint.capabilities ∨
      item.1.entryKey item.2 = endpoint.key ∧ item.2.suffix? = some suffix := by
  unfold Endpoint.afterEntry
  by_cases same : endpoint.key = item.1.entryKey item.2
  · rw [if_pos same]
    cases found : item.2.suffix? with
    | none => simp
    | some text =>
      rw [mem_insertOnce]
      simp [same, eq_comm, or_comm]
  · rw [if_neg same]
    simp [Ne.symm same]

/-- An entry tells a sub-resource of an endpoint only if that endpoint is there. -/
theorem addEntry_holds_iff {catalog : Catalog} (indexed : catalog.Indexed)
    (item : Surface × ResourceEntry) (key : EndpointKey) (suffix : String) :
    (catalog.addEntry item).Holds key suffix ↔ catalog.Holds key suffix ∨
      key ∈ catalog.endpoints.map Endpoint.key ∧ item.1.entryKey item.2 = key ∧
        item.2.suffix? = some suffix := by
  unfold Holds
  rw [addEntry_endpoints indexed]
  constructor
  · rintro ⟨endpoint, member, rfl, told⟩
    rcases List.mem_append.mp member with changed | added
    · obtain ⟨known, old, rfl⟩ := List.mem_map.mp changed
      rw [Endpoint.afterEntry_key]
      rcases mem_afterEntry_capabilities.mp told with before | ⟨same, now⟩
      · exact Or.inl ⟨known, old, rfl, before⟩
      · exact Or.inr ⟨List.mem_map_of_mem old, same, now⟩
    · split at added
      · rw [List.mem_singleton] at added
        subst added
        cases told
      · cases added
  · rintro (⟨known, old, rfl, told⟩ | ⟨present, same, now⟩)
    · exact ⟨known.afterEntry item, List.mem_append_left _ (List.mem_map_of_mem old), by simp,
        mem_afterEntry_capabilities.mpr (Or.inl told)⟩
    · obtain ⟨known, old, atKey⟩ := List.mem_map.mp present
      exact ⟨known.afterEntry item, List.mem_append_left _ (List.mem_map_of_mem old), by simp [atKey],
        mem_afterEntry_capabilities.mpr (Or.inr ⟨same.trans atKey.symm, now⟩)⟩

theorem foldl_collections_holds_iff {catalog : Catalog} (indexed : catalog.Indexed)
    {items : List (Surface × ResourceEntry)} (collections : ∀ item ∈ items, item.2.suffix? = none)
    (key : EndpointKey) (suffix : String) :
    (items.foldl addEntry catalog).Holds key suffix ↔ catalog.Holds key suffix := by
  induction items generalizing catalog with
  | nil => rfl
  | cons item rest ih =>
    obtain ⟨plain, others⟩ := List.forall_mem_cons.mp collections
    rw [List.foldl_cons, ih (addEntry_indexed indexed item) others, addEntry_holds_iff indexed]
    simp [plain]

theorem addEntry_keys_of_not_served {catalog : Catalog} (indexed : catalog.Indexed)
    {item : Surface × ResourceEntry} (unserved : ¬ item.2.isServed) :
    (catalog.addEntry item).endpoints.map Endpoint.key = catalog.endpoints.map Endpoint.key := by
  simp [addEntry_endpoints indexed, unserved, Function.comp_def]

theorem foldl_subresources_keys {catalog : Catalog} (indexed : catalog.Indexed)
    {items : List (Surface × ResourceEntry)} (unserved : ∀ item ∈ items, ¬ item.2.isServed) :
    (items.foldl addEntry catalog).endpoints.map Endpoint.key
      = catalog.endpoints.map Endpoint.key := by
  induction items generalizing catalog with
  | nil => rfl
  | cons item rest ih =>
    obtain ⟨first, others⟩ := List.forall_mem_cons.mp unserved
    rw [List.foldl_cons, ih (addEntry_indexed indexed item) others,
      addEntry_keys_of_not_served indexed first]

theorem foldl_subresources_holds_iff {catalog : Catalog} (indexed : catalog.Indexed)
    {items : List (Surface × ResourceEntry)} (unserved : ∀ item ∈ items, ¬ item.2.isServed)
    (key : EndpointKey) (suffix : String) :
    (items.foldl addEntry catalog).Holds key suffix ↔ catalog.Holds key suffix ∨
      key ∈ catalog.endpoints.map Endpoint.key ∧
        ∃ item ∈ items, item.1.entryKey item.2 = key ∧ item.2.suffix? = some suffix := by
  induction items generalizing catalog with
  | nil => simp
  | cons item rest ih =>
    obtain ⟨first, others⟩ := List.forall_mem_cons.mp unserved
    rw [List.foldl_cons, ih (addEntry_indexed indexed item) others, addEntry_holds_iff indexed,
      addEntry_keys_of_not_served indexed first, List.exists_mem_cons_iff]
    tauto

theorem merged_eq (surface : Surface) (listing : ResourceListing) :
    listing.merged surface = (listing.resources.filter (·.suffix?.isNone)).map (surface, ·)
      ++ (listing.resources.filter (·.suffix?.isSome)).map (surface, ·) := List.map_append

/-- A list tells a sub-resource of every endpoint of its surface that is there once the list is
merged, wherever in the list the sub-resource stands. -/
theorem addListing_holds_iff {catalog : Catalog} (indexed : catalog.Indexed) (surface : Surface)
    (listing : ResourceListing) (key : EndpointKey) (suffix : String) :
    (catalog.addListing surface listing).Holds key suffix ↔ catalog.Holds key suffix ∨
      key ∈ (catalog.addListing surface listing).endpoints.map Endpoint.key ∧
        ∃ entry ∈ listing.resources,
          surface.entryKey entry = key ∧ entry.suffix? = some suffix := by
  have collections : ∀ item ∈ (listing.resources.filter (·.suffix?.isNone)).map (surface, ·),
      item.2.suffix? = none := by
    intro item member
    obtain ⟨entry, kept, rfl⟩ := List.mem_map.mp member
    simpa using (List.mem_filter.mp kept).2
  have unserved : ∀ item ∈ (listing.resources.filter (·.suffix?.isSome)).map (surface, ·),
      ¬ item.2.isServed := by
    intro item member
    obtain ⟨entry, kept, rfl⟩ := List.mem_map.mp member
    have suffixed := Option.isSome_iff_ne_none.mp (List.mem_filter.mp kept).2
    exact fun served => suffixed (entry.isServed_iff.mp served).1
  have started := foldl_addEntry_indexed indexed
    ((listing.resources.filter (·.suffix?.isNone)).map (surface, ·))
  rw [addListing_eq_foldl, merged_eq, List.foldl_append,
    foldl_subresources_holds_iff started unserved, foldl_collections_holds_iff indexed collections,
    foldl_subresources_keys started unserved]
  simp only [List.mem_map, List.mem_filter, exists_exists_and_eq_and]
  refine or_congr_right (and_congr_right fun _ => exists_congr fun entry => ?_)
  constructor
  · rintro ⟨⟨member, _⟩, found⟩
    exact ⟨member, found⟩
  · rintro ⟨member, same, told⟩
    exact ⟨⟨member, by rw [told, Option.isSome_some]⟩, same, told⟩

end Catalog

end ClusterClient
