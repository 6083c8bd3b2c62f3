import ClusterClient.Proofs.Catalog.Content
import Mathlib.Data.List.Find

namespace ClusterClient

theorem VersionSelector.ofRequest_grouped {group : String} (plain : '/' ∉ group.toList)
    (version : String) :
    ofRequest (some (group ++ "/" ++ version)) = .grouped group version := by
  have written : group ++ "/" ++ version ≠ "" := by
    intro empty
    have letters := congrArg String.toList empty
    simp [String.toList_append] at letters
  rw [ofRequest, if_neg written, show "/" = String.singleton '/' from rfl, Text.cut_append plain]

theorem Endpoint.afterEntry_surface (item : Surface × ResourceEntry) (endpoint : Endpoint) :
    (endpoint.afterEntry item).surface = endpoint.surface := by
  unfold afterEntry
  split
  · split <;> rfl
  · rfl

theorem Endpoint.surface_of_key_eq {endpoint : Endpoint} {key : EndpointKey}
    (same : endpoint.key = key) :
    endpoint.surface = ⟨key.addressPrefix, key.groupName, key.version⟩ := by
  rw [← same]
  rfl

/-- An entry is about endpoints of its own surface only. -/
theorem Endpoint.surface_of_key {endpoint : Endpoint} {surface : Surface} {entry : ResourceEntry}
    (same : endpoint.key = surface.entryKey entry) : endpoint.surface = surface :=
  surface_of_key_eq same

theorem Endpoint.afterEntry_of_surface_ne {item : Surface × ResourceEntry} {endpoint : Endpoint}
    (elsewhere : endpoint.surface ≠ item.1) : endpoint.afterEntry item = endpoint :=
  if_neg fun same => elsewhere (surface_of_key same)

namespace Catalog

theorem addGroup_groups (catalog : Catalog) (group : ApiGroup) :
    (catalog.addGroup group).groups = catalog.groups ++
      if ∃ known ∈ catalog.groups,
          known.addressPrefix = group.addressPrefix ∧ known.groupName = group.groupName then []
      else [group] := by
  unfold addGroup
  simp only [List.any_eq_true, Bool.and_eq_true, beq_iff_eq]
  split
  · rw [List.append_nil]
  · rfl

/-- Without the groups of some prefixes a catalog has the others, in the same order. -/
theorem foldl_addGroup_filter (keep : String → Bool) (groups : List ApiGroup) :
    ((groups.filter fun group => keep group.addressPrefix).foldl addGroup {}).groups
      = (groups.foldl addGroup {}).groups.filter fun group => keep group.addressPrefix := by
  induction groups using List.reverseRecOn with
  | nil => rfl
  | append_singleton groups group ih =>
    rw [List.filter_append, List.foldl_append, List.foldl_append, List.foldl_cons, List.foldl_nil,
      addGroup_groups, List.filter_append, ← ih]
    by_cases kept : keep group.addressPrefix = true
    · have known :
          (∃ known ∈ ((groups.filter fun group => keep group.addressPrefix).foldl addGroup {}).groups,
            known.addressPrefix = group.addressPrefix ∧ known.groupName = group.groupName) ↔
          ∃ known ∈ (groups.foldl addGroup {}).groups,
            known.addressPrefix = group.addressPrefix ∧ known.groupName = group.groupName := by
        rw [ih]
        simp only [List.mem_filter]
        refine exists_congr fun known => ⟨fun found => ⟨found.1.1, found.2⟩, fun found => ?_⟩
        exact ⟨⟨found.1, by rw [found.2.1, kept]⟩, found.2⟩
      simp only [List.filter_singleton, kept, cond_true, List.foldl_cons, List.foldl_nil,
        addGroup_groups, known]
      split
      · rfl
      · rw [List.filter_singleton, kept, cond_true]
    · rw [Bool.not_eq_true] at kept
      simp only [List.filter_singleton, kept, cond_false, List.foldl_nil]
      split
      · exact (List.append_nil _).symm
      · rw [List.filter_singleton, kept, cond_false, List.append_nil]

variable (keep : Surface → Bool)

theorem mem_keys_filter_iff (endpoints : List Endpoint) {item : Surface × ResourceEntry}
    (kept : keep item.1 = true) :
    item.1.entryKey item.2 ∈
        (endpoints.filter fun endpoint => keep endpoint.surface).map Endpoint.key
      ↔ item.1.entryKey item.2 ∈ endpoints.map Endpoint.key := by
  simp only [List.mem_map, List.mem_filter]
  refine exists_congr fun endpoint => ⟨fun found => ⟨found.1.1, found.2⟩, fun found => ?_⟩
  exact ⟨⟨found.1, by rw [Endpoint.surface_of_key found.2, kept]⟩, found.2⟩

/-- Without the entries of some surfaces a catalog has the endpoints of the others, as they were. -/
theorem foldl_endpoints_filter (items : List (Surface × ResourceEntry)) :
    ((items.filter fun item => keep item.1).foldl addEntry {}).endpoints
      = (items.foldl addEntry {}).endpoints.filter fun endpoint => keep endpoint.surface := by
  induction items using List.reverseRecOn with
  | nil => rfl
  | append_singleton items item ih =>
    have indexed := foldl_addEntry_indexed indexed_empty items
    rw [List.filter_append, List.foldl_append, List.foldl_append, List.foldl_cons, List.foldl_nil,
      addEntry_endpoints indexed, List.filter_append, List.filter_map]
    have surfaces : ((fun endpoint : Endpoint => keep endpoint.surface) ∘ Endpoint.afterEntry item)
        = fun endpoint => keep endpoint.surface :=
      funext fun endpoint => congrArg keep (endpoint.afterEntry_surface item)
    rw [surfaces, ← ih]
    cases kept : keep item.1 with
    | true =>
      have known := mem_keys_filter_iff keep (items.foldl addEntry {}).endpoints kept
      have listed : keep (listedEndpoint item.1 item.2).surface = true := kept
      rw [← ih] at known
      simp only [List.filter_singleton, kept, cond_true, List.foldl_cons, List.foldl_nil,
        addEntry_endpoints (foldl_addEntry_indexed indexed_empty _), known]
      refine congrArg _ ?_
      split
      · rw [List.filter_singleton, listed, cond_true]
      · rfl
    | false =>
      have listed : keep (listedEndpoint item.1 item.2).surface = false := kept
      have others : ∀ endpoint ∈ ((items.filter fun item => keep item.1).foldl addEntry {}).endpoints,
          endpoint.afterEntry item = endpoint := by
        intro endpoint member
        rw [ih] at member
        refine Endpoint.afterEntry_of_surface_ne fun same => ?_
        have there := (List.mem_filter.mp member).2
        rw [same, kept] at there
        cases there
      simp only [List.filter_singleton, kept, cond_false, List.foldl_nil]
      rw [List.map_congr_left others, List.map_id']
      split
      · rw [List.filter_singleton, listed, cond_false, List.append_nil]
      · exact (List.append_nil _).symm

theorem endpointAt?_eq_find? {catalog : Catalog} (indexed : catalog.Indexed) (key : EndpointKey) :
    catalog.endpointAt? key = catalog.endpoints.find? (·.key = key) :=
  indexed.endpoints.lookup_bind key

/-- The entries of some surfaces alone tell the collection names of a group and version, if every
surface of these is among them. -/
theorem foldl_pluralFor_filter {items : List (Surface × ResourceEntry)} {group : Option String}
    {version : String}
    (complete : ∀ item ∈ items, item.1.groupName = group → item.1.version = version →
      keep item.1 = true) (kind : String) :
    ((items.filter fun item => keep item.1).foldl addEntry {}).pluralFor kind group version
      = (items.foldl addEntry {}).pluralFor kind group version := by
  have found : ((items.filter fun item => keep item.1).find? fun item =>
        item.2.isServed && item.1.kindKey item.2 = ⟨group, version, kind⟩)
      = items.find? fun item => item.2.isServed && item.1.kindKey item.2 = ⟨group, version, kind⟩ := by
    rw [List.find?_filter]
    refine List.find?_congr fun item member => ?_
    by_cases same : item.1.kindKey item.2 = ⟨group, version, kind⟩
    · rw [Surface.kindKey, TypeKey.mk.injEq] at same
      simp [complete item member same.1 same.2.1]
    · simp [same]
  rw [pluralFor, pluralFor, foldl_lookup_plurals, foldl_lookup_plurals, found]

theorem find?_filter_eq_some {endpoints : List Endpoint} {fits : Endpoint → Bool}
    {endpoint : Endpoint} (found : endpoints.find? fits = some endpoint)
    (kept : keep endpoint.surface = true) :
    (endpoints.filter fun endpoint => keep endpoint.surface).find? fits = some endpoint := by
  obtain ⟨fitting, before, after, split, unfitting⟩ := List.find?_eq_some_iff_append.mp found
  have nothing : (before.filter fun endpoint => keep endpoint.surface).find? fits = none := by
    refine List.find?_eq_none.mpr fun other member => ?_
    simpa using unfitting other (List.mem_of_mem_filter member)
  simp only [split, List.filter_append, List.filter_cons, kept, if_true, List.find?_append,
    nothing, List.find?_cons_of_pos fitting, Option.none_or]

/-- Nothing resolves at a version of a group without endpoints. -/
theorem resolve_eq_none {catalog : Catalog} (indexed : catalog.Indexed) {group version : String}
    (plain : '/' ∉ group.toList)
    (absent : ∀ endpoint ∈ catalog.endpoints,
      endpoint.surface ≠ ⟨Surface.groupedPrefix, some group, version⟩) (kind : String) :
    catalog.resolve (some (group ++ "/" ++ version)) kind = none := by
  simp only [resolve, VersionSelector.ofRequest_grouped plain, endpointAt?_eq_find? indexed]
  refine List.find?_eq_none.mpr fun endpoint member found => absent endpoint member ?_
  exact Endpoint.surface_of_key_eq (of_decide_eq_true found)

/-- The entries of some surfaces alone resolve what their endpoints are resolved from. -/
theorem foldl_resolve_filter {items : List (Surface × ResourceEntry)}
    (grouped : ∀ item ∈ items, item.1.groupName.isSome → item.1.addressPrefix = Surface.groupedPrefix)
    {version : Option String} {kind : String} {endpoint : Endpoint}
    (found : (items.foldl addEntry {}).resolve version kind = some endpoint)
    (kept : keep endpoint.surface = true) :
    ((items.filter fun item => keep item.1).foldl addEntry {}).resolve version kind
      = some endpoint := by
  have indexed := foldl_addEntry_indexed indexed_empty items
  have restricted := foldl_addEntry_indexed indexed_empty (items.filter fun item => keep item.1)
  unfold resolve at found ⊢
  cases selector : VersionSelector.ofRequest version with
  | any =>
    rw [selector] at found
    rw [foldl_endpoints_filter]
    exact find?_filter_eq_some keep found kept
  | single segment =>
    rw [selector] at found
    rw [foldl_endpoints_filter]
    exact find?_filter_eq_some keep found kept
  | grouped group version =>
    simp only [selector, endpointAt?_eq_find? indexed] at found
    have atKey := List.find?_some found
    have surface := Endpoint.surface_of_key_eq (of_decide_eq_true atKey)
    -- Collection names are told across prefixes, but a group stands under one prefix only.
    have complete : ∀ item ∈ items, item.1.groupName = some group → item.1.version = version →
        keep item.1 = true := by
      intro item member sameGroup sameVersion
      have place : item.1 = ⟨Surface.groupedPrefix, some group, version⟩ := by
        rw [← grouped item member (by rw [sameGroup, Option.isSome_some]), ← sameGroup, ← sameVersion]
      rw [place, ← surface, kept]
    simp only [endpointAt?_eq_find? restricted, foldl_endpoints_filter,
      foldl_pluralFor_filter keep complete]
    exact find?_filter_eq_some keep found kept

end Catalog

end ClusterClient
