import ClusterClient.Catalog
import ClusterClient.Proofs.Catalog.Positions
import ClusterClient.Proofs.Text.Pieces

namespace ClusterClient

namespace ResourceEntry

theorem suffix?_eq_none_iff (entry : ResourceEntry) :
    entry.suffix? = none ↔ '/' ∉ entry.name.toList := Text.cut_snd_eq_none_iff

theorem base_eq_name {entry : ResourceEntry} (collection : entry.suffix? = none) :
    entry.base = entry.name := by
  rw [base, Text.cut_of_not_mem (entry.suffix?_eq_none_iff.mp collection)]

/-- The first slash of a name parts the collection from the sub-resource. -/
theorem suffix?_eq_some_iff {entry : ResourceEntry} {plural suffix : String} :
    entry.base = plural ∧ entry.suffix? = some suffix ↔
      '/' ∉ plural.toList ∧ entry.name = plural ++ "/" ++ suffix := by
  rw [show "/" = String.singleton '/' from rfl, ← Text.cut_eq_some_iff, base, suffix?, Prod.ext_iff]

/-- An entry for a collection itself, and one that something can be done with. -/
def isServed (entry : ResourceEntry) : Bool := '/' ∉ entry.name.toList ∧ entry.verbs ≠ []

theorem isServed_iff (entry : ResourceEntry) :
    entry.isServed ↔ entry.suffix? = none ∧ entry.verbs ≠ [] := by
  rw [isServed, decide_eq_true_iff, suffix?_eq_none_iff]

end ResourceEntry

/-- The key of the collection that an entry of a surface is about. -/
def Surface.entryKey (surface : Surface) (entry : ResourceEntry) : EndpointKey :=
  ⟨surface.addressPrefix, surface.groupName, surface.version, entry.base⟩

/-- The key under which an entry of a surface tells a collection name. -/
def Surface.kindKey (surface : Surface) (entry : ResourceEntry) : TypeKey :=
  ⟨surface.groupName, surface.version, entry.kind⟩

/-- The surface that lists an endpoint. -/
def Endpoint.surface (endpoint : Endpoint) : Surface :=
  ⟨endpoint.addressPrefix, endpoint.groupName, endpoint.version⟩

/-- What an entry of a surface makes of an endpoint that is there. -/
def Endpoint.afterEntry (item : Surface × ResourceEntry) (endpoint : Endpoint) : Endpoint :=
  if endpoint.key = item.1.entryKey item.2 then
    match item.2.suffix? with
    | none => { endpoint with verbs := Catalog.mergeVerbs endpoint.verbs item.2.verbs }
    | some suffix =>
      { endpoint with capabilities := Catalog.insertOnce suffix endpoint.capabilities }
  else endpoint

@[simp] theorem Endpoint.afterEntry_key (item : Surface × ResourceEntry) (endpoint : Endpoint) :
    (endpoint.afterEntry item).key = endpoint.key := by
  unfold afterEntry
  split
  · split <;> rfl
  · rfl

@[simp] theorem Endpoint.afterEntry_kind (item : Surface × ResourceEntry) (endpoint : Endpoint) :
    (endpoint.afterEntry item).kind = endpoint.kind := by
  unfold afterEntry
  split
  · split <;> rfl
  · rfl

@[simp] theorem Endpoint.afterEntry_namespaced (item : Surface × ResourceEntry)
    (endpoint : Endpoint) : (endpoint.afterEntry item).namespaced = endpoint.namespaced := by
  unfold afterEntry
  split
  · split <;> rfl
  · rfl

namespace Catalog

variable {catalog : Catalog}

/-- Both indices of a catalog fit its lists. -/
structure Indexed (catalog : Catalog) : Prop where
  endpoints : IndexedBy Endpoint.key catalog.endpoints catalog.endpointIndex
  types : IndexedBy TypeDescriptor.key catalog.types catalog.typeIndex

theorem indexed_empty : Indexed {} := ⟨.nil _, .nil _⟩

/-- Merge one entry of a surface. -/
def addEntry (catalog : Catalog) (item : Surface × ResourceEntry) : Catalog :=
  if item.2.suffix?.isNone then addCollection item.1 catalog item.2
  else addSubresource item.1 catalog item.2

end Catalog

/-- The entries of a surface's list in the order in which they are merged. -/
def ResourceListing.merged (surface : Surface) (listing : ResourceListing) :
    List (Surface × ResourceEntry) :=
  (listing.resources.filter (·.suffix?.isNone) ++ listing.resources.filter (·.suffix?.isSome)).map
    (surface, ·)

namespace Catalog

variable {catalog : Catalog}

theorem addListing_eq_foldl (catalog : Catalog) (surface : Surface) (listing : ResourceListing) :
    catalog.addListing surface listing = (listing.merged surface).foldl addEntry catalog := by
  have collections (start : Catalog) :
      (listing.resources.filter (·.suffix?.isNone)).foldl (addCollection surface) start
        = (listing.resources.filter (·.suffix?.isNone)).foldl
            (fun catalog entry => catalog.addEntry (surface, entry)) start := by
    refine List.foldl_ext _ _ _ fun catalog entry member => ?_
    simp only [addEntry, (List.mem_filter.mp member).2, if_true]
  have subresources (start : Catalog) :
      (listing.resources.filter (·.suffix?.isSome)).foldl (addSubresource surface) start
        = (listing.resources.filter (·.suffix?.isSome)).foldl
            (fun catalog entry => catalog.addEntry (surface, entry)) start := by
    refine List.foldl_ext _ _ _ fun catalog entry member => ?_
    have suffixed := Option.isSome_iff_ne_none.mp (List.mem_filter.mp member).2
    simp only [addEntry, Option.isNone_iff_eq_none, suffixed, if_false]
  rw [addListing, collections, subresources, ResourceListing.merged, List.foldl_map,
    List.foldl_append]

theorem addType_indexed (indexed : catalog.Indexed) (surface : Surface) (entry : ResourceEntry) :
    (addType surface catalog entry).Indexed := by
  unfold addType
  split
  · exact indexed
  · unfold enterType
    split
    · exact indexed
    · next fresh => exact ⟨indexed.endpoints, indexed.types.push fresh⟩

theorem learnPlural_indexed (indexed : catalog.Indexed) (key : TypeKey) (plural : String) :
    (catalog.learnPlural key plural).Indexed := by
  unfold learnPlural
  split
  · exact indexed
  · exact ⟨indexed.endpoints, indexed.types⟩

theorem enterEndpoint_indexed (indexed : catalog.Indexed) (endpoint : Endpoint) :
    (catalog.enterEndpoint endpoint).Indexed := by
  unfold enterEndpoint
  split
  · refine ⟨indexed.endpoints.modify ?_ _, indexed.types⟩
    exact fun _ => rfl
  · next fresh => exact ⟨indexed.endpoints.push fresh, indexed.types⟩

theorem noteCapability_indexed (indexed : catalog.Indexed) (key : EndpointKey) (capability : String) :
    (catalog.noteCapability key capability).Indexed := by
  unfold noteCapability
  split
  · refine ⟨indexed.endpoints.modify ?_ _, indexed.types⟩
    exact fun _ => rfl
  · exact indexed

theorem addEntry_indexed (indexed : catalog.Indexed) (item : Surface × ResourceEntry) :
    (catalog.addEntry item).Indexed := by
  have typed := addType_indexed indexed item.1 item.2
  unfold addEntry
  split
  · unfold addCollection
    split
    · exact typed
    · exact enterEndpoint_indexed (learnPlural_indexed typed _ _) _
  · unfold addSubresource
    split
    · exact noteCapability_indexed typed _ _
    · exact typed

theorem foldl_addEntry_indexed (indexed : catalog.Indexed) (items : List (Surface × ResourceEntry)) :
    (items.foldl addEntry catalog).Indexed := by
  induction items generalizing catalog with
  | nil => exact indexed
  | cons item rest ih => exact ih (addEntry_indexed indexed item)

theorem enterEndpoint_endpoints (indexed : catalog.Indexed) (endpoint : Endpoint) :
    (catalog.enterEndpoint endpoint).endpoints =
      (catalog.endpoints.map fun known =>
        if known.key = endpoint.key then
          { known with verbs := mergeVerbs known.verbs endpoint.verbs }
        else known)
      ++ if endpoint.key ∈ catalog.endpoints.map Endpoint.key then [] else [endpoint] := by
  unfold enterEndpoint
  split
  · next position found =>
    have present : endpoint.key ∈ catalog.endpoints.map Endpoint.key := by
      by_contra absent
      rw [(indexed.endpoints.lookup_eq_none_iff _).mpr absent] at found
      cases found
    rw [if_pos present, List.append_nil]
    exact indexed.endpoints.modify_eq_map found _
  · next fresh =>
    have absent := (indexed.endpoints.lookup_eq_none_iff _).mp fresh
    rw [if_neg absent, map_of_key_absent absent]

theorem noteCapability_endpoints (indexed : catalog.Indexed) (key : EndpointKey)
    (capability : String) :
    (catalog.noteCapability key capability).endpoints =
      catalog.endpoints.map fun known =>
        if known.key = key then
          { known with capabilities := insertOnce capability known.capabilities }
        else known := by
  unfold noteCapability
  split
  · next position found => exact indexed.endpoints.modify_eq_map found _
  · next fresh =>
    have absent := (indexed.endpoints.lookup_eq_none_iff _).mp fresh
    exact (map_of_key_absent absent _).symm

theorem addType_endpoints (surface : Surface) (catalog : Catalog) (entry : ResourceEntry) :
    (addType surface catalog entry).endpoints = catalog.endpoints := by
  unfold addType enterType
  split
  · rfl
  · split <;> rfl

theorem learnPlural_endpoints (catalog : Catalog) (key : TypeKey) (plural : String) :
    (catalog.learnPlural key plural).endpoints = catalog.endpoints := by
  unfold learnPlural
  split <;> rfl

theorem listedEndpoint_key (surface : Surface) {entry : ResourceEntry}
    (collection : entry.suffix? = none) :
    (listedEndpoint surface entry).key = surface.entryKey entry := by
  rw [Surface.entryKey, entry.base_eq_name collection]
  rfl

/-- All that an entry does to the endpoints: it changes the one that it is about, and a served
collection that is not there comes last. -/
theorem addEntry_endpoints (indexed : catalog.Indexed) (item : Surface × ResourceEntry) :
    (catalog.addEntry item).endpoints = catalog.endpoints.map (Endpoint.afterEntry item)
      ++ if item.2.isServed ∧ item.1.entryKey item.2 ∉ catalog.endpoints.map Endpoint.key then
          [listedEndpoint item.1 item.2]
        else [] := by
  obtain ⟨surface, entry⟩ := item
  have typed := addType_indexed indexed surface entry
  cases suffix : entry.suffix? with
  | some text =>
    have unserved : ¬ entry.isServed := by simp [entry.isServed_iff, suffix]
    simp only [addEntry, addSubresource, suffix, Option.isNone_some, Bool.false_eq_true, if_false,
      noteCapability_endpoints typed, addType_endpoints, unserved, false_and, List.append_nil]
    refine List.map_congr_left fun known _ => ?_
    simp only [Endpoint.afterEntry, suffix, Surface.entryKey]
  | none =>
    by_cases idle : entry.verbs = []
    · have unserved : ¬ entry.isServed := by simp [entry.isServed_iff, idle]
      simp only [addEntry, addCollection, suffix, idle, Option.isNone_none, if_true,
        addType_endpoints, unserved, Bool.false_eq_true, false_and, if_false, List.append_nil]
      refine ((List.map_congr_left fun known _ => ?_).trans (List.map_id _)).symm
      simp [Endpoint.afterEntry, suffix, idle, mergeVerbs]
    · have served : entry.isServed := entry.isServed_iff.mpr ⟨suffix, idle⟩
      have merged := enterEndpoint_endpoints (learnPlural_indexed typed
        ⟨surface.groupName, surface.version, entry.kind⟩ entry.name) (listedEndpoint surface entry)
      rw [learnPlural_endpoints, addType_endpoints, listedEndpoint_key surface suffix] at merged
      simp only [addEntry, addCollection, suffix, idle, Option.isNone_none, if_true, if_false,
        merged, served, true_and]
      refine congrArg₂ (· ++ ·) (List.map_congr_left fun known _ => ?_) ?_
      · simp only [Endpoint.afterEntry, suffix, listedEndpoint]
      · split <;> simp_all

theorem addType_plurals (surface : Surface) (catalog : Catalog) (entry : ResourceEntry) :
    (addType surface catalog entry).plurals = catalog.plurals := by
  unfold addType enterType
  split
  · rfl
  · split <;> rfl

theorem enterEndpoint_plurals (catalog : Catalog) (endpoint : Endpoint) :
    (catalog.enterEndpoint endpoint).plurals = catalog.plurals := by
  unfold enterEndpoint
  split <;> rfl

theorem noteCapability_plurals (catalog : Catalog) (key : EndpointKey) (capability : String) :
    (catalog.noteCapability key capability).plurals = catalog.plurals := by
  unfold noteCapability
  split <;> rfl

theorem learnPlural_lookup (catalog : Catalog) (known key : TypeKey) (plural : String) :
    (catalog.learnPlural known plural).plurals.lookup key =
      (catalog.plurals.lookup key).or (if known = key then some plural else none) := by
  unfold learnPlural
  split
  · next old found =>
    split
    · next same => rw [← same, found, Option.some_or]
    · rw [Option.or_none]
  · next fresh =>
    rw [List.lookup_cons]
    by_cases same : known = key
    · subst same
      simp [fresh]
    · simp [beq_false_of_ne (Ne.symm same), same]

/-- A served entry tells the collection name of its kind, unless one is known. -/
theorem addEntry_lookup_plurals (catalog : Catalog) (item : Surface × ResourceEntry)
    (key : TypeKey) :
    (catalog.addEntry item).plurals.lookup key = (catalog.plurals.lookup key).or
      (if item.2.isServed ∧ item.1.kindKey item.2 = key then some item.2.name else none) := by
  cases suffix : item.2.suffix? with
  | some text =>
    have unserved : ¬ item.2.isServed := by simp [item.2.isServed_iff, suffix]
    simp [addEntry, addSubresource, suffix, unserved, noteCapability_plurals, addType_plurals]
  | none =>
    by_cases idle : item.2.verbs = []
    · have unserved : ¬ item.2.isServed := by simp [item.2.isServed_iff, idle]
      simp [addEntry, addCollection, suffix, idle, unserved, addType_plurals]
    · have served : item.2.isServed := item.2.isServed_iff.mpr ⟨suffix, idle⟩
      simp only [addEntry, addCollection, suffix, idle, Option.isNone_none, if_true, if_false,
        served, true_and, enterEndpoint_plurals, learnPlural_lookup, addType_plurals,
        Surface.kindKey]

theorem addType_withGroups (groups : List ApiGroup) (surface : Surface) (catalog : Catalog)
    (entry : ResourceEntry) :
    addType surface { catalog with groups } entry = { addType surface catalog entry with groups } := by
  unfold addType
  split
  · rfl
  · cases known : catalog.typeIndex.lookup (declaredType surface entry).key <;>
      simp only [enterType, known]

theorem learnPlural_withGroups (groups : List ApiGroup) (catalog : Catalog) (key : TypeKey)
    (plural : String) :
    learnPlural { catalog with groups } key plural = { learnPlural catalog key plural with groups } := by
  cases known : catalog.plurals.lookup key <;> simp only [learnPlural, known]

theorem enterEndpoint_withGroups (groups : List ApiGroup) (catalog : Catalog)
    (endpoint : Endpoint) :
    enterEndpoint { catalog with groups } endpoint = { enterEndpoint catalog endpoint with groups } := by
  cases known : catalog.endpointIndex.lookup endpoint.key <;> simp only [enterEndpoint, known]

theorem noteCapability_withGroups (groups : List ApiGroup) (catalog : Catalog) (key : EndpointKey)
    (capability : String) :
    noteCapability { catalog with groups } key capability
      = { noteCapability catalog key capability with groups } := by
  cases known : catalog.endpointIndex.lookup key <;> simp only [noteCapability, known]

/-- The groups play no part in the merging of entries. -/
theorem addEntry_withGroups (groups : List ApiGroup) (catalog : Catalog)
    (item : Surface × ResourceEntry) :
    addEntry { catalog with groups } item = { addEntry catalog item with groups } := by
  simp only [addEntry, addCollection, addSubresource, addType_withGroups, learnPlural_withGroups,
    enterEndpoint_withGroups]
  split
  · split <;> rfl
  · cases item.2.suffix? with
    | none => rfl
    | some suffix => exact noteCapability_withGroups ..

theorem foldl_addEntry_withGroups (groups : List ApiGroup) (catalog : Catalog)
    (items : List (Surface × ResourceEntry)) :
    items.foldl addEntry { catalog with groups } = { items.foldl addEntry catalog with groups } := by
  induction items generalizing catalog with
  | nil => rfl
  | cons item rest ih => rw [List.foldl_cons, List.foldl_cons, addEntry_withGroups, ih]

end Catalog

end ClusterClient
