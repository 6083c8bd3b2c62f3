import ClusterClient.Proofs.Catalog.Growth
import ClusterClient.Proofs.Catalog.Invariant
import Mathlib.Data.List.Sort

namespace ClusterClient

/-- Items that are all one item cannot be told apart by their order. -/
theorem filter_eq_of_perm {α : Type} {list list' : List α} (perm : list.Perm list')
    {fits : α → Bool} (one : ∀ x ∈ list, ∀ y ∈ list, fits x → fits y → x = y) :
    list.filter fits = list'.filter fits := by
  have same : ∀ x ∈ list.filter fits, ∀ y ∈ list.filter fits, x = y := by
    intro x inX y inY
    obtain ⟨memberX, fitsX⟩ := List.mem_filter.mp inX
    obtain ⟨memberY, fitsY⟩ := List.mem_filter.mp inY
    exact one x memberX y memberY fitsX fitsY
  have kept := perm.filter fits
  -- Equal items are in any order that one may ask for.
  have anyhow (items : List α) : items.Pairwise fun _ _ => True :=
    List.pairwise_of_forall fun _ _ => trivial
  exact List.Perm.eq_of_pairwise (fun x y inX inY _ _ => same x inX y (kept.mem_iff.mpr inY))
    (anyhow _) (anyhow _) kept

/-- Items under the same keys are the same items if a key tells its item. -/
theorem eq_of_map_eq {α β : Type} {key : α → β} {list list' : List α}
    (keys : list.map key = list'.map key)
    (one : ∀ x ∈ list, ∀ y ∈ list', key x = key y → x = y) : list = list' := by
  induction list generalizing list' with
  | nil => exact (List.map_eq_nil_iff.mp keys.symm).symm
  | cons x rest ih =>
    obtain ⟨y, rest', rfl, head, tail⟩ := List.map_eq_cons_iff.mp keys.symm
    have first := one x List.mem_cons_self y List.mem_cons_self head.symm
    have others := ih tail.symm fun a inRest b inRest' =>
      one a (List.mem_cons_of_mem _ inRest) b (List.mem_cons_of_mem _ inRest')
    rw [first, others]

namespace Catalog

theorem holds_key_iff {catalog : Catalog} (indexed : catalog.Indexed) {endpoint : Endpoint}
    (member : endpoint ∈ catalog.endpoints) (suffix : String) :
    catalog.Holds endpoint.key suffix ↔ suffix ∈ endpoint.capabilities := by
  constructor
  · rintro ⟨holder, there, same, inside⟩
    rwa [indexed.endpoints.eq_of_key_eq there member same] at inside
  · exact fun inside => ⟨endpoint, member, rfl, inside⟩

/-- The served entries of a key and its sub-resources tell all of an endpoint. -/
theorem endpoint_eq_of_told {items items' : List (Surface × ResourceEntry)}
    {endpoint endpoint' : Endpoint}
    (member : endpoint ∈ (items.foldl addEntry {}).endpoints)
    (member' : endpoint' ∈ (items'.foldl addEntry {}).endpoints)
    (key : endpoint.key = endpoint'.key)
    (entries : servedEntries endpoint.key items = servedEntries endpoint.key items')
    (capabilities : ∀ suffix, (items.foldl addEntry {}).Holds endpoint.key suffix ↔
      (items'.foldl addEntry {}).Holds endpoint.key suffix) : endpoint = endpoint' := by
  obtain ⟨first, later, told, kind, namespaced, verbs⟩ := foldl_endpoint items member
  obtain ⟨first', later', told', kind', namespaced', verbs'⟩ := foldl_endpoint items' member'
  rw [← key, ← entries, told] at told'
  obtain ⟨rfl, rfl⟩ := List.cons_eq_cons.mp told'
  have sub : endpoint.capabilities = endpoint'.capabilities := by
    refine (foldl_sorted items endpoint member).eq_of_mem_iff
      (foldl_sorted items' endpoint' member') fun suffix => ?_
    have inside := holds_key_iff (foldl_addEntry_indexed indexed_empty items) member suffix
    have inside' := holds_key_iff (foldl_addEntry_indexed indexed_empty items') member' suffix
    rw [← inside, ← inside', ← key]
    exact capabilities suffix
  obtain ⟨addressPrefix, groupName, version, pluralName⟩ := (EndpointKey.mk.injEq ..).mp key
  exact (Endpoint.mk.injEq ..).mpr ⟨addressPrefix, groupName, version, pluralName,
    kind.trans kind'.symm, namespaced.trans namespaced'.symm, verbs.trans verbs'.symm, sub⟩

/-- Two histories tell the same: of every key the same served entries in the same order, and the
same sub-resources. -/
structure TellAlike (items items' : List (Surface × ResourceEntry)) : Prop where
  entries : ∀ key, servedEntries key items = servedEntries key items'
  holds : ∀ key suffix, (items.foldl addEntry {}).Holds key suffix ↔
    (items'.foldl addEntry {}).Holds key suffix

namespace TellAlike

variable {items items' : List (Surface × ResourceEntry)}

theorem symm (alike : TellAlike items items') : TellAlike items' items :=
  ⟨fun key => (alike.entries key).symm, fun key suffix => (alike.holds key suffix).symm⟩

theorem endpoint_eq (alike : TellAlike items items') {endpoint endpoint' : Endpoint}
    (member : endpoint ∈ (items.foldl addEntry {}).endpoints)
    (member' : endpoint' ∈ (items'.foldl addEntry {}).endpoints)
    (key : endpoint.key = endpoint'.key) : endpoint = endpoint' :=
  endpoint_eq_of_told member member' key (alike.entries _) (alike.holds _)

theorem mem_of_mem (alike : TellAlike items items') {endpoint : Endpoint}
    (member : endpoint ∈ (items.foldl addEntry {}).endpoints) :
    endpoint ∈ (items'.foldl addEntry {}).endpoints := by
  have told := (servedEntries_ne_nil_iff endpoint.key items).mpr (List.mem_map_of_mem member)
  rw [alike.entries, servedEntries_ne_nil_iff] at told
  obtain ⟨endpoint', member', key⟩ := List.mem_map.mp told
  rwa [alike.endpoint_eq member member' key.symm]

theorem perm (alike : TellAlike items items') :
    (items.foldl addEntry {}).endpoints.Perm (items'.foldl addEntry {}).endpoints := by
  have distinct := (foldl_addEntry_indexed indexed_empty items).endpoints.nodup
  have distinct' := (foldl_addEntry_indexed indexed_empty items').endpoints.nodup
  rw [List.perm_ext_iff_of_nodup (distinct.of_map _) (distinct'.of_map _)]
  exact fun endpoint => ⟨alike.mem_of_mem, alike.symm.mem_of_mem⟩

end TellAlike

/-- A key stands for the same endpoint wherever in a catalog the endpoint stands. -/
theorem find?_key_eq_of_perm {catalog catalog' : Catalog} (indexed : catalog.Indexed)
    (perm : catalog.endpoints.Perm catalog'.endpoints) (key : EndpointKey) :
    catalog.endpoints.find? (·.key = key) = catalog'.endpoints.find? (·.key = key) := by
  rw [← List.head?_filter, ← List.head?_filter, filter_eq_of_perm perm]
  intro endpoint member other member' atKey atKey'
  exact indexed.endpoints.eq_of_key_eq member member'
    ((of_decide_eq_true atKey).trans (of_decide_eq_true atKey').symm)

variable {catalog : Catalog} {listing listing' : ResourceListing}

theorem merged_perm (surface : Surface) (perm : listing.resources.Perm listing'.resources) :
    (listing.merged surface).Perm (listing'.merged surface) :=
  ((perm.filter _).append (perm.filter _)).map _

theorem foldl_mem_keys_of_perm (indexed : catalog.Indexed)
    {items items' : List (Surface × ResourceEntry)} (perm : items.Perm items')
    (key : EndpointKey) :
    key ∈ (items.foldl addEntry catalog).endpoints.map Endpoint.key ↔
      key ∈ (items'.foldl addEntry catalog).endpoints.map Endpoint.key := by
  rw [mem_keys_foldl indexed, mem_keys_foldl indexed]
  exact or_congr_right (exists_congr fun item => and_congr_left fun _ => perm.mem_iff)

/-- Which sub-resources a list tells does not depend on its order. -/
theorem addListing_holds_of_perm (indexed : catalog.Indexed) (surface : Surface)
    (perm : listing.resources.Perm listing'.resources) (key : EndpointKey) (suffix : String) :
    (catalog.addListing surface listing).Holds key suffix ↔
      (catalog.addListing surface listing').Holds key suffix := by
  have keys := foldl_mem_keys_of_perm indexed (merged_perm surface perm) key
  rw [← addListing_eq_foldl, ← addListing_eq_foldl] at keys
  rw [addListing_holds_iff indexed, addListing_holds_iff indexed, keys]
  exact or_congr_right (and_congr_right fun _ => exists_congr fun entry =>
    and_congr_left fun _ => perm.mem_iff)

theorem addListing_types_perm (indexed : catalog.Indexed) (surface : Surface)
    (perm : listing.resources.Perm listing'.resources) :
    (catalog.addListing surface listing).types.Perm (catalog.addListing surface listing').types := by
  have listed (listing : ResourceListing) : ∀ item ∈ listing.merged surface, item.1 = surface :=
    fun item member => (mem_merged.mp member).1
  rw [addListing_eq_foldl, addListing_eq_foldl]
  have distinct := (foldl_addEntry_indexed indexed (listing.merged surface)).types.nodup
  have distinct' := (foldl_addEntry_indexed indexed (listing'.merged surface)).types.nodup
  rw [List.perm_ext_iff_of_nodup (distinct.of_map _) (distinct'.of_map _)]
  intro type
  rw [mem_foldl_types indexed (listed listing), mem_foldl_types indexed (listed listing')]
  exact or_congr_right (and_congr_right fun _ => exists_congr fun item =>
    and_congr_left fun _ => (merged_perm surface perm).mem_iff)

theorem addListing_lookup_plurals (catalog : Catalog) (surface : Surface)
    (listing : ResourceListing) (key : TypeKey) :
    (catalog.addListing surface listing).plurals.lookup key = (catalog.plurals.lookup key).or
      (((listing.merged surface).filter fun item =>
        item.2.isServed && item.1.kindKey item.2 = key).head?.map (·.2.name)) := by
  rw [addListing_eq_foldl, foldl_lookup_plurals, List.head?_filter]

theorem resolve_congr {catalog catalog' : Catalog} (indexed : catalog.Indexed)
    (indexed' : catalog'.Indexed) (endpoints : catalog.endpoints = catalog'.endpoints)
    (plurals : ∀ key, catalog.plurals.lookup key = catalog'.plurals.lookup key)
    (version : Option String) (kind : String) :
    catalog.resolve version kind = catalog'.resolve version kind := by
  simp only [resolve, endpointAt?_eq_find? indexed, endpointAt?_eq_find? indexed', pluralFor,
    endpoints, plurals]

theorem resolve_grouped_congr {catalog catalog' : Catalog} (indexed : catalog.Indexed)
    (indexed' : catalog'.Indexed) (endpoints : catalog.endpoints.Perm catalog'.endpoints)
    (plurals : ∀ key, catalog.plurals.lookup key = catalog'.plurals.lookup key)
    {requested : Option String} {group version : String}
    (selected : VersionSelector.ofRequest requested = .grouped group version) (kind : String) :
    catalog.resolve requested kind = catalog'.resolve requested kind := by
  simp only [resolve, selected, endpointAt?_eq_find? indexed, endpointAt?_eq_find? indexed',
    pluralFor, plurals]
  exact find?_key_eq_of_perm indexed endpoints _

/-- The entries that build a catalog and then a list of a surface. -/
def withListing (prior : List Addition) (surface : Surface) (listing : ResourceListing) :
    List (Surface × ResourceEntry) :=
  prior.flatMap Addition.merged ++ listing.merged surface

theorem addListing_endpoints (prior : List Addition) (surface : Surface)
    (listing : ResourceListing) :
    ((ofAdditions prior).addListing surface listing).endpoints
      = ((withListing prior surface listing).foldl addEntry {}).endpoints := by
  have appended := ofAdditions_endpoints (prior ++ [.listing surface listing])
  rw [ofAdditions_append, List.flatMap_append, List.flatMap_singleton] at appended
  exact appended

theorem addListing_indexed (indexed : catalog.Indexed) (surface : Surface)
    (listing : ResourceListing) : (catalog.addListing surface listing).Indexed := by
  rw [addListing_eq_foldl]
  exact foldl_addEntry_indexed indexed _

/-- Lists with the same entries tell alike if they tell the same served entries of every key. -/
theorem withListing_tellAlike (prior : List Addition) (surface : Surface)
    (perm : listing.resources.Perm listing'.resources)
    (entries : ∀ key, servedEntries key (listing.merged surface)
      = servedEntries key (listing'.merged surface)) :
    TellAlike (withListing prior surface listing) (withListing prior surface listing') where
  entries key := by
    rw [withListing, withListing, servedEntries_append, servedEntries_append, entries]
  holds key suffix := by
    have told := addListing_holds_of_perm (ofAdditions_indexed prior) surface perm key
      suffix
    unfold Holds at told ⊢
    rwa [addListing_endpoints, addListing_endpoints] at told

theorem merged_served_fits (surface : Surface) (listing : ResourceListing)
    (fits : Surface × ResourceEntry → Bool) :
    (listing.merged surface).filter (fun item => item.2.isServed && fits item) =
      ((listing.resources.filter (·.isServed)).map (surface, ·)).filter fits := by
  rw [← merged_served, List.filter_filter]
  exact List.filter_congr fun item _ => Bool.and_comm ..

/-- What is served comes in the order of the entries without a slash. -/
theorem filter_served_of_plain
    (same : listing.resources.filter (fun entry => '/' ∉ entry.name.toList)
      = listing'.resources.filter fun entry => '/' ∉ entry.name.toList) :
    listing.resources.filter (·.isServed) = listing'.resources.filter (·.isServed) := by
  have parted (listing : ResourceListing) : listing.resources.filter (·.isServed)
      = (listing.resources.filter fun entry => '/' ∉ entry.name.toList).filter (·.isServed) := by
    rw [List.filter_filter]
    refine List.filter_congr fun entry _ => ?_
    by_cases plain : '/' ∈ entry.name.toList <;> simp [ResourceEntry.isServed, plain]
  rw [parted listing, parted listing', same]

/-- Where a field tells the served entries apart, those that fit one value of it do not depend on
the order of the list. -/
theorem merged_served_fits_of_perm (surface : Surface)
    (perm : listing.resources.Perm listing'.resources) {field : ResourceEntry → String}
    (distinct : ((listing.resources.filter (·.isServed)).map field).Nodup)
    {fits : Surface × ResourceEntry → Bool}
    (agree : ∀ entry other : ResourceEntry, entry.isServed → other.isServed →
      fits (surface, entry) → fits (surface, other) → field entry = field other) :
    (listing.merged surface).filter (fun item => item.2.isServed && fits item) =
      (listing'.merged surface).filter fun item => item.2.isServed && fits item := by
  rw [merged_served_fits, merged_served_fits]
  refine filter_eq_of_perm ((perm.filter _).map _) fun item member other member' fitsItem fitsOther => ?_
  obtain ⟨entry, inside, rfl⟩ := List.mem_map.mp member
  obtain ⟨entry', inside', rfl⟩ := List.mem_map.mp member'
  have same := agree entry entry' (List.mem_filter.mp inside).2 (List.mem_filter.mp inside').2
    fitsItem fitsOther
  rw [List.inj_on_of_nodup_map distinct inside inside' same]

theorem name_eq_of_entryKey_eq {surface : Surface} {entry other : ResourceEntry} {key : EndpointKey}
    (served : entry.isServed) (served' : other.isServed) (atKey : surface.entryKey entry = key)
    (atKey' : surface.entryKey other = key) : entry.name = other.name := by
  rw [entryKey_of_served served] at atKey
  rw [entryKey_of_served served', ← atKey] at atKey'
  exact (congrArg EndpointKey.pluralName atKey').symm

theorem merged_served_fits_of_plain (surface : Surface)
    (same : listing.resources.filter (fun entry => '/' ∉ entry.name.toList)
      = listing'.resources.filter fun entry => '/' ∉ entry.name.toList)
    (fits : Surface × ResourceEntry → Bool) :
    (listing.merged surface).filter (fun item => item.2.isServed && fits item)
      = (listing'.merged surface).filter fun item => item.2.isServed && fits item := by
  rw [merged_served_fits, merged_served_fits, filter_served_of_plain same]

/-- Sub-resources may move anywhere in a list, and every endpoint stays what and where it is. -/
theorem addListing_endpoints_of_plain (prior : List Addition) (surface : Surface)
    (perm : listing.resources.Perm listing'.resources)
    (same : listing.resources.filter (fun entry => '/' ∉ entry.name.toList)
      = listing'.resources.filter fun entry => '/' ∉ entry.name.toList) :
    ((ofAdditions prior).addListing surface listing).endpoints
      = ((ofAdditions prior).addListing surface listing').endpoints := by
  have alike := withListing_tellAlike prior surface perm fun key => by
    rw [servedEntries, servedEntries, merged_served_fits_of_plain surface same]
  rw [addListing_endpoints, addListing_endpoints]
  refine eq_of_map_eq ?_ fun endpoint member endpoint' member' => alike.endpoint_eq member member'
  rw [foldl_keys, foldl_keys, withListing, withListing, List.filter_append, List.filter_append,
    merged_served, merged_served, filter_served_of_plain same]

/-- Where every name is served once, no endpoint depends on the order of the list but by its place. -/
theorem addListing_endpoints_perm (prior : List Addition) (surface : Surface)
    (perm : listing.resources.Perm listing'.resources)
    (names : ((listing.resources.filter (·.isServed)).map (·.name)).Nodup) :
    ((ofAdditions prior).addListing surface listing).endpoints.Perm
      ((ofAdditions prior).addListing surface listing').endpoints := by
  have alike := withListing_tellAlike prior surface perm fun key => by
    rw [servedEntries, servedEntries, merged_served_fits_of_perm surface perm names
      fun entry other served served' atKey atKey' =>
        name_eq_of_entryKey_eq served served' (of_decide_eq_true atKey) (of_decide_eq_true atKey')]
  rw [addListing_endpoints, addListing_endpoints]
  exact alike.perm

/-- Where every kind is served once, no collection name depends on the order of the list. -/
theorem addListing_lookup_plurals_of_perm (catalog : Catalog) (surface : Surface)
    (perm : listing.resources.Perm listing'.resources)
    (kinds : ((listing.resources.filter (·.isServed)).map (·.kind)).Nodup) (key : TypeKey) :
    (catalog.addListing surface listing).plurals.lookup key
      = (catalog.addListing surface listing').plurals.lookup key := by
  rw [addListing_lookup_plurals, addListing_lookup_plurals,
    merged_served_fits_of_perm surface perm kinds fun entry other _ _ atKey atKey' =>
      congrArg TypeKey.kind ((of_decide_eq_true atKey).trans (of_decide_eq_true atKey').symm)]

/-- A list in another order tells the same types. It tells the same endpoints and collection names
if its entries without a slash keep their order; if none of those that have verbs share a name or a
kind, it does so but for the order of the endpoints. -/
theorem addListing_perm (prior : List Addition) (surface : Surface)
    (perm : listing.resources.Perm listing'.resources) :
    let catalog := (ofAdditions prior).addListing surface listing
    let catalog' := (ofAdditions prior).addListing surface listing'
    catalog.types.Perm catalog'.types ∧
    (listing.resources.filter (fun entry => '/' ∉ entry.name.toList)
        = listing'.resources.filter (fun entry => '/' ∉ entry.name.toList) →
      catalog.endpoints = catalog'.endpoints ∧
      (∀ key, catalog.plurals.lookup key = catalog'.plurals.lookup key) ∧
      ∀ version kind, catalog.resolve version kind = catalog'.resolve version kind) ∧
    (((listing.resources.filter (·.isServed)).map (·.name)).Nodup →
      ((listing.resources.filter (·.isServed)).map (·.kind)).Nodup →
      catalog.endpoints.Perm catalog'.endpoints ∧
      (∀ key, catalog.plurals.lookup key = catalog'.plurals.lookup key) ∧
      ∀ requested group version kind,
        VersionSelector.ofRequest requested = .grouped group version →
        catalog.resolve requested kind = catalog'.resolve requested kind) := by
  intro catalog catalog'
  have start := ofAdditions_indexed prior
  have indexed : catalog.Indexed := addListing_indexed start surface listing
  have indexed' : catalog'.Indexed := addListing_indexed start surface listing'
  refine ⟨addListing_types_perm start surface perm, fun same => ?_, fun names kinds => ?_⟩
  · have endpoints := addListing_endpoints_of_plain prior surface perm same
    have plurals (key : TypeKey) : catalog.plurals.lookup key = catalog'.plurals.lookup key := by
      rw [addListing_lookup_plurals, addListing_lookup_plurals,
        merged_served_fits_of_plain surface same]
    exact ⟨endpoints, plurals, resolve_congr indexed indexed' endpoints plurals⟩
  · have endpoints := addListing_endpoints_perm prior surface perm names
    have plurals := addListing_lookup_plurals_of_perm (ofAdditions prior) surface perm kinds
    exact ⟨endpoints, plurals, fun requested group version kind selected =>
      resolve_grouped_congr indexed indexed' endpoints plurals selected kind⟩

/-- Collections of a group, a sub-resource listed before its collection, and an entry that only
declares a type. -/
def workloadListing : ResourceListing where
  resources := [
    { name := "deployments/scale", kind := "Scale", group := some "autoscaling", verbs := ["get"] },
    { name := "deployments", kind := "Deployment", namespaced := true, verbs := ["get", "list"] },
    { name := "rollbacks", kind := "Deployment" },
    { name := "replicasets", kind := "ReplicaSet", namespaced := true, verbs := ["get"] },
    { name := "daemonsets", kind := "DaemonSet", namespaced := true, verbs := ["get"] }]

/-- The same list with the sub-resource behind all collections. -/
def workloadListingMoved : ResourceListing where
  resources := workloadListing.resources.drop 1 ++ workloadListing.resources.take 1

def workloadListingReversed : ResourceListing where
  resources := workloadListing.resources.reverse

/-- Moving the sub-resource changes nothing, turning the list round only the order. -/
theorem addListing_perm_workloads :
    let prior : List Addition := [.listing ⟨"apis", some "apps", "v1"⟩
      { resources := [{ name := "replicasets", kind := "ReplicaSet", verbs := ["list"] }] }]
    let added := (ofAdditions prior).addListing ⟨"apis", some "apps", "v1"⟩
    let listed := added workloadListing
    let moved := added workloadListingMoved
    let reversed := added workloadListingReversed
    workloadListing.resources.Perm workloadListingMoved.resources ∧
    workloadListing.resources.Perm workloadListingReversed.resources ∧
    listed.endpoints.map (fun endpoint => (endpoint.pluralName, endpoint.verbs, endpoint.capabilities))
      = [("replicasets", ["list", "get"], []), ("deployments", ["get", "list"], ["scale"]),
        ("daemonsets", ["get"], [])] ∧
    listed.endpoints = moved.endpoints ∧ listed.types.Perm reversed.types ∧
    listed.endpoints ≠ reversed.endpoints ∧ listed.endpoints.Perm reversed.endpoints ∧
    listed.resolve (some "apps/v1") "Deployment" = reversed.resolve (some "apps/v1") "Deployment" := by
  intro prior added listed moved reversed
  have permMoved : workloadListing.resources.Perm workloadListingMoved.resources := by decide
  have permReversed : workloadListing.resources.Perm workloadListingReversed.resources :=
    (List.reverse_perm _).symm
  have toMoved := (addListing_perm prior ⟨"apis", some "apps", "v1"⟩ permMoved).2.1 (by decide)
  have toReversed := addListing_perm prior ⟨"apis", some "apps", "v1"⟩ permReversed
  have alike := toReversed.2.2 (by decide) (by decide)
  exact ⟨permMoved, permReversed, by decide, toMoved.1, toReversed.1, by decide, alike.1,
    alike.2.2 (some "apps/v1") "apps" "v1" "Deployment" (by decide)⟩

end Catalog

end ClusterClient
