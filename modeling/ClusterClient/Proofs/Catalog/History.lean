import ClusterClient.Proofs.Catalog.Content

namespace ClusterClient.Catalog

/-- One thing that a catalog is built from. -/
inductive Addition where
  | group (group : ApiGroup)
  | listing (surface : Surface) (listing : ResourceListing)

def add (catalog : Catalog) : Addition → Catalog
  | .group group => catalog.addGroup group
  | .listing surface listing => catalog.addListing surface listing

/-- The catalog that some additions build, one after the other, from nothing. -/
def ofAdditions (additions : List Addition) : Catalog := additions.foldl add {}

/-- The served entries of an addition in the order of its list. -/
def Addition.served : Addition → List (Surface × ResourceEntry)
  | .group _ => []
  | .listing surface list => (list.resources.filter (·.isServed)).map (surface, ·)

/-- The served entries of some additions in the order in which they come. -/
def served (additions : List Addition) : List (Surface × ResourceEntry) :=
  additions.flatMap Addition.served

/-- A list names a sub-resource of a collection, and is not older than the first one that serves the
collection. -/
def TellsSubresource (additions : List Addition) (key : EndpointKey) (suffix : String) : Prop :=
  ∃ before surface listing after, additions = before ++ .listing surface listing :: after ∧
    surface = ⟨key.addressPrefix, key.groupName, key.version⟩ ∧
    (∃ entry ∈ listing.resources, entry.name = key.pluralName ++ "/" ++ suffix) ∧
    ∃ item ∈ served (before ++ [.listing surface listing]),
      item.1 = surface ∧ item.2.name = key.pluralName

/-- What a catalog holds after some additions. -/
structure Records (catalog : Catalog) (additions : List Addition) : Prop where
  /-- There is an endpoint for exactly the collections that a list of their surface serves. -/
  mem_iff : ∀ key, key ∈ catalog.endpoints.map Endpoint.key ↔
    ∃ surface listing, .listing surface listing ∈ additions ∧
      surface = ⟨key.addressPrefix, key.groupName, key.version⟩ ∧
      ∃ entry ∈ listing.resources,
        entry.name = key.pluralName ∧ '/' ∉ entry.name.toList ∧ entry.verbs ≠ []
  /-- Endpoints stand in the order of their first entries. -/
  order : catalog.endpoints.map Endpoint.key = ((served additions).map fun item =>
    (⟨item.1.addressPrefix, item.1.groupName, item.1.version, item.2.name⟩ : EndpointKey)).eraseDups
  /-- The first entry of an endpoint tells its kind and its place, and all of them its verbs. -/
  entries : ∀ endpoint ∈ catalog.endpoints, ∃ first later,
    ((served additions).filter fun item =>
      item.1 = endpoint.surface && item.2.name = endpoint.pluralName).map (·.2) = first :: later ∧
    endpoint.kind = first.kind ∧ endpoint.namespaced = first.namespaced ∧
    endpoint.verbs = first.verbs
      ++ ((later.flatMap (·.verbs)).filter (· ∉ first.verbs)).eraseDups
  /-- The sub-resources of an endpoint are those that its own list and later ones name. -/
  capabilities : ∀ endpoint ∈ catalog.endpoints, endpoint.capabilities.Pairwise (· < ·) ∧
    ∀ suffix, suffix ∈ endpoint.capabilities ↔ TellsSubresource additions endpoint.key suffix
  /-- The first entry of a kind tells its collection name, whatever the prefix. -/
  plurals : ∀ kind group version, catalog.pluralFor kind group version =
    (((served additions).find? fun item => item.1.groupName = group && item.1.version = version
      && item.2.kind = kind).map (·.2.name)).getD (Kind.plural kind)

/-- The entries of an addition in the order in which they are merged. -/
def Addition.merged : Addition → List (Surface × ResourceEntry)
  | .group _ => []
  | .listing surface list => list.merged surface

theorem ofAdditions_append (additions : List Addition) (addition : Addition) :
    ofAdditions (additions ++ [addition]) = (ofAdditions additions).add addition := by
  rw [ofAdditions, List.foldl_append]
  rfl

/-- A catalog is what its entries make it, groups aside. -/
theorem ofAdditions_eq (additions : List Addition) :
    ofAdditions additions = { (additions.flatMap Addition.merged).foldl addEntry {} with
      groups := (ofAdditions additions).groups } := by
  induction additions using List.reverseRecOn with
  | nil => rfl
  | append_singleton additions addition ih =>
    rw [ofAdditions_append, List.flatMap_append, List.foldl_append]
    cases addition with
    | group group =>
      have nothing : [Addition.group group].flatMap Addition.merged = [] := rfl
      rw [nothing, List.foldl_nil, add, addGroup]
      split
      · exact ih
      · exact congrArg (fun catalog : Catalog =>
          { catalog with groups := (ofAdditions additions).groups ++ [group] }) ih
    | listing surface listing =>
      rw [add, addListing_eq_foldl, ih, foldl_addEntry_withGroups]
      simp [Addition.merged]

theorem ofAdditions_endpoints (additions : List Addition) :
    (ofAdditions additions).endpoints
      = ((additions.flatMap Addition.merged).foldl addEntry {}).endpoints := by
  rw [ofAdditions_eq]

theorem ofAdditions_indexed (additions : List Addition) : (ofAdditions additions).Indexed := by
  have indexed := foldl_addEntry_indexed indexed_empty (additions.flatMap Addition.merged)
  rw [ofAdditions_eq]
  exact ⟨indexed.endpoints, indexed.types⟩

theorem served_eq_filter (additions : List Addition) :
    served additions = (additions.flatMap Addition.merged).filter (·.2.isServed) := by
  rw [served, List.filter_flatMap]
  refine congrArg (additions.flatMap ·) (funext fun addition => ?_)
  cases addition with
  | group => rfl
  | listing surface listing =>
    have kept : listing.resources.filter (fun entry => entry.isServed && entry.suffix?.isNone)
        = listing.resources.filter (·.isServed) := by
      refine List.filter_congr fun entry _ => ?_
      cases served : entry.isServed with
      | false => rfl
      | true => simp [(entry.isServed_iff.mp served).1]
    have dropped : listing.resources.filter (fun entry => entry.isServed && entry.suffix?.isSome)
        = [] := by
      refine List.filter_eq_nil_iff.mpr fun entry _ both => ?_
      simp only [Bool.and_eq_true, entry.isServed_iff] at both
      simp [both.1.1] at both
    simp only [Addition.served, Addition.merged, merged_eq, List.filter_append, List.filter_map,
      List.filter_filter, Function.comp_def, kept, dropped, List.map_nil, List.append_nil]

theorem entryKey_of_served {surface : Surface} {entry : ResourceEntry} (served : entry.isServed) :
    surface.entryKey entry =
      ⟨surface.addressPrefix, surface.groupName, surface.version, entry.name⟩ := by
  rw [Surface.entryKey, entry.base_eq_name (entry.isServed_iff.mp served).1]

theorem isServed_of_mem {additions : List Addition} {item : Surface × ResourceEntry}
    (member : item ∈ served additions) : item.2.isServed := by
  rw [served_eq_filter] at member
  exact (List.mem_filter.mp member).2

theorem mem_served {additions : List Addition} {item : Surface × ResourceEntry} :
    item ∈ served additions ↔ ∃ listing, .listing item.1 listing ∈ additions ∧
      item.2 ∈ listing.resources ∧ item.2.isServed := by
  obtain ⟨surface, entry⟩ := item
  simp only [served, List.mem_flatMap]
  constructor
  · rintro ⟨addition, member, inside⟩
    cases addition with
    | group => cases inside
    | listing other listing =>
      obtain ⟨entry', kept, same⟩ := List.mem_map.mp inside
      cases same
      exact ⟨listing, member, List.mem_filter.mp kept⟩
  · rintro ⟨listing, member, inside⟩
    exact ⟨_, member, List.mem_map_of_mem (List.mem_filter.mpr inside)⟩

theorem ofAdditions_keys (additions : List Addition) :
    (ofAdditions additions).endpoints.map Endpoint.key = ((served additions).map fun item =>
      (⟨item.1.addressPrefix, item.1.groupName, item.1.version, item.2.name⟩ : EndpointKey)).eraseDups := by
  rw [ofAdditions_endpoints, foldl_keys, ← served_eq_filter]
  refine congrArg List.eraseDups (List.map_congr_left fun item member => ?_)
  exact entryKey_of_served (isServed_of_mem member)

theorem ofAdditions_mem_keys {additions : List Addition} {key : EndpointKey} :
    key ∈ (ofAdditions additions).endpoints.map Endpoint.key ↔ ∃ item ∈ served additions,
      item.1 = ⟨key.addressPrefix, key.groupName, key.version⟩ ∧ item.2.name = key.pluralName := by
  rw [ofAdditions_keys, List.mem_eraseDups, List.mem_map]
  refine exists_congr fun item => and_congr_right fun _ => ?_
  obtain ⟨⟨addressPrefix, groupName, version⟩, entry⟩ := item
  obtain ⟨keyPrefix, keyGroup, keyVersion, keyPlural⟩ := key
  simp [and_assoc]

theorem servedEntries_merged (additions : List Addition) (key : EndpointKey) :
    servedEntries key (additions.flatMap Addition.merged) = ((served additions).filter fun item =>
      item.1 = (⟨key.addressPrefix, key.groupName, key.version⟩ : Surface)
        && item.2.name = key.pluralName).map (·.2) := by
  rw [servedEntries, served_eq_filter, List.filter_filter]
  refine congrArg (List.map Prod.snd) (List.filter_congr fun item _ => ?_)
  cases served : item.2.isServed with
  | false => simp
  | true =>
    rw [entryKey_of_served served]
    obtain ⟨⟨addressPrefix, groupName, version⟩, entry⟩ := item
    obtain ⟨keyPrefix, keyGroup, keyVersion, keyPlural⟩ := key
    simp [Bool.and_assoc]

theorem entryKey_eq_iff {surface : Surface} {entry : ResourceEntry} {key : EndpointKey}
    {suffix : String} :
    surface.entryKey entry = key ∧ entry.suffix? = some suffix ↔
      surface = ⟨key.addressPrefix, key.groupName, key.version⟩ ∧ '/' ∉ key.pluralName.toList ∧
        entry.name = key.pluralName ++ "/" ++ suffix := by
  obtain ⟨addressPrefix, groupName, version⟩ := surface
  obtain ⟨keyPrefix, keyGroup, keyVersion, keyPlural⟩ := key
  simp only [Surface.entryKey, EndpointKey.mk.injEq, Surface.mk.injEq,
    ← entry.suffix?_eq_some_iff]
  tauto

theorem tellsSubresource_append (additions : List Addition) (addition : Addition)
    (key : EndpointKey) (suffix : String) :
    TellsSubresource (additions ++ [addition]) key suffix ↔ TellsSubresource additions key suffix ∨
      ∃ listing, addition = .listing ⟨key.addressPrefix, key.groupName, key.version⟩ listing ∧
        (∃ entry ∈ listing.resources, entry.name = key.pluralName ++ "/" ++ suffix) ∧
        key ∈ (ofAdditions (additions ++ [addition])).endpoints.map Endpoint.key := by
  rw [ofAdditions_mem_keys]
  constructor
  · rintro ⟨before, surface, listing, after, split, rfl, named, served⟩
    rcases List.eq_nil_or_concat after with rfl | ⟨after, last, rfl⟩
    · obtain ⟨rfl, same⟩ := List.append_inj' split rfl
      cases same
      exact Or.inr ⟨listing, rfl, named, served⟩
    · rw [List.concat_eq_append, ← List.cons_append, ← List.append_assoc] at split
      obtain ⟨rfl, _⟩ := List.append_inj' split rfl
      exact Or.inl ⟨before, _, listing, after, rfl, rfl, named, served⟩
  · rintro (⟨before, surface, listing, after, rfl, same, named, served⟩ |
      ⟨listing, rfl, named, served⟩)
    · exact ⟨before, surface, listing, after ++ [addition], by simp, same, named, served⟩
    · exact ⟨additions, _, listing, [], rfl, rfl, named, served⟩

theorem holds_iff_tellsSubresource (additions : List Addition) (key : EndpointKey)
    (suffix : String) :
    (ofAdditions additions).Holds key suffix ↔ TellsSubresource additions key suffix := by
  induction additions using List.reverseRecOn with
  | nil => simp [ofAdditions, Holds, TellsSubresource]
  | append_singleton additions addition ih =>
    rw [tellsSubresource_append, ← ih]
    cases addition with
    | group group =>
      have same : (ofAdditions (additions ++ [.group group])).endpoints
          = (ofAdditions additions).endpoints := by
        rw [ofAdditions_append, add, addGroup]
        split <;> rfl
      simp [Holds, same]
    | listing surface listing =>
      have told := addListing_holds_iff (ofAdditions_indexed additions) surface listing key suffix
      rw [ofAdditions_append, add, told]
      refine or_congr_right ?_
      constructor
      · rintro ⟨present, entry, member, about⟩
        obtain ⟨rfl, _, named⟩ := entryKey_eq_iff.mp about
        exact ⟨listing, rfl, ⟨entry, member, named⟩, present⟩
      · rintro ⟨_, same, ⟨entry, member, named⟩, present⟩
        cases same
        have plain : '/' ∉ key.pluralName.toList := by
          rw [← add, ← ofAdditions_append, ofAdditions_mem_keys] at present
          obtain ⟨item, inside, _, name⟩ := present
          rw [← name]
          exact (of_decide_eq_true (isServed_of_mem inside)).1
        exact ⟨present, entry, member, entryKey_eq_iff.mpr ⟨rfl, plain, named⟩⟩

theorem ofAdditions_records (additions : List Addition) :
    (ofAdditions additions).Records additions where
  mem_iff key := by
    rw [ofAdditions_mem_keys]
    constructor
    · rintro ⟨⟨surface, entry⟩, member, same, name⟩
      obtain ⟨listing, listed, inside, served⟩ := mem_served.mp member
      have both := of_decide_eq_true served
      exact ⟨surface, listing, listed, same, entry, inside, name, both⟩
    · rintro ⟨surface, listing, listed, same, entry, inside, name, both⟩
      exact ⟨(surface, entry), mem_served.mpr ⟨listing, listed, inside, decide_eq_true both⟩, same, name⟩
  order := ofAdditions_keys additions
  entries := by
    intro endpoint member
    rw [ofAdditions_endpoints] at member
    obtain ⟨first, later, entries, kind, namespaced, verbs⟩ := foldl_endpoint _ member
    rw [servedEntries_merged] at entries
    exact ⟨first, later, entries, kind, namespaced, verbs.trans (mergeVerbs_eq _ _)⟩
  capabilities := by
    intro endpoint member
    refine ⟨foldl_sorted _ endpoint (by rwa [← ofAdditions_endpoints]), fun suffix => ?_⟩
    rw [← holds_iff_tellsSubresource]
    constructor
    · exact fun told => ⟨endpoint, member, rfl, told⟩
    · rintro ⟨other, present, same, told⟩
      rwa [(ofAdditions_indexed additions).endpoints.eq_of_key_eq present member same] at told
  plurals := by
    intro kind group version
    rw [pluralFor, ofAdditions_eq, served_eq_filter, List.find?_filter]
    simp only [foldl_lookup_plurals, List.lookup_nil, Option.none_or, Surface.kindKey,
      TypeKey.mk.injEq, Bool.decide_and, Bool.and_assoc, Bool.decide_eq_true]

end ClusterClient.Catalog
