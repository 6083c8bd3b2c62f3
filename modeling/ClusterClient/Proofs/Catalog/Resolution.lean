import ClusterClient.Proofs.Catalog.History
import ClusterClient.Proofs.Catalog.Restriction

namespace ClusterClient

theorem Endpoint.matchesKind_iff (endpoint : Endpoint) (kind : String) :
    endpoint.matchesKind kind ↔ endpoint.kind = kind ∨ endpoint.pluralName = Kind.plural kind := by
  simp [matchesKind]

namespace Catalog

/-- The lists of groups are all under the prefix of the groups. -/
def IsGrouped (additions : List Addition) : Prop :=
  ∀ surface listing, .listing surface listing ∈ additions →
    surface.groupName.isSome → surface.addressPrefix = Surface.groupedPrefix

/-- The served entries of a surface in the order in which they come. -/
def servedAt (additions : List Addition) (surface : Surface) : List ResourceEntry :=
  ((served additions).filter fun item => item.1 = surface).map (·.2)

variable {additions : List Addition}

theorem mem_servedAt {surface : Surface} {entry : ResourceEntry} :
    entry ∈ servedAt additions surface ↔ ∃ listing, .listing surface listing ∈ additions ∧
      entry ∈ listing.resources ∧ '/' ∉ entry.name.toList ∧ entry.verbs ≠ [] := by
  have inside : entry ∈ servedAt additions surface ↔ (surface, entry) ∈ served additions := by
    simp [servedAt]
  rw [inside, mem_served]
  refine exists_congr fun listing => and_congr_right fun _ => and_congr_right fun _ => ?_
  exact decide_eq_true_iff

/-- An endpoint is of the kind of an entry of its own surface that has its name. -/
theorem kind_of_mem_endpoints {endpoint : Endpoint}
    (member : endpoint ∈ (ofAdditions additions).endpoints) :
    ∃ entry ∈ servedAt additions endpoint.surface,
      entry.name = endpoint.pluralName ∧ entry.kind = endpoint.kind := by
  rw [ofAdditions_endpoints] at member
  obtain ⟨first, later, entries, kind, -⟩ := foldl_endpoint _ member
  rw [servedEntries_merged] at entries
  have head : first ∈ first :: later := List.mem_cons_self
  rw [← entries] at head
  obtain ⟨item, kept, rfl⟩ := List.mem_map.mp head
  obtain ⟨listed, place⟩ := List.mem_filter.mp kept
  simp only [Bool.and_eq_true, decide_eq_true_eq] at place
  refine ⟨item.2, List.mem_map.mpr ⟨item, List.mem_filter.mpr ⟨listed, ?_⟩, rfl⟩, place.2, kind.symm⟩
  exact decide_eq_true place.1

theorem mem_endpoints_of_servedAt {surface : Surface} {entry : ResourceEntry}
    (member : entry ∈ servedAt additions surface) :
    ∃ endpoint ∈ (ofAdditions additions).endpoints, endpoint.key =
      ⟨surface.addressPrefix, surface.groupName, surface.version, entry.name⟩ := by
  obtain ⟨item, kept, rfl⟩ := List.mem_map.mp member
  obtain ⟨listed, place⟩ := List.mem_filter.mp kept
  exact List.mem_map.mp (ofAdditions_mem_keys.mpr ⟨item, listed, of_decide_eq_true place, rfl⟩)

/-- Under one prefix the collection name of a kind is told by the surface itself. -/
theorem pluralFor_servedAt (grouped : IsGrouped additions) (group version kind : String) :
    (ofAdditions additions).pluralFor kind (some group) version =
      (((servedAt additions ⟨Surface.groupedPrefix, some group, version⟩).find?
        (·.kind = kind)).map (·.name)).getD (Kind.plural kind) := by
  have told : ((additions.flatMap Addition.merged).find? fun item =>
        item.2.isServed && item.1.kindKey item.2 = (⟨some group, version, kind⟩ : TypeKey))
      = (served additions).find? fun item =>
          item.1 = (⟨Surface.groupedPrefix, some group, version⟩ : Surface) && item.2.kind = kind := by
    rw [served_eq_filter, List.find?_filter]
    refine List.find?_congr fun item member => ?_
    cases isServed : item.2.isServed with
    | false => rfl
    | true =>
      have inside : item ∈ served additions := by
        rw [served_eq_filter]
        exact List.mem_filter.mpr ⟨member, isServed⟩
      obtain ⟨listing, listed, -⟩ := mem_served.mp inside
      have place := grouped item.1 listing listed
      obtain ⟨⟨addressPrefix, groupName, itemVersion⟩, entry⟩ := item
      by_cases same : groupName = some group
      · have underGroups : addressPrefix = Surface.groupedPrefix := place (by simp [same])
        simp [Surface.kindKey, same, underGroups]
      · simp [Surface.kindKey, same]
  rw [pluralFor, ofAdditions_eq]
  simp only [foldl_lookup_plurals, List.lookup_nil, Option.none_or, told]
  simp only [servedAt, List.find?_map, List.find?_filter, Option.map_map, Function.comp_def,
    decide_eq_true_eq, Bool.decide_and]

/-- A version of a group resolves a kind to the endpoint of its collection name. -/
theorem resolve_eq_find? {group : String} (plain : '/' ∉ group.toList) (version kind : String) :
    (ofAdditions additions).resolve (some (group ++ "/" ++ version)) kind =
      (ofAdditions additions).endpoints.find? fun endpoint =>
        endpoint.key = ⟨Surface.groupedPrefix, some group, version,
          (ofAdditions additions).pluralFor kind (some group) version⟩ := by
  simp only [resolve, VersionSelector.ofRequest_grouped plain,
    endpointAt?_eq_find? (ofAdditions_indexed additions)]

theorem key_of_resolve {group version kind : String} (plain : '/' ∉ group.toList)
    {endpoint : Endpoint}
    (found : (ofAdditions additions).resolve (some (group ++ "/" ++ version)) kind = some endpoint) :
    endpoint ∈ (ofAdditions additions).endpoints ∧ endpoint.key = ⟨Surface.groupedPrefix, some group,
      version, (ofAdditions additions).pluralFor kind (some group) version⟩ := by
  rw [resolve_eq_find? plain] at found
  have atKey := List.find?_some found
  exact ⟨List.mem_of_find?_eq_some found, of_decide_eq_true atKey⟩

/-- A kind resolves once an entry serves the collection of its name. -/
theorem exists_resolve {group version kind : String} (plain : '/' ∉ group.toList)
    {entry : ResourceEntry}
    (member : entry ∈ servedAt additions ⟨Surface.groupedPrefix, some group, version⟩)
    (name : entry.name = (ofAdditions additions).pluralFor kind (some group) version) :
    ∃ endpoint, (ofAdditions additions).resolve (some (group ++ "/" ++ version)) kind
      = some endpoint := by
  obtain ⟨endpoint, present, key⟩ := mem_endpoints_of_servedAt member
  rw [resolve_eq_find? plain, ← Option.isSome_iff_exists, List.find?_isSome]
  refine ⟨endpoint, present, decide_eq_true ?_⟩
  rw [key, name]

/-- A kind that an entry of the surface serves resolves to the collection of its first entry. -/
theorem resolve_of_served (grouped : IsGrouped additions) {group : String}
    (plain : '/' ∉ group.toList) {version kind : String} {entry : ResourceEntry}
    (member : entry ∈ servedAt additions ⟨Surface.groupedPrefix, some group, version⟩)
    (sameKind : entry.kind = kind) :
    ∃ first endpoint, (servedAt additions ⟨Surface.groupedPrefix, some group, version⟩).find?
        (·.kind = kind) = some first ∧
      (ofAdditions additions).resolve (some (group ++ "/" ++ version)) kind = some endpoint ∧
      endpoint ∈ (ofAdditions additions).endpoints ∧
      endpoint.key = ⟨Surface.groupedPrefix, some group, version, first.name⟩ := by
  have plural := pluralFor_servedAt grouped group version kind
  have present : ((servedAt additions ⟨Surface.groupedPrefix, some group, version⟩).find?
      (·.kind = kind)).isSome := List.find?_isSome.mpr ⟨entry, member, decide_eq_true sameKind⟩
  obtain ⟨first, told⟩ := Option.isSome_iff_exists.mp present
  rw [told, Option.map_some, Option.getD_some] at plural
  obtain ⟨endpoint, found⟩ := exists_resolve plain (List.mem_of_find?_eq_some told) plural.symm
  obtain ⟨inside, key⟩ := key_of_resolve plain found
  exact ⟨first, endpoint, told, found, inside, by rw [key, plural]⟩

/-- An endpoint of a group stands under the prefix of the groups. -/
theorem surface_of_groupName (grouped : IsGrouped additions) {endpoint : Endpoint} {group : String}
    (member : endpoint ∈ (ofAdditions additions).endpoints)
    (named : endpoint.groupName = some group) :
    endpoint.surface = ⟨Surface.groupedPrefix, some group, endpoint.version⟩ := by
  obtain ⟨entry, inside, -⟩ := kind_of_mem_endpoints member
  obtain ⟨listing, listed, -⟩ := mem_servedAt.mp inside
  have place : endpoint.addressPrefix = Surface.groupedPrefix :=
    grouped endpoint.surface listing listed (Option.isSome_iff_exists.mpr ⟨group, named⟩)
  rw [Endpoint.surface, place, named]

/-- No collection of a surface is listed under two kinds. -/
def OneKindEach (additions : List Addition) (surface : Surface) : Prop :=
  ∀ one ∈ servedAt additions surface, ∀ other ∈ servedAt additions surface,
    one.name = other.name → one.kind = other.kind

theorem matchesKind_of_resolve (grouped : IsGrouped additions) {group version kind : String}
    (plain : '/' ∉ group.toList)
    (oneKind : OneKindEach additions ⟨Surface.groupedPrefix, some group, version⟩)
    {endpoint : Endpoint}
    (found : (ofAdditions additions).resolve (some (group ++ "/" ++ version)) kind = some endpoint) :
    endpoint.matchesKind kind := by
  have plural := pluralFor_servedAt grouped group version kind
  obtain ⟨inside, key⟩ := key_of_resolve plain found
  have name : endpoint.pluralName = (ofAdditions additions).pluralFor kind (some group) version :=
    congrArg EndpointKey.pluralName key
  rw [Endpoint.matchesKind_iff]
  cases told : (servedAt additions ⟨Surface.groupedPrefix, some group, version⟩).find?
      (·.kind = kind) with
  | none =>
    rw [told, Option.map_none, Option.getD_none] at plural
    exact Or.inr (name.trans plural)
  | some first =>
    rw [told, Option.map_some, Option.getD_some] at plural
    obtain ⟨entry, member, sameName, sameKind⟩ := kind_of_mem_endpoints inside
    rw [Endpoint.surface_of_key_eq key] at member
    have firstKind : first.kind = kind := by simpa using List.find?_some told
    have agree := oneKind entry member first (List.mem_of_find?_eq_some told)
      (sameName.trans (name.trans plural))
    exact Or.inl (sameKind.symm.trans (agree.trans firstKind))

/-- Where an endpoint fits a kind, looking the kind up finds one. -/
theorem resolve_of_matchesKind (grouped : IsGrouped additions) {group kind : String}
    (plain : '/' ∉ group.toList) {endpoint : Endpoint}
    (inside : endpoint ∈ (ofAdditions additions).endpoints)
    (named : endpoint.groupName = some group) (fitting : endpoint.matchesKind kind) :
    ∃ other, (ofAdditions additions).resolve (some (group ++ "/" ++ endpoint.version)) kind
      = some other := by
  obtain ⟨entry, member, sameName, sameKind⟩ := kind_of_mem_endpoints inside
  rw [surface_of_groupName grouped inside named] at member
  by_cases isServed : ∃ other ∈
      servedAt additions ⟨Surface.groupedPrefix, some group, endpoint.version⟩, other.kind = kind
  · obtain ⟨other, there, otherKind⟩ := isServed
    obtain ⟨-, resolved, -, found, -⟩ := resolve_of_served grouped plain there otherKind
    exact ⟨resolved, found⟩
  · -- No entry tells the collection name, so the plural of the kind names the endpoint.
    have told : (servedAt additions ⟨Surface.groupedPrefix, some group, endpoint.version⟩).find?
        (·.kind = kind) = none := by
      simpa using isServed
    have plural := pluralFor_servedAt grouped group endpoint.version kind
    rw [told, Option.map_none, Option.getD_none] at plural
    have byPlural : endpoint.pluralName = Kind.plural kind := by
      rcases (endpoint.matchesKind_iff kind).mp fitting with same | byPlural
      · exact absurd ⟨entry, member, sameKind.trans same⟩ isServed
      · exact byPlural
    exact exists_resolve plain member (sameName.trans (byPlural.trans plural.symm))

/-- A served kind of a version of a group resolves to the collection of its first entry. Where no
collection is listed under two kinds, looking it up and looking for an endpoint that fits agree. -/
theorem resolve_groupVersion (grouped : IsGrouped additions) {group : String}
    (plain : '/' ∉ group.toList) (version kind : String) :
    let catalog := ofAdditions additions
    let surface : Surface := ⟨Surface.groupedPrefix, some group, version⟩
    let found := catalog.resolve (some (group ++ "/" ++ version)) kind
    ((∃ listing, .listing surface listing ∈ additions ∧ ∃ entry ∈ listing.resources,
        entry.kind = kind ∧ '/' ∉ entry.name.toList ∧ entry.verbs ≠ []) →
      ∃ first endpoint, (servedAt additions surface).find? (·.kind = kind) = some first ∧
        found = some endpoint ∧ endpoint ∈ catalog.endpoints ∧
        endpoint.key = ⟨Surface.groupedPrefix, some group, version, first.name⟩) ∧
    (OneKindEach additions surface →
      (found.isSome ↔ ∃ endpoint ∈ catalog.endpoints, endpoint.groupName = some group ∧
        endpoint.version = version ∧ endpoint.matchesKind kind) ∧
      ∀ endpoint, found = some endpoint → endpoint.matchesKind kind) := by
  intro catalog surface found
  refine ⟨?_, fun oneKind => ⟨⟨fun resolved => ?_, ?_⟩, ?_⟩⟩
  · rintro ⟨listing, listed, entry, inside, sameKind, isServed⟩
    have member := mem_servedAt.mpr ⟨listing, listed, inside, isServed⟩
    exact resolve_of_served grouped plain member sameKind
  · obtain ⟨endpoint, resolved⟩ := Option.isSome_iff_exists.mp resolved
    obtain ⟨inside, key⟩ := key_of_resolve plain resolved
    have fitting := matchesKind_of_resolve grouped plain oneKind resolved
    exact ⟨endpoint, inside, congrArg EndpointKey.groupName key, congrArg EndpointKey.version key,
      fitting⟩
  · rintro ⟨endpoint, inside, named, rfl, fitting⟩
    exact Option.isSome_iff_exists.mpr (resolve_of_matchesKind grouped plain inside named fitting)
  · exact fun endpoint resolved => matchesKind_of_resolve grouped plain oneKind resolved

/-- Lists of a group with two collections of one kind, beside a list without a group. -/
def deploymentLists : List Addition := [
  .listing ⟨"api", none, "v1"⟩
    { resources := [{ name := "legacydeployments", kind := "Deployment", verbs := ["get"] }] },
  .listing ⟨"apis", some "apps", "v1"⟩ { resources := [
    { name := "deployments/scale", kind := "Deployment", verbs := ["get"] },
    { name := "rollouts", kind := "Deployment", verbs := ["get"] }] },
  .listing ⟨"apis", some "apps", "v1"⟩
    { resources := [{ name := "deployments", kind := "Deployment", verbs := ["list"] }] }]

/-- The collection listed first answers, not the one that the kind's plural would name. -/
theorem resolve_groupVersion_rollouts :
    let catalog := ofAdditions deploymentLists
    IsGrouped deploymentLists ∧ '/' ∉ "apps".toList ∧
      OneKindEach deploymentLists ⟨"apis", some "apps", "v1"⟩ ∧
      (∃ endpoint, catalog.resolve (some "apps/v1") "Deployment" = some endpoint ∧
        endpoint.key = ⟨"apis", some "apps", "v1", "rollouts"⟩ ∧
        endpoint.matchesKind "Deployment") := by
  intro catalog
  have grouped : IsGrouped deploymentLists := by
    intro surface listing member hasGroup
    simp only [deploymentLists, List.mem_cons, List.not_mem_nil, or_false,
      Addition.listing.injEq] at member
    rcases member with ⟨rfl, -⟩ | ⟨rfl, -⟩ | ⟨rfl, -⟩
    · cases hasGroup
    · rfl
    · rfl
  have plain : '/' ∉ "apps".toList := by decide
  have oneKind : OneKindEach deploymentLists ⟨"apis", some "apps", "v1"⟩ := by
    unfold OneKindEach
    decide
  obtain ⟨first, endpoint, told, found, -, key⟩ :=
    (resolve_groupVersion grouped plain "v1" "Deployment").1 ⟨_, List.mem_cons_of_mem _
      (List.mem_cons_self ..), _, List.mem_cons_of_mem _ (List.mem_cons_self ..), by decide⟩
  have fits := ((resolve_groupVersion grouped plain "v1" "Deployment").2 oneKind).2 endpoint found
  have name : first.name = "rollouts" := by
    cases told
    rfl
  exact ⟨grouped, plain, oneKind, endpoint, found, by rw [key, name]; rfl, fits⟩

end Catalog

end ClusterClient
