import ClusterClient.Proofs.Catalog.Repetition
import ClusterClient.Proofs.Catalog.Resolution

namespace ClusterClient

/-- An endpoint is still the one that it was: new verbs stand behind those that it had, and no
sub-resource is lost. -/
structure Endpoint.Continues (later earlier : Endpoint) : Prop where
  key : later.key = earlier.key
  kind : later.kind = earlier.kind
  namespaced : later.namespaced = earlier.namespaced
  verbs : earlier.verbs <+: later.verbs
  capabilities : earlier.capabilities ⊆ later.capabilities

namespace Endpoint

theorem Continues.refl (endpoint : Endpoint) : endpoint.Continues endpoint :=
  ⟨rfl, rfl, rfl, List.prefix_refl _, List.Subset.refl _⟩

theorem Continues.trans {first second third : Endpoint} (later : third.Continues second)
    (earlier : second.Continues first) : third.Continues first where
  key := later.key.trans earlier.key
  kind := later.kind.trans earlier.kind
  namespaced := later.namespaced.trans earlier.namespaced
  verbs := earlier.verbs.trans later.verbs
  capabilities := List.Subset.trans earlier.capabilities later.capabilities

/-- Whatever an entry tells of an endpoint, it takes nothing from it. -/
theorem afterEntry_continues (item : Surface × ResourceEntry) (endpoint : Endpoint) :
    (endpoint.afterEntry item).Continues endpoint where
  key := endpoint.afterEntry_key item
  kind := endpoint.afterEntry_kind item
  namespaced := endpoint.afterEntry_namespaced item
  verbs := by
    rw [Catalog.afterEntry_verbs, Catalog.mergeVerbs_eq]
    exact List.prefix_append _ _
  capabilities _ := Catalog.mem_capabilities_afterEntry

/-- A condition on what an endpoint keeps: its key and its kind. -/
def IsKept (condition : Endpoint → Bool) : Prop :=
  ∀ endpoint other : Endpoint, endpoint.key = other.key → endpoint.kind = other.kind →
    condition endpoint = condition other

theorem isKept_matchesKind (kind : String) : IsKept (·.matchesKind kind) := by
  intro endpoint other sameKey sameKind
  have plural : endpoint.pluralName = other.pluralName := congrArg EndpointKey.pluralName sameKey
  simp only [matchesKind, plural, sameKind]

theorem isKept_matchesSegment (kind segment : String) : IsKept fun endpoint =>
    endpoint.matchesKind kind
      && (endpoint.version == segment || endpoint.groupName == some segment) := by
  intro endpoint other sameKey sameKind
  have version : endpoint.version = other.version := congrArg EndpointKey.version sameKey
  have group : endpoint.groupName = other.groupName := congrArg EndpointKey.groupName sameKey
  simp only [isKept_matchesKind kind endpoint other sameKey sameKind, version, group]

theorem isKept_key (key : EndpointKey) : IsKept fun endpoint => endpoint.key = key := by
  intro endpoint other sameKey _
  simp only [sameKey]

end Endpoint

namespace Catalog

variable {catalog : Catalog} {endpoint : Endpoint}

/-- What is found first among the endpoints is found first after another entry: endpoints keep their
places, and what is new stands behind. -/
theorem find?_addEntry (indexed : catalog.Indexed) {condition : Endpoint → Bool}
    (kept : Endpoint.IsKept condition) (item : Surface × ResourceEntry)
    (found : catalog.endpoints.find? condition = some endpoint) :
    (catalog.addEntry item).endpoints.find? condition = some (endpoint.afterEntry item) := by
  have unchanged : condition ∘ Endpoint.afterEntry item = condition := funext fun known =>
    kept _ _ (known.afterEntry_key item) (known.afterEntry_kind item)
  rw [addEntry_endpoints indexed, List.find?_append, List.find?_map, unchanged, found,
    Option.map_some, Option.some_or]

theorem find?_foldl (indexed : catalog.Indexed) {condition : Endpoint → Bool}
    (kept : Endpoint.IsKept condition) (items : List (Surface × ResourceEntry))
    (found : catalog.endpoints.find? condition = some endpoint) :
    ∃ later, (items.foldl addEntry catalog).endpoints.find? condition = some later ∧
      later.Continues endpoint := by
  induction items generalizing catalog endpoint with
  | nil => exact ⟨endpoint, found, .refl endpoint⟩
  | cons item rest ih =>
    obtain ⟨later, foundLater, continues⟩ :=
      ih (addEntry_indexed indexed item) (find?_addEntry indexed kept item found)
    exact ⟨later, foundLater, continues.trans (endpoint.afterEntry_continues item)⟩

theorem types_prefix_foldl (indexed : catalog.Indexed) (items : List (Surface × ResourceEntry)) :
    catalog.types <+: (items.foldl addEntry catalog).types := by
  induction items generalizing catalog with
  | nil => exact List.prefix_refl _
  | cons item rest ih =>
    refine List.IsPrefix.trans ?_ (ih (addEntry_indexed indexed item))
    rw [addEntry_types, addType_types indexed]
    exact List.prefix_append _ _

/-- A type that was resolved stays resolved, to the same descriptor. -/
theorem resolveType_foldl (indexed : catalog.Indexed) (items : List (Surface × ResourceEntry))
    {version : Option String} {kind : String} {type : TypeDescriptor}
    (found : catalog.resolveType version kind = some type) :
    (items.foldl addEntry catalog).resolveType version kind = some type := by
  have extended := types_prefix_foldl indexed items
  have later := foldl_addEntry_indexed indexed items
  unfold resolveType at found ⊢
  split at found
  · exact extended.find?_eq_some found
  · exact extended.find?_eq_some found
  · rw [typeAt?, indexed.types.lookup_bind] at found
    rw [typeAt?, later.types.lookup_bind]
    exact extended.find?_eq_some found

/-- Without a version of a group a kind stays resolved, to the endpoint that answered at first. -/
theorem resolve_foldl_of_not_grouped (indexed : catalog.Indexed)
    (items : List (Surface × ResourceEntry)) {version : Option String} {kind : String}
    (ungrouped : ∀ group number, VersionSelector.ofRequest version ≠ .grouped group number)
    (found : catalog.resolve version kind = some endpoint) :
    ∃ later, (items.foldl addEntry catalog).resolve version kind = some later ∧
      later.Continues endpoint := by
  unfold resolve at found ⊢
  split at found
  · exact find?_foldl indexed (Endpoint.isKept_matchesKind kind) items found
  · next segment _ => exact find?_foldl indexed (Endpoint.isKept_matchesSegment kind segment) items found
  · next group number selected => exact absurd selected (ungrouped group number)

/-- While the collection name of its kind stays the same, a kind at a version of a group stays
resolved too. -/
theorem resolve_foldl_of_pluralFor (indexed : catalog.Indexed)
    (items : List (Surface × ResourceEntry)) {version : Option String} {kind group number : String}
    (selected : VersionSelector.ofRequest version = .grouped group number)
    (plural : (items.foldl addEntry catalog).pluralFor kind (some group) number
      = catalog.pluralFor kind (some group) number)
    (found : catalog.resolve version kind = some endpoint) :
    ∃ later, (items.foldl addEntry catalog).resolve version kind = some later ∧
      later.Continues endpoint := by
  simp only [resolve, selected, endpointAt?_eq_find? indexed] at found
  simp only [resolve, selected, endpointAt?_eq_find? (foldl_addEntry_indexed indexed items), plural]
  exact find?_foldl indexed (Endpoint.isKept_key _) items found

/-- A collection name that an entry tells first is that of an endpoint, if groups stand under their
own prefix. -/
theorem resolve_foldl_of_told (indexed : catalog.Indexed) {items : List (Surface × ResourceEntry)}
    {item : Surface × ResourceEntry} {version : Option String} {kind group number : String}
    (selected : VersionSelector.ofRequest version = .grouped group number)
    (member : item ∈ items) (served : item.2.isServed)
    (place : item.1 = ⟨Surface.groupedPrefix, some group, number⟩)
    (plural : (items.foldl addEntry catalog).pluralFor kind (some group) number = item.2.name) :
    ∃ later, (items.foldl addEntry catalog).resolve version kind = some later ∧
      later.key = ⟨Surface.groupedPrefix, some group, number, item.2.name⟩ := by
  obtain ⟨listed, inside, key, -⟩ := (foldl_knows indexed member).verbs served
  rw [entryKey_of_served served, place] at key
  simp only [resolve, selected, endpointAt?_eq_find? (foldl_addEntry_indexed indexed items), plural]
  have present : ((items.foldl addEntry catalog).endpoints.find? (·.key =
      ⟨Surface.groupedPrefix, some group, number, item.2.name⟩)).isSome :=
    List.find?_isSome.mpr ⟨listed, inside, decide_eq_true key⟩
  obtain ⟨later, found⟩ := Option.isSome_iff_exists.mp present
  have atKey := List.find?_some found
  exact ⟨later, found, of_decide_eq_true atKey⟩

/-- What becomes of a kind that was resolved at a version of a group: its endpoint still answers, or
the kind had no collection name yet and a new entry tells one. -/
theorem resolve_foldl_of_grouped (indexed : catalog.Indexed)
    {items : List (Surface × ResourceEntry)}
    (grouped : ∀ item ∈ items, item.1.groupName.isSome → item.1.addressPrefix = Surface.groupedPrefix)
    {version : Option String} {kind group number : String}
    (selected : VersionSelector.ofRequest version = .grouped group number)
    (found : catalog.resolve version kind = some endpoint) :
    ∃ later, (items.foldl addEntry catalog).resolve version kind = some later ∧
      (later.Continues endpoint ∨
        catalog.plurals.lookup ⟨some group, number, kind⟩ = none ∧
        ∃ item ∈ items, item.1 = ⟨Surface.groupedPrefix, some group, number⟩ ∧
          item.2.kind = kind ∧ item.2.isServed ∧
          later.key = ⟨Surface.groupedPrefix, some group, number, item.2.name⟩) := by
  have learned := foldl_lookup_plurals items catalog ⟨some group, number, kind⟩
  cases known : catalog.plurals.lookup ⟨some group, number, kind⟩ with
  | some plural =>
    rw [known, Option.some_or] at learned
    have same : (items.foldl addEntry catalog).pluralFor kind (some group) number
        = catalog.pluralFor kind (some group) number := by rw [pluralFor, pluralFor, learned, known]
    obtain ⟨later, foundLater, continues⟩ := resolve_foldl_of_pluralFor indexed items selected same found
    exact ⟨later, foundLater, Or.inl continues⟩
  | none =>
    rw [known, Option.none_or] at learned
    cases told : items.find? fun item =>
        item.2.isServed && item.1.kindKey item.2 = (⟨some group, number, kind⟩ : TypeKey) with
    | none =>
      have same : (items.foldl addEntry catalog).pluralFor kind (some group) number
          = catalog.pluralFor kind (some group) number := by
        rw [pluralFor, pluralFor, learned, told, known, Option.map_none]
      obtain ⟨later, foundLater, continues⟩ :=
        resolve_foldl_of_pluralFor indexed items selected same found
      exact ⟨later, foundLater, Or.inl continues⟩
    | some item =>
      have member := List.mem_of_find?_eq_some told
      have fits := List.find?_some told
      simp only [Bool.and_eq_true, decide_eq_true_eq, Surface.kindKey, TypeKey.mk.injEq] at fits
      obtain ⟨served, sameGroup, sameNumber, sameKind⟩ := fits
      have place : item.1 = ⟨Surface.groupedPrefix, some group, number⟩ := by
        rw [← grouped item member (by rw [sameGroup, Option.isSome_some]), ← sameGroup, ← sameNumber]
      have plural : (items.foldl addEntry catalog).pluralFor kind (some group) number
          = item.2.name := by
        rw [pluralFor, learned, told, Option.map_some, Option.getD_some]
      obtain ⟨later, foundLater, key⟩ := resolve_foldl_of_told indexed selected member served place plural
      exact ⟨later, foundLater, Or.inr ⟨rfl, item, member, place, sameKind, served, key⟩⟩

/-- Resolving does not look at the groups. -/
theorem ofAdditions_resolve (additions : List Addition) (version : Option String) (kind : String) :
    (ofAdditions additions).resolve version kind
      = ((additions.flatMap Addition.merged).foldl addEntry {}).resolve version kind := by
  rw [ofAdditions_eq]
  rfl

theorem ofAdditions_resolveType (additions : List Addition) (version : Option String)
    (kind : String) :
    (ofAdditions additions).resolveType version kind
      = ((additions.flatMap Addition.merged).foldl addEntry {}).resolveType version kind := by
  rw [ofAdditions_eq]
  rfl

theorem mem_flatMap_merged {additions : List Addition} {item : Surface × ResourceEntry} :
    item ∈ additions.flatMap Addition.merged ↔
      ∃ listing, .listing item.1 listing ∈ additions ∧ item.2 ∈ listing.resources := by
  rw [List.mem_flatMap]
  constructor
  · rintro ⟨addition, member, inside⟩
    cases addition with
    | group => cases inside
    | listing surface listing =>
      obtain ⟨rfl, told⟩ := mem_merged.mp inside
      exact ⟨listing, member, told⟩
  · rintro ⟨listing, member, told⟩
    exact ⟨_, member, mem_merged.mpr ⟨rfl, told⟩⟩

/-- A list of a version of a group teaches the collection name of a kind. -/
def Teaches (additions : List Addition) (group version kind plural : String) : Prop :=
  ∃ listing, .listing ⟨Surface.groupedPrefix, some group, version⟩ listing ∈ additions ∧
    ∃ entry ∈ listing.resources, entry.kind = kind ∧ entry.name = plural ∧
      '/' ∉ entry.name.toList ∧ entry.verbs ≠ []

/-- What a catalog resolves it goes on resolving, whatever is added to it. The same endpoint answers,
unless a version of a group was asked for, the kind had no collection name there, and one was taught
since: then the collection of that name answers. Types stay the same. -/
theorem resolve_continues (additions more : List Addition)
    (grouped : IsGrouped (additions ++ more)) :
    let earlier := ofAdditions additions
    let later := ofAdditions (additions ++ more)
    (∀ version kind endpoint, earlier.resolve version kind = some endpoint →
      ∃ found, later.resolve version kind = some found ∧
        (found.Continues endpoint ∨ ∃ group number plural,
          VersionSelector.ofRequest version = .grouped group number ∧
          earlier.plurals.lookup ⟨some group, number, kind⟩ = none ∧
          Teaches more group number kind plural ∧
          found.key = ⟨Surface.groupedPrefix, some group, number, plural⟩)) ∧
    ∀ version kind type, earlier.resolveType version kind = some type →
      later.resolveType version kind = some type := by
  intro earlier later
  have indexed := foldl_addEntry_indexed indexed_empty (additions.flatMap Addition.merged)
  refine ⟨fun version kind endpoint found => ?_, fun version kind type found => ?_⟩
  · rw [ofAdditions_resolve] at found
    rw [ofAdditions_resolve, List.flatMap_append, List.foldl_append]
    by_cases ofGroup : ∃ group number, VersionSelector.ofRequest version = .grouped group number
    · obtain ⟨group, number, selected⟩ := ofGroup
      have places : ∀ item ∈ more.flatMap Addition.merged, item.1.groupName.isSome →
          item.1.addressPrefix = Surface.groupedPrefix := by
        intro item member
        obtain ⟨listing, listed, -⟩ := mem_flatMap_merged.mp member
        exact grouped item.1 listing (List.mem_append_right _ listed)
      obtain ⟨answer, answered, continues | ⟨unknown, item, member, place, sameKind, served, key⟩⟩ :=
        resolve_foldl_of_grouped indexed places selected found
      · exact ⟨answer, answered, Or.inl continues⟩
      · obtain ⟨listing, listed, inside⟩ := mem_flatMap_merged.mp member
        rw [place] at listed
        refine ⟨answer, answered, Or.inr ⟨group, number, item.2.name, selected, ?_, ?_, key⟩⟩
        · rw [show earlier = _ from ofAdditions_eq additions]
          exact unknown
        · exact ⟨listing, listed, item.2, inside, sameKind, rfl, of_decide_eq_true served⟩
    · have ungrouped : ∀ group number, VersionSelector.ofRequest version ≠ .grouped group number :=
        fun group number selected => ofGroup ⟨group, number, selected⟩
      obtain ⟨answer, answered, continues⟩ :=
        resolve_foldl_of_not_grouped indexed (more.flatMap Addition.merged) ungrouped found
      exact ⟨answer, answered, Or.inl continues⟩
  · rw [ofAdditions_resolveType] at found
    rw [ofAdditions_resolveType, List.flatMap_append, List.foldl_append]
    exact resolveType_foldl indexed _ found

/-- A collection whose name is the plural of a kind that no list has told yet. -/
def rolloutList : List Addition := [
  .listing ⟨"apis", some "apps", "v1"⟩
    { resources := [{ name := "deployments", kind := "Rollout", verbs := ["get"] }] }]

/-- A list that tells of the kind, under another name, and of more that there is to the collection. -/
def deploymentList : List Addition := [
  .listing ⟨"apis", some "apps", "v1"⟩ { resources := [
    { name := "workloads", kind := "Deployment", verbs := ["get"] },
    { name := "deployments", kind := "Rollout", verbs := ["list"] },
    { name := "deployments/scale", kind := "Scale", verbs := ["get"] }] }]

/-- By the group alone the first collection goes on answering. By the version of the group the one
that has been taught answers. -/
theorem resolve_continues_deployments :
    let earlier := ofAdditions rolloutList
    let later := ofAdditions (rolloutList ++ deploymentList)
    let endpoint : Endpoint :=
      ⟨"apis", some "apps", "v1", "deployments", "Rollout", false, ["get"], []⟩
    IsGrouped (rolloutList ++ deploymentList) ∧
    earlier.resolve (some "apps") "Deployment" = some endpoint ∧
    (∃ found, later.resolve (some "apps") "Deployment" = some found ∧ found.Continues endpoint) ∧
    earlier.resolve (some "apps/v1") "Deployment" = some endpoint ∧
    (∃ found, later.resolve (some "apps/v1") "Deployment" = some found ∧
      found.key = ⟨"apis", some "apps", "v1", "workloads"⟩) ∧
    later.resolveType (some "apps/v1") "Rollout" = some ⟨"apis", some "apps", "v1", "Rollout"⟩ := by
  intro earlier later endpoint
  have grouped : IsGrouped (rolloutList ++ deploymentList) := by
    intro surface listing member _
    simp only [rolloutList, deploymentList, List.cons_append, List.nil_append, List.mem_cons,
      List.not_mem_nil, or_false, Addition.listing.injEq] at member
    rcases member with ⟨rfl, -⟩ | ⟨rfl, -⟩ <;> rfl
  have byGroup : earlier.resolve (some "apps") "Deployment" = some endpoint := by decide
  have byVersion : earlier.resolve (some "apps/v1") "Deployment" = some endpoint := by decide +kernel
  obtain ⟨resolves, types⟩ := resolve_continues rolloutList deploymentList grouped
  refine ⟨grouped, byGroup, ?_, byVersion, ?_, types _ _ _ (by decide)⟩
  · obtain ⟨found, foundLater, continues | ⟨group, number, plural, selected, -⟩⟩ :=
      resolves _ _ _ byGroup
    · exact ⟨found, foundLater, continues⟩
    · exact absurd selected (by simp [VersionSelector.ofRequest, Text.cut])
  · obtain ⟨found, foundLater, -⟩ := resolves _ _ _ byVersion
    have taught : later.resolve (some "apps/v1") "Deployment"
        = some ⟨"apis", some "apps", "v1", "workloads", "Deployment", false, ["get"], []⟩ := by decide
    rw [taught] at foundLater
    exact ⟨found, taught.trans foundLater, by rw [← Option.some.inj foundLater]; rfl⟩

end Catalog

end ClusterClient
