import ClusterClient.Proofs.Discovery.Surfaces
import ClusterClient.Url.DomainName

namespace ClusterClient

namespace ApiGroup

/-- Whether a group is that of a prefix and a name. -/
def isNamed (addressPrefix : String) (groupName : Option String) (group : ApiGroup) : Bool :=
  group.addressPrefix = addressPrefix ∧ group.groupName = groupName

theorem isNamed_iff {addressPrefix : String} {groupName : Option String} {group : ApiGroup} :
    group.isNamed addressPrefix groupName = true ↔
      group.addressPrefix = addressPrefix ∧ group.groupName = groupName := by
  rw [isNamed, decide_eq_true_iff]

/-- The surfaces of a group, one for each of its versions. -/
def surfaces (group : ApiGroup) : List Surface :=
  group.supportedVersions.map (⟨group.addressPrefix, group.groupName, ·⟩)

theorem mem_surfaces {group : ApiGroup} {surface : Surface} : surface ∈ group.surfaces ↔
    group.isNamed surface.addressPrefix surface.groupName = true ∧
      surface.version ∈ group.supportedVersions := by
  obtain ⟨addressPrefix, groupName, version⟩ := surface
  simp [surfaces, isNamed_iff, and_comm, and_assoc]

end ApiGroup

/-- Of the groups of one prefix and name the first is kept. -/
theorem Catalog.foldl_addGroup_isNamed (groups : List ApiGroup) (addressPrefix : String)
    (groupName : Option String) :
    (groups.foldl addGroup {}).groups.filter (ApiGroup.isNamed addressPrefix groupName)
      = (groups.find? (ApiGroup.isNamed addressPrefix groupName)).toList := by
  induction groups using List.reverseRecOn with
  | nil => rfl
  | append_singleton groups group ih =>
    rw [List.foldl_append, List.foldl_cons, List.foldl_nil, addGroup_groups, List.filter_append, ih,
      List.find?_append]
    by_cases named : group.isNamed addressPrefix groupName = true
    · obtain ⟨rfl, rfl⟩ := ApiGroup.isNamed_iff.mp named
      have known : (∃ known ∈ (groups.foldl addGroup {}).groups,
          known.addressPrefix = group.addressPrefix ∧ known.groupName = group.groupName) ↔
          (groups.foldl addGroup {}).groups.filter
            (ApiGroup.isNamed group.addressPrefix group.groupName) ≠ [] := by
        simp only [ne_eq, List.filter_eq_nil_iff, ApiGroup.isNamed_iff, not_forall, not_not,
          exists_prop]
      rw [ih] at known
      rw [List.find?_singleton, if_pos named]
      cases found : groups.find? (ApiGroup.isNamed group.addressPrefix group.groupName) with
      | some first =>
        rw [if_pos (known.mpr (by simp [found])), List.filter_nil, List.append_nil, Option.some_or]
      | none =>
        rw [if_neg (mt known.mp (by simp [found])), List.filter_cons_of_pos named, Option.none_or]
        rfl
    · have unnamed : ∀ known ∈ (if ∃ known ∈ (groups.foldl addGroup {}).groups,
          known.addressPrefix = group.addressPrefix ∧ known.groupName = group.groupName then []
          else [group]), ¬ known.isNamed addressPrefix groupName = true := by
        intro known member
        split at member
        · cases member
        · rwa [List.mem_singleton.mp member]
      rw [List.filter_eq_nil_iff.mpr unnamed, List.append_nil, List.find?_singleton, if_neg named,
        Option.or_none]

namespace Catalog

/-- Each endpoint is in one group, and that group lists its version. -/
def GroupsCover (catalog : Catalog) : Prop :=
  ∀ endpoint ∈ catalog.endpoints, ∃ group,
    catalog.groups.filter (ApiGroup.isNamed endpoint.addressPrefix endpoint.groupName) = [group] ∧
      endpoint.version ∈ group.supportedVersions

end Catalog

namespace Discovery

/-- Roots whose surfaces are those of their groups. Each group without a name has a prefix of its
own. -/
structure Roots.Paired (roots : Roots) : Prop where
  surfaces : roots.surfaces = roots.groups.flatMap ApiGroup.surfaces
  legacy : ((roots.groups.filter ApiGroup.isLegacy).map (·.addressPrefix)).Nodup

/-- What the legacy prefixes among some tell. -/
structure Roots.OfLegacy (asked : List String) (roots : Roots) : Prop where
  surfaces : roots.surfaces = roots.groups.flatMap ApiGroup.surfaces
  legacy : ∀ group ∈ roots.groups, group.isLegacy = true
  prefixes : (roots.groups.map (·.addressPrefix)).Sublist asked

theorem Roots.OfLegacy.addLegacy {asked : List String} {roots : Roots}
    (told : roots.OfLegacy asked) (addressPrefix : String) (answer : Except Error LegacyRoot) :
    (roots.addLegacy addressPrefix answer).OfLegacy (asked ++ [addressPrefix]) := by
  cases answer with
  | error error => exact ⟨told.surfaces, told.legacy, told.prefixes.trans (List.sublist_append_left _ _)⟩
  | ok root =>
    constructor
    · simp only [Roots.addLegacy, List.flatMap_append, told.surfaces, List.flatMap_singleton]
      rfl
    · simp only [Roots.addLegacy, List.mem_append, List.mem_singleton]
      rintro group (old | rfl)
      · exact told.legacy group old
      · rfl
    · simp only [Roots.addLegacy, List.map_append]
      exact told.prefixes.append (.refl _)

theorem Roots.OfLegacy.addNamed {asked : List String} {roots : Roots} (told : roots.OfLegacy asked)
    (distinct : asked.Nodup) (answer : Except Error GroupRoot) : (roots.addNamed answer).Paired := by
  have legacy : (roots.groups.filter ApiGroup.isLegacy) = roots.groups :=
    List.filter_eq_self.mpr told.legacy
  cases answer with
  | error error =>
    refine ⟨told.surfaces, ?_⟩
    rw [Roots.addNamed, legacy]
    exact distinct.sublist told.prefixes
  | ok root =>
    have named : (root.groups.map namedGroup).filter ApiGroup.isLegacy = [] := by
      rw [List.filter_map, List.map_eq_nil_iff, List.filter_eq_nil_iff]
      exact fun entry _ => Bool.false_ne_true
    constructor
    · simp only [Roots.addNamed, List.flatMap_append, told.surfaces, List.flatMap_map]
      rfl
    · simp only [Roots.addNamed, List.filter_append, legacy, named, List.append_nil]
      exact distinct.sublist told.prefixes

theorem fetchRoots_paired (transport : Transport) (base : String) :
    (fetchRoots transport base).Ensures Roots.Paired := by
  have distinct : Surface.legacyPrefixes.Nodup := by decide
  have nothing : Roots.OfLegacy [] {} := ⟨rfl, fun group member => (by cases member), .slnil⟩
  refine .bind (.foldlM_along (fun asked addressPrefix roots told => ?_) nothing _) fun roots told => ?_
  · exact (Wire.Ensures.anything (transport.fetch _ _)).bind fun answer _ =>
      .pure (told.addLegacy addressPrefix answer)
  · exact (Wire.Ensures.anything (transport.fetch _ _)).bind fun answer _ =>
      .pure (told.addNamed distinct answer)

variable (transport : Transport) (base : String) (sent : List Http.Request)

theorem discover_groups_eq : ((discover transport base).run sent).1.groups =
    (((fetchRoots transport base).run sent).1.groups.foldl Catalog.addGroup {}).groups := by
  have assembled : ((discover transport base).run sent).1 =
      let roots := (fetchRoots transport base).run sent
      assemble roots.1.groups ((fetchListings transport base roots.1.surfaces).run roots.2).1 := rfl
  rw [assembled, assemble_eq]

/-- An endpoint stands at a surface that the roots told, so a group that they told has its version. -/
theorem exists_told_of_mem {endpoint : Endpoint}
    (member : endpoint ∈ ((discover transport base).run sent).1.endpoints) :
    ∃ told ∈ ((fetchRoots transport base).run sent).1.groups,
      told.isNamed endpoint.addressPrefix endpoint.groupName = true ∧
        endpoint.version ∈ told.supportedVersions := by
  let roots := (fetchRoots transport base).run sent
  have listed : endpoint.surface ∈ roots.1.surfaces := by
    rw [fetchListings_surfaces transport base roots.1.surfaces roots.2]
    exact surface_of_mem_assemble member
  rw [(fetchRoots_paired transport base sent).surfaces, List.mem_flatMap] at listed
  obtain ⟨told, inside, own⟩ := listed
  exact ⟨told, inside, ApiGroup.mem_surfaces.mp own⟩

/-- Of the groups that the roots told of one prefix and name the catalog has the first. -/
theorem exists_first_of_told {addressPrefix : String} {groupName : Option String} {told : ApiGroup}
    (inside : told ∈ ((fetchRoots transport base).run sent).1.groups)
    (named : told.isNamed addressPrefix groupName = true) :
    ∃ group ∈ ((fetchRoots transport base).run sent).1.groups,
      ((fetchRoots transport base).run sent).1.groups.find? (ApiGroup.isNamed addressPrefix groupName)
        = some group ∧
      ((discover transport base).run sent).1.groups.filter (ApiGroup.isNamed addressPrefix groupName)
        = [group] ∧
      group.isNamed addressPrefix groupName = true := by
  obtain ⟨group, found⟩ := Option.isSome_iff_exists.mp
    (List.find?_isSome.mpr ⟨told, inside, named⟩)
  refine ⟨group, List.mem_of_find?_eq_some found, found, ?_, List.find?_some found⟩
  rw [discover_groups_eq, Catalog.foldl_addGroup_isNamed, found]
  rfl

/-- Whatever a server answers, each endpoint is in one group, the first that the roots told of its
prefix and name. One of those that they told has the version of the endpoint. It is the first under a
legacy prefix, and everywhere if no group is told twice. -/
theorem discover_groups (transport : Transport) (base : String) (sent : List Http.Request) :
    let roots := ((fetchRoots transport base).run sent).1
    let catalog := ((discover transport base).run sent).1
    (∀ endpoint ∈ catalog.endpoints, ∃ group,
      let named := ApiGroup.isNamed endpoint.addressPrefix endpoint.groupName
      catalog.groups.filter named = [group] ∧ roots.groups.find? named = some group ∧
      (∃ told ∈ roots.groups, named told = true ∧ endpoint.version ∈ told.supportedVersions) ∧
      (endpoint.groupName = none → endpoint.version ∈ group.supportedVersions)) ∧
    ((roots.groups.map fun group => (group.addressPrefix, group.groupName)).Nodup →
      catalog.GroupsCover) := by
  intro roots catalog
  constructor
  · intro endpoint member
    obtain ⟨told, inside, named, version⟩ := exists_told_of_mem transport base sent member
    obtain ⟨group, known, found, kept, same⟩ := exists_first_of_told transport base sent inside named
    refine ⟨group, kept, found, ⟨told, inside, named, version⟩, fun legacy => ?_⟩
    rw [ApiGroup.isNamed_iff, legacy] at named same
    -- A legacy prefix is asked once, so it is told once.
    have distinct := (fetchRoots_paired transport base sent).legacy
    have unnamed {other : ApiGroup} (alone : other.groupName = none) : other.isLegacy = true := by
      rw [ApiGroup.isLegacy, alone, Option.isNone_none]
    have alike : told = group := List.inj_on_of_nodup_map distinct
      (List.mem_filter.mpr ⟨inside, unnamed named.2⟩) (List.mem_filter.mpr ⟨known, unnamed same.2⟩)
      (named.1.trans same.1.symm)
    rwa [← alike]
  · intro distinct endpoint member
    obtain ⟨told, inside, named, version⟩ := exists_told_of_mem transport base sent member
    obtain ⟨group, known, -, kept, same⟩ := exists_first_of_told transport base sent inside named
    rw [ApiGroup.isNamed_iff] at named same
    have alike : told = group := List.inj_on_of_nodup_map distinct inside known
      (by rw [named.1, named.2, same.1, same.2])
    exact ⟨group, kept, alike ▸ version⟩

/-- A server of pods, and of cron jobs in one version of a group. Its root document tells some groups. -/
def cronTable (groups : String) : String → Option Http.Response
  | "https://c.example/api" => some ⟨200, "\x7b\"versions\":[\"v1\"]\x7d"⟩
  | "https://c.example/api/v1" => some ⟨200, "\x7b\"resources\":["
      ++ "\x7b\"name\":\"pods\",\"kind\":\"Pod\",\"verbs\":[\"get\"]\x7d]\x7d"⟩
  | "https://c.example/apis" => some ⟨200, groups⟩
  | "https://c.example/apis/batch/v1beta1" => some ⟨200, "\x7b\"resources\":["
      ++ "\x7b\"name\":\"cronjobs\",\"kind\":\"CronJob\",\"verbs\":[\"get\"]\x7d]\x7d"⟩
  | _ => none

def cronTransport (groups : String) : Transport := ⟨.ofTable (cronTable groups), "", none⟩

def cronCatalog (groups : String) : Catalog :=
  ((discover (cronTransport groups) "https://c.example").run []).1

/-- A group told once with both of its versions. -/
def toldOnce : String := "\x7b\"groups\":[\x7b\"name\":\"batch\","
  ++ "\"versions\":[\x7b\"version\":\"v1\"\x7d,\x7b\"version\":\"v1beta1\"\x7d]\x7d]\x7d"

/-- The same group told twice, with one of its versions each time. -/
def toldTwice : String := "\x7b\"groups\":["
  ++ "\x7b\"name\":\"batch\",\"versions\":[\x7b\"version\":\"v1\"\x7d]\x7d,"
  ++ "\x7b\"name\":\"batch\",\"versions\":[\x7b\"version\":\"v1beta1\"\x7d]\x7d]\x7d"

def pods : Endpoint := ⟨"api", none, "v1", "pods", "Pod", false, ["get"], []⟩

def cronJobs : Endpoint :=
  ⟨"apis", some "batch", "v1beta1", "cronjobs", "CronJob", false, ["get"], []⟩

theorem cronCatalog_toldTwice :
    (cronCatalog toldTwice).groups =
        [⟨"api", none, ["v1"], some "v1"⟩, ⟨"apis", some "batch", ["v1"], none⟩] ∧
      (cronCatalog toldTwice).endpoints = [pods, cronJobs] := by
  decide +kernel

/-- A version that comes with the second mention of a group is in no group of the catalog. -/
theorem not_groupsCover_toldTwice :
    (cronCatalog toldTwice).groups =
        [⟨"api", none, ["v1"], some "v1"⟩, ⟨"apis", some "batch", ["v1"], none⟩] ∧
      cronJobs ∈ (cronCatalog toldTwice).endpoints ∧ ¬ (cronCatalog toldTwice).GroupsCover := by
  obtain ⟨groups, endpoints⟩ := cronCatalog_toldTwice
  have listed : cronJobs ∈ (cronCatalog toldTwice).endpoints := by
    rw [endpoints]
    exact List.mem_cons_of_mem _ List.mem_cons_self
  refine ⟨groups, listed, fun covered => ?_⟩
  obtain ⟨group, kept, version⟩ := covered cronJobs listed
  have only : (cronCatalog toldTwice).groups.filter (ApiGroup.isNamed "apis" (some "batch"))
      = [⟨"apis", some "batch", ["v1"], none⟩] := by
    rw [groups]
    decide
  have same := List.singleton_inj.mp (kept.symm.trans only)
  rw [same] at version
  exact absurd version (by decide)

/-- The second mention has the version of the cron jobs, and the catalog has the first. -/
theorem discover_groups_cronJobs :
    let roots (groups : String) :=
      ((fetchRoots (cronTransport groups) "https://c.example").run []).1
    (cronJobs ∈ (cronCatalog toldTwice).endpoints ∧ ∃ group,
      (cronCatalog toldTwice).groups.filter (ApiGroup.isNamed "apis" (some "batch")) = [group] ∧
      (roots toldTwice).groups.find? (ApiGroup.isNamed "apis" (some "batch")) = some group ∧
      ∃ told ∈ (roots toldTwice).groups,
        told.isNamed "apis" (some "batch") = true ∧ "v1beta1" ∈ told.supportedVersions) ∧
    (pods ∈ (cronCatalog toldTwice).endpoints ∧ pods.groupName = none ∧ ∃ group,
      (cronCatalog toldTwice).groups.filter (ApiGroup.isNamed "api" none) = [group] ∧
        "v1" ∈ group.supportedVersions) ∧
    ((roots toldOnce).groups.map fun group => (group.addressPrefix, group.groupName)).Nodup ∧
      (cronCatalog toldOnce).endpoints = [pods, cronJobs] ∧ (cronCatalog toldOnce).GroupsCover := by
  intro roots
  obtain ⟨first, second⟩ : pods ∈ (cronCatalog toldTwice).endpoints ∧
      cronJobs ∈ (cronCatalog toldTwice).endpoints := by
    rw [cronCatalog_toldTwice.2]
    exact ⟨List.mem_cons_self, List.mem_cons_of_mem _ List.mem_cons_self⟩
  have distinct : ((roots toldOnce).groups.map fun group =>
      (group.addressPrefix, group.groupName)).Nodup := by
    decide +kernel
  have grouped := (discover_groups (cronTransport toldTwice) "https://c.example" []).1
  obtain ⟨core, keptCore, -, -, version⟩ := grouped pods first
  obtain ⟨batch, keptBatch, found, told, -⟩ := grouped cronJobs second
  have covered := (discover_groups (cronTransport toldOnce) "https://c.example" []).2 distinct
  exact ⟨⟨second, batch, keptBatch, found, told⟩, ⟨first, rfl, core, keptCore, version rfl⟩, distinct,
    by decide +kernel, covered⟩

end Discovery

end ClusterClient
