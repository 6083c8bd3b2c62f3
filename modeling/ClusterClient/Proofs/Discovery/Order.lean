import ClusterClient.Proofs.Catalog.Growth
import ClusterClient.Proofs.Discovery.Concurrent
import ClusterClient.Proofs.Discovery.Isolation
import ClusterClient.Url.DomainName

namespace ClusterClient

theorem eraseDups_append_of_disjoint {α : Type} [BEq α] [LawfulBEq α] {first second : List α}
    (apart : ∀ x ∈ second, x ∉ first) :
    (first ++ second).eraseDups = first.eraseDups ++ second.eraseDups := by
  have kept : second.removeAll first = second :=
    List.filter_eq_self.mpr fun x member => by simpa using apart x member
  rw [List.eraseDups_append, kept]

theorem eraseDups_append_of_subset {α : Type} [BEq α] [LawfulBEq α] {first second : List α}
    (inside : second ⊆ first) : (first ++ second).eraseDups = first.eraseDups := by
  have dropped : second.removeAll first = [] :=
    List.filter_eq_nil_iff.mpr fun x member => by simpa using inside member
  rw [List.eraseDups_append, dropped, List.eraseDups_nil, List.append_nil]

/-- Where blocks share nothing, each keeps its own first appearances. -/
theorem eraseDups_flatMap {α β : Type} [BEq α] [LawfulBEq α] [BEq β] [LawfulBEq β]
    {block : α → List β} {list : List α}
    (apart : ∀ a ∈ list, ∀ b ∈ list, ∀ x ∈ block a, x ∈ block b → a = b) :
    (list.flatMap block).eraseDups = list.eraseDups.flatMap fun a => (block a).eraseDups := by
  induction list using List.reverseRecOn with
  | nil => rfl
  | append_singleton list last ih =>
    have before := ih fun a inA b inB =>
      apart a (List.mem_append_left _ inA) b (List.mem_append_left _ inB)
    rw [List.flatMap_append, List.flatMap_singleton]
    -- The last block stands there already, or it shares nothing with what stands there.
    by_cases again : last ∈ list
    · have inside : block last ⊆ list.flatMap block :=
        fun x member => List.mem_flatMap.mpr ⟨last, again, member⟩
      rw [eraseDups_append_of_subset inside, before,
        eraseDups_append_of_subset fun a member => List.mem_singleton.mp member ▸ again]
    · have fresh : ∀ x ∈ block last, x ∉ list.flatMap block := by
        intro x member inside
        obtain ⟨a, inA, inBlock⟩ := List.mem_flatMap.mp inside
        have same := apart a (List.mem_append_left _ inA) last
          (List.mem_append_right _ List.mem_cons_self) x inBlock member
        exact again (same ▸ inA)
      have lone : ([last] : List α).eraseDups = [last] := by simp [List.eraseDups_cons]
      rw [eraseDups_append_of_disjoint fresh, before,
        eraseDups_append_of_disjoint fun a member => List.mem_singleton.mp member ▸ again, lone,
        List.flatMap_append, List.flatMap_singleton]

theorem eraseDups_map {α β : Type} [BEq α] [LawfulBEq α] [BEq β] [LawfulBEq β] {f : α → β}
    (injective : ∀ a b, f a = f b → a = b) (list : List α) :
    (list.map f).eraseDups = list.eraseDups.map f := by
  have apart : ∀ a ∈ list, ∀ b ∈ list, ∀ x ∈ [f a], x ∈ [f b] → a = b :=
    fun a _ b _ x inA inB => injective a b
      ((List.mem_singleton.mp inA).symm.trans (List.mem_singleton.mp inB))
  have lone (a : α) : [f a].eraseDups = [f a] := by simp [List.eraseDups_cons]
  rw [List.map_eq_flatMap, eraseDups_flatMap apart, List.map_eq_flatMap]
  exact congrArg (list.eraseDups.flatMap ·) (funext lone)

namespace Catalog

/-- Endpoints of groups stand behind all others. -/
def LegacyFirst (catalog : Catalog) : Prop :=
  catalog.endpoints.Pairwise fun before after => before.groupName.isSome → after.groupName.isSome

/-- A kind goes to an endpoint of a group only where no legacy endpoint has that kind. -/
structure PrefersLegacy (catalog : Catalog) : Prop where
  any : ∀ kind endpoint, catalog.resolve none kind = some endpoint → endpoint.groupName.isSome →
    ∀ other ∈ catalog.endpoints, other.groupName = none → ¬other.matchesKind kind
  single : ∀ segment kind endpoint, '/' ∉ segment.toList →
    catalog.resolve (some segment) kind = some endpoint → endpoint.groupName.isSome →
    ∀ other ∈ catalog.endpoints, other.groupName = none → other.version = segment →
      ¬other.matchesKind kind

/-- What comes first in a search and is of a group has nothing legacy beside it. -/
theorem LegacyFirst.not_of_find? {catalog : Catalog} (ordered : catalog.LegacyFirst)
    {fits : Endpoint → Bool} {endpoint other : Endpoint}
    (found : catalog.endpoints.find? fits = some endpoint) (grouped : endpoint.groupName.isSome)
    (member : other ∈ catalog.endpoints) (legacy : other.groupName = none) : ¬fits other := by
  intro fitting
  rcases eq_or_of_find? ordered found member fitting with rfl | behind
  · simp [legacy] at grouped
  · simp [legacy, grouped] at behind

theorem LegacyFirst.prefersLegacy {catalog : Catalog} (ordered : catalog.LegacyFirst) :
    catalog.PrefersLegacy where
  any _ _ found grouped _ member legacy := ordered.not_of_find? found grouped member legacy
  single segment kind endpoint plain found grouped other member legacy version := by
    rw [resolve, VersionSelector.ofRequest, Text.cut_of_not_mem plain] at found
    by_cases empty : segment = ""
    · rw [if_pos empty] at found
      exact ordered.not_of_find? found grouped member legacy
    · rw [if_neg empty] at found
      have unfit := ordered.not_of_find? found grouped member legacy
      simpa [version] using unfit

end Catalog

namespace Discovery

open Transport (reading)

variable {transport : Transport} {answers : String → Option Http.Response} {base : String}

/-- The versions that a legacy prefix tells, none if it fails. -/
def versionsOf : Except Error LegacyRoot → List String
  | .ok root => root.versions
  | .error _ => []

/-- The groups and versions that the prefix of the groups tells, read from top to bottom. -/
def groupVersionsOf : Except Error GroupRoot → List (String × String)
  | .ok root => root.groups.flatMap fun group => group.versions.map (group.name, ·)
  | .error _ => []

/-- The names of the collections that a list serves, none if it fails. -/
def namesOf : Except Error ResourceListing → List String
  | .ok listing => (listing.resources.filter (·.isServed)).map (·.name)
  | .error _ => []

def toldVersions (answers : String → Option Http.Response) (base addressPrefix : String) :
    List String :=
  let url := base ++ "/" ++ addressPrefix
  versionsOf (reading LegacyRoot.ofTree? url (answers url))

def toldGroupVersions (answers : String → Option Http.Response) (base : String) :
    List (String × String) :=
  let url := base ++ "/" ++ Surface.groupedPrefix
  groupVersionsOf (reading GroupRoot.ofTree? url (answers url))

/-- The keys of the collections of a surface in the order in which its list first names them. -/
def keysAt (answers : String → Option Http.Response) (base : String) (surface : Surface) :
    List EndpointKey :=
  (namesOf (listingOf answers base surface).2).eraseDups.map fun name =>
    ⟨surface.addressPrefix, surface.groupName, surface.version, name⟩

/-- The keys under a legacy prefix, version by version as its root document first names them. -/
def legacyKeys (answers : String → Option Http.Response) (base addressPrefix : String) :
    List EndpointKey :=
  (toldVersions answers base addressPrefix).eraseDups.flatMap fun version =>
    keysAt answers base ⟨addressPrefix, none, version⟩

/-- The keys of the groups, by group and version as the root document first names them. -/
def groupedKeys (answers : String → Option Http.Response) (base : String) : List EndpointKey :=
  (toldGroupVersions answers base).eraseDups.flatMap fun told =>
    keysAt answers base ⟨Surface.groupedPrefix, some told.1, told.2⟩

theorem Roots.addLegacy_surfaces (roots : Roots) (addressPrefix : String)
    (answer : Except Error LegacyRoot) : (roots.addLegacy addressPrefix answer).surfaces =
      roots.surfaces ++ (versionsOf answer).map (⟨addressPrefix, none, ·⟩) := by
  cases answer with
  | ok root => rfl
  | error => exact (List.append_nil _).symm

theorem Roots.addNamed_surfaces (roots : Roots) (answer : Except Error GroupRoot) :
    (roots.addNamed answer).surfaces = roots.surfaces ++ (groupVersionsOf answer).map
      fun told => ⟨Surface.groupedPrefix, some told.1, told.2⟩ := by
  cases answer with
  | ok root =>
    rw [addNamed, groupVersionsOf, List.map_flatMap]
    refine congrArg (fun block => roots.surfaces ++ root.groups.flatMap block)
      (funext fun group => ?_)
    rw [List.map_map]
    rfl
  | error => exact (List.append_nil _).symm

theorem rootsOf_surfaces (answers : String → Option Http.Response) (base : String) :
    (rootsOf answers base).surfaces =
      (toldVersions answers base "api").map (⟨"api", none, ·⟩)
        ++ (toldVersions answers base "oapi").map (⟨"oapi", none, ·⟩)
        ++ (toldGroupVersions answers base).map fun told =>
          ⟨Surface.groupedPrefix, some told.1, told.2⟩ := by
  rw [rootsOf, Roots.addNamed_surfaces]
  simp only [Surface.legacyPrefixes, List.foldl_cons, List.foldl_nil, afterLegacy,
    Roots.addLegacy_surfaces, List.nil_append]
  rfl

/-- The keys that the answer of a surface enters, repetitions and all. -/
theorem served_keys_entriesOf (answer : Surface × Except Error ResourceListing) :
    ((entriesOf answer).filter (·.2.isServed)).map (fun item => item.1.entryKey item.2) =
      (namesOf answer.2).map fun name =>
        ⟨answer.1.addressPrefix, answer.1.groupName, answer.1.version, name⟩ := by
  obtain ⟨surface, listing | listing⟩ := answer
  · rfl
  · rw [entriesOf, namesOf, Catalog.merged_served, List.map_map, List.map_map]
    refine List.map_congr_left fun entry member => ?_
    exact Catalog.entryKey_of_served (List.mem_filter.mp member).2

/-- The endpoints of a catalog stand surface by surface, in the order of the surfaces. -/
theorem foldl_entriesAt_keys (surfaces : List Surface) :
    ((entriesAt answers base surfaces).foldl Catalog.addEntry {}).endpoints.map Endpoint.key
      = surfaces.eraseDups.flatMap (keysAt answers base) := by
  have raw : ((entriesAt answers base surfaces).filter (·.2.isServed)).map
        (fun item => item.1.entryKey item.2) = surfaces.flatMap fun surface =>
      (namesOf (listingOf answers base surface).2).map fun name =>
        ⟨surface.addressPrefix, surface.groupName, surface.version, name⟩ := by
    rw [entriesAt, List.flatMap_map, List.filter_flatMap, List.map_flatMap]
    exact congrArg (surfaces.flatMap ·) (funext fun surface => served_keys_entriesOf _)
  -- An endpoint keeps the place of its first entry, and no two surfaces share a key.
  rw [Catalog.foldl_keys, raw, eraseDups_flatMap]
  · refine congrArg (surfaces.eraseDups.flatMap ·) (funext fun surface => ?_)
    exact eraseDups_map (fun name other same => congrArg EndpointKey.pluralName same) _
  · intro surface _ other _ key inSurface inOther
    obtain ⟨name, -, rfl⟩ := List.mem_map.mp inSurface
    obtain ⟨name', -, same⟩ := List.mem_map.mp inOther
    obtain ⟨addressPrefix, groupName, version, -⟩ := (EndpointKey.mk.injEq ..).mp same
    exact (Surface.mk.injEq ..).mpr ⟨addressPrefix.symm, groupName.symm, version.symm⟩

theorem discovered_keys (answers : String → Option Http.Response) (base : String) :
    ((entriesAt answers base (rootsOf answers base).surfaces).foldl
        Catalog.addEntry {}).endpoints.map Endpoint.key
      = legacyKeys answers base "api" ++ legacyKeys answers base "oapi"
        ++ groupedKeys answers base := by
  have versions (addressPrefix : String) (list : List String) :
      (list.map fun version => (⟨addressPrefix, none, version⟩ : Surface)).eraseDups
        = list.eraseDups.map fun version => ⟨addressPrefix, none, version⟩ :=
    eraseDups_map (fun version other same => congrArg Surface.version same) list
  have groups (list : List (String × String)) :
      (list.map fun told => (⟨Surface.groupedPrefix, some told.1, told.2⟩ : Surface)).eraseDups
        = list.eraseDups.map fun told => ⟨Surface.groupedPrefix, some told.1, told.2⟩ :=
    eraseDups_map (fun told other same => Prod.ext
      (Option.some.inj (congrArg Surface.groupName same)) (congrArg Surface.version same)) list
  rw [foldl_entriesAt_keys, rootsOf_surfaces, eraseDups_append_of_disjoint,
    eraseDups_append_of_disjoint, versions, versions, groups]
  · simp only [List.flatMap_append, List.flatMap_map, legacyKeys, groupedKeys]
  · intro surface inOapi inApi
    obtain ⟨version, -, rfl⟩ := List.mem_map.mp inOapi
    simp at inApi
  · intro surface inGroups inLegacy
    obtain ⟨told, -, rfl⟩ := List.mem_map.mp inGroups
    simp at inLegacy

theorem legacyFirst_of_keys {catalog : Catalog}
    (keys : catalog.endpoints.map Endpoint.key = legacyKeys answers base "api"
      ++ legacyKeys answers base "oapi" ++ groupedKeys answers base) : catalog.LegacyFirst := by
  have legacy (addressPrefix : String) :
      ∀ key ∈ legacyKeys answers base addressPrefix, key.groupName = none := by
    intro key member
    obtain ⟨version, -, inside⟩ := List.mem_flatMap.mp member
    obtain ⟨name, -, rfl⟩ := List.mem_map.mp inside
    rfl
  have grouped : ∀ key ∈ groupedKeys answers base, key.groupName.isSome := by
    intro key member
    obtain ⟨told, -, inside⟩ := List.mem_flatMap.mp member
    obtain ⟨name, -, rfl⟩ := List.mem_map.mp inside
    rfl
  have early : ∀ key ∈ legacyKeys answers base "api" ++ legacyKeys answers base "oapi",
      key.groupName = none :=
    fun key member => (List.mem_append.mp member).elim (legacy "api" key) (legacy "oapi" key)
  have sorted : (catalog.endpoints.map Endpoint.key).Pairwise fun before after =>
      before.groupName.isSome → after.groupName.isSome := by
    rw [keys, List.pairwise_append]
    refine ⟨?_, ?_, fun _ _ after late _ => grouped after late⟩
    · refine List.pairwise_of_forall_mem_list fun before first after _ some => ?_
      simp [early before first] at some
    · exact List.pairwise_of_forall_mem_list fun _ _ after late _ => grouped after late
  exact List.pairwise_map.mp sorted

/-- Whatever the order in which the lists are complete, the endpoints stand as the root documents
name their surfaces, and each surface's as its list names them. -/
theorem discover_ordered {transport : Transport} (answered : transport.AnswersBy answers)
    (base : String) {schedule : Nat → List Nat}
    (complete : ∀ count, (schedule count).Perm (List.range count)) (sent : List Http.Request) :
    let catalog := ((discoverConcurrently transport base schedule).run sent).1
    catalog = ((discover transport base).run sent).1 ∧
    catalog.endpoints.map Endpoint.key = legacyKeys answers base "api"
      ++ legacyKeys answers base "oapi" ++ groupedKeys answers base ∧
    catalog.PrefersLegacy := by
  have same : ((discoverConcurrently transport base schedule).run sent).1
      = ((discover transport base).run sent).1 := by
    rw [discoverConcurrently_yields answered base complete sent, discover_yields answered base sent]
  have keys : ((discover transport base).run sent).1.endpoints.map Endpoint.key
      = legacyKeys answers base "api" ++ legacyKeys answers base "oapi"
        ++ groupedKeys answers base := by
    rw [discover_run answered]
    exact discovered_keys answers base
  refine ⟨same, ?_⟩
  rw [same]
  exact ⟨keys, (legacyFirst_of_keys keys).prefersLegacy⟩

/-- A server that names a version and a group twice, and has events in the core and in a group. -/
def eventTable : String → Option Http.Response
  | "https://c.example/api" => some ⟨200, "\x7b\"versions\":[\"v2\",\"v1\",\"v2\"]\x7d"⟩
  | "https://c.example/apis" => some ⟨200, "\x7b\"groups\":["
      ++ "\x7b\"name\":\"events\",\"versions\":[\x7b\"version\":\"v1\"\x7d]\x7d,"
      ++ "\x7b\"name\":\"events\",\"versions\":[\x7b\"version\":\"v2\"\x7d,\x7b\"version\":\"v1\"\x7d]\x7d"
      ++ "]\x7d"⟩
  | "https://c.example/api/v1" | "https://c.example/apis/events/v1" => some ⟨200,
      "\x7b\"resources\":[\x7b\"name\":\"events\",\"kind\":\"Event\",\"verbs\":[\"get\"]\x7d]\x7d"⟩
  | _ => none

theorem discover_ordered_events :
    let found : Catalog := ((discoverConcurrently ⟨.ofTable eventTable, "", none⟩
      "https://c.example" fun count => (List.range count).reverse).run []).1
    (found.endpoints.map Endpoint.key =
        [⟨"api", none, "v1", "events"⟩, ⟨"apis", some "events", "v1", "events"⟩] ∧
      (found.resolve none "Event").map (·.apiVersion) = some "v1" ∧
      (found.resolve (some "events") "Event").map (·.apiVersion) = some "events/v1") ∧
    found.PrefersLegacy := by
  have ordered := discover_ordered (Transport.answersBy_ofTable eventTable "" none)
    "https://c.example" (fun count => List.reverse_perm (List.range count)) []
  exact ⟨by decide +kernel, ordered.2.2⟩

end Discovery

end ClusterClient
