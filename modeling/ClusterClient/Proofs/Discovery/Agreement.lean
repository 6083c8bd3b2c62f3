import ClusterClient.Proofs.Catalog.Declarations
import ClusterClient.Proofs.Discovery.Answers
import ClusterClient.Proofs.Discovery.Surfaces
import ClusterClient.Url.DomainName

namespace ClusterClient

/-- A prefix goes with a group: the prefix of the groups with one, and a legacy prefix with none. -/
structure Surface.Agrees (addressPrefix : String) (groupName : Option String) : Prop where
  grouped : addressPrefix = groupedPrefix ↔ groupName.isSome
  legacy : groupName = none → addressPrefix ∈ legacyPrefixes

theorem Surface.IsRooted.agrees {surface : Surface} (rooted : surface.IsRooted) :
    Agrees surface.addressPrefix surface.groupName := by
  rcases rooted with ⟨alone, legacy⟩ | ⟨named, grouped⟩
  · refine ⟨iff_of_false (fun same => ?_) (by simp [alone]), fun _ => legacy⟩
    rw [same] at legacy
    exact absurd legacy (by decide)
  · refine ⟨iff_of_true grouped named, fun alone => ?_⟩
    simp [alone] at named

namespace Catalog

variable {surface : Surface} {entry : ResourceEntry}

/-- An entry has a version of its own and no group of its own: empty ones do not count. -/
def IsVersionAlone (entry : ResourceEntry) (version : String) : Prop :=
  entry.version = some version ∧ version ≠ "" ∧ ∀ group, entry.group = some group → group = ""

/-- A declared type has no group if nobody names one, or if the entry names a version alone. -/
theorem declaredType_groupName_eq_none (alone : (declaredType surface entry).groupName = none) :
    surface.groupName = none ∨ IsVersionAlone entry (declaredType surface entry).version := by
  simp only [declaredType] at alone ⊢
  cases group : entry.group.filter (· != "") with
  | some group => simp [group] at alone
  | none =>
    cases version : entry.version.filter (· != "") with
    | none => exact .inl (by simpa [group, version] using alone)
    | some version =>
      obtain ⟨written, nonempty⟩ := Option.filter_eq_some_iff.mp version
      refine .inr ⟨written, by simpa using nonempty, fun name named => ?_⟩
      simpa [named, Option.filter_some] using group

theorem declaredType_addressPrefix (rooted : surface.IsRooted) (grouped : surface.groupName ≠ none) :
    (declaredType surface entry).addressPrefix = Surface.groupedPrefix := by
  rcases rooted with ⟨alone, -⟩ | ⟨-, prefixed⟩
  · exact absurd alone grouped
  · simp only [declaredType, prefixed, ite_self]

/-- The prefix of a declared type goes with its group, but for a type without the group of its
surface. -/
theorem declaredType_agrees_iff (rooted : surface.IsRooted) :
    Surface.Agrees (declaredType surface entry).addressPrefix (declaredType surface entry).groupName ↔
      (declaredType surface entry).groupName.isSome ∨ surface.groupName = none := by
  have place : (declaredType surface entry).addressPrefix =
      if (declaredType surface entry).groupName.isSome then Surface.groupedPrefix
      else surface.addressPrefix := rfl
  rw [place]
  cases named : (declaredType surface entry).groupName with
  | some group => exact iff_of_true ⟨iff_of_true rfl rfl, fun none => by cases none⟩ (.inl rfl)
  | none =>
    rw [Option.isSome_none, if_neg Bool.false_ne_true]
    rcases rooted with ⟨alone, legacy⟩ | ⟨grouped, prefixed⟩
    · have agrees := Surface.IsRooted.agrees (.inl ⟨alone, legacy⟩)
      rw [alone] at agrees
      exact iff_of_true agrees (.inr alone)
    · refine iff_of_false (fun agrees => absurd (agrees.grouped.mp prefixed) Bool.false_ne_true) ?_
      rintro (none | none)
      · cases none
      · simp [none] at grouped

end Catalog

def Surface.LegacyFirst (surfaces : List Surface) : Prop :=
  surfaces.Pairwise fun before after => before.groupName.isSome → after.groupName.isSome

namespace Discovery

def Roots.AreLegacy (roots : Roots) : Prop := ∀ surface ∈ roots.surfaces, surface.groupName = none

theorem Roots.AreLegacy.addLegacy {roots : Roots} (legacy : roots.AreLegacy) (addressPrefix : String)
    (answer : Except Error LegacyRoot) : (roots.addLegacy addressPrefix answer).AreLegacy :=
  Roots.forall_addLegacy legacy (fun _ => rfl) answer

theorem Roots.AreLegacy.addNamed_legacyFirst {roots : Roots} (legacy : roots.AreLegacy)
    (answer : Except Error GroupRoot) : Surface.LegacyFirst (roots.addNamed answer).surfaces := by
  have early : Surface.LegacyFirst roots.surfaces :=
    List.pairwise_of_forall_mem_list fun before first after _ some => by simp [legacy before first] at some
  cases answer with
  | error => exact early
  | ok root =>
    have named : ∀ surface ∈ root.groups.flatMap namedSurfaces, surface.groupName.isSome := by
      intro surface member
      obtain ⟨entry, -, inEntry⟩ := List.mem_flatMap.mp member
      obtain ⟨version, -, rfl⟩ := List.mem_map.mp inEntry
      rfl
    refine List.pairwise_append.mpr ⟨early, ?_, fun _ _ after late _ => named after late⟩
    exact List.pairwise_of_forall_mem_list fun _ _ after late _ => named after late

theorem fetchRoots_legacyFirst (transport : Transport) (base : String) :
    (fetchRoots transport base).Ensures fun roots => Surface.LegacyFirst roots.surfaces := by
  have alone : Roots.AreLegacy {} := fun surface member => by cases member
  refine .bind (.foldlM (fun roots addressPrefix _ legacy => ?_) alone) fun roots legacy => ?_
  · exact (Wire.Ensures.anything (transport.fetch _ _)).bind fun answer _ =>
      .pure (legacy.addLegacy addressPrefix answer)
  · exact (Wire.Ensures.anything (transport.fetch _ _)).bind fun answer _ =>
      .pure (legacy.addNamed_legacyFirst answer)

/-- All entries that a server tells, in the order in which they are merged. -/
def told (transport : Transport) (base : String) (sent : List Http.Request) :
    List (Surface × ResourceEntry) :=
  let roots := (fetchRoots transport base).run sent
  ((fetchListings transport base roots.1.surfaces).run roots.2).1.flatMap entriesOf

variable (transport : Transport) (base : String) (sent : List Http.Request)

theorem discover_types : ((discover transport base).run sent).1.types =
    ((told transport base sent).foldl Catalog.addEntry {}).types := by
  have assembled : ((discover transport base).run sent).1 =
      let roots := (fetchRoots transport base).run sent
      assemble roots.1.groups ((fetchListings transport base roots.1.surfaces).run roots.2).1 := rfl
  rw [assembled, assemble_eq]
  rfl

/-- The entries stand where surfaces stand, those of legacy surfaces first. -/
theorem told_surfaces :
    (∀ item ∈ told transport base sent, item.1.IsRooted) ∧
      Surface.LegacyFirst ((told transport base sent).map (·.1)) := by
  let roots := (fetchRoots transport base).run sent
  let listings := ((fetchListings transport base roots.1.surfaces).run roots.2).1
  have surfaces : roots.1.surfaces = listings.map (·.1) :=
    fetchListings_surfaces transport base roots.1.surfaces roots.2
  have rooted : roots.1.AreRooted := fetchRoots_areRooted transport base sent
  have ordered : Surface.LegacyFirst roots.1.surfaces := fetchRoots_legacyFirst transport base sent
  have entries : told transport base sent = listings.flatMap entriesOf := rfl
  -- All entries of an answer stand at its surface, so they are in the order of the surfaces.
  rw [surfaces, Surface.LegacyFirst, List.pairwise_map] at ordered
  rw [entries]
  constructor
  · intro item member
    obtain ⟨answer, inside, own⟩ := List.mem_flatMap.mp member
    rw [surface_of_mem_entriesOf own]
    exact rooted answer.1 (surfaces ▸ List.mem_map_of_mem inside)
  · rw [Surface.LegacyFirst, List.pairwise_map, List.pairwise_flatMap]
    constructor
    · intro answer _
      refine List.pairwise_of_forall_mem_list fun before first after last grouped => ?_
      rwa [surface_of_mem_entriesOf last, ← surface_of_mem_entriesOf first]
    · refine ordered.imp fun later before first after last grouped => ?_
      rw [surface_of_mem_entriesOf first] at grouped
      rw [surface_of_mem_entriesOf last]
      exact later grouped

/-- The first entry to declare a key is that of a legacy surface if there is any of one. -/
theorem legacy_of_find? {declared : Surface × ResourceEntry → Bool} {first : Surface × ResourceEntry}
    (found : (told transport base sent).find? declared = some first) :
    first.1.groupName = none ↔
      ∃ item ∈ told transport base sent, item.1.groupName = none ∧ declared item = true := by
  constructor
  · exact fun legacy => ⟨first, List.mem_of_find?_eq_some found, legacy, List.find?_some found⟩
  · rintro ⟨item, member, legacy, declares⟩
    have ordered := (told_surfaces transport base sent).2
    rw [Surface.LegacyFirst, List.pairwise_map] at ordered
    rcases eq_or_of_find? ordered found member declares with rfl | behind
    · exact legacy
    · rw [legacy] at behind
      exact Option.not_isSome_iff_eq_none.mp fun grouped => absurd (behind grouped) Bool.false_ne_true

/-- Whatever a server answers, the prefix of an endpoint goes with its group, and so does that of a
type, but for those that no legacy surface declares and that lose the group of their surface because
the entry names a version alone. -/
theorem discover_agrees :
    let catalog := ((discover transport base).run sent).1
    (∀ endpoint ∈ catalog.endpoints, Surface.Agrees endpoint.addressPrefix endpoint.groupName) ∧
    (∀ type ∈ catalog.types, Surface.Agrees type.addressPrefix type.groupName ↔
      type.groupName.isSome ∨ ∃ item ∈ told transport base sent,
        item.1.groupName = none ∧ Catalog.declares type.key item) ∧
    ∀ type ∈ catalog.types, ¬ Surface.Agrees type.addressPrefix type.groupName →
      type.addressPrefix = Surface.groupedPrefix ∧ type.groupName = none ∧
        ∃ item ∈ told transport base sent, item.1.groupName.isSome ∧
          Catalog.declares type.key item ∧ Catalog.IsVersionAlone item.2 type.version := by
  intro catalog
  obtain ⟨rooted, -⟩ := told_surfaces transport base sent
  have origin {type : TypeDescriptor} (member : type ∈ catalog.types) :
      ∃ item, (told transport base sent).find? (Catalog.declares type.key) = some item ∧
        type = Catalog.declaredType item.1 item.2 := by
    rw [← Catalog.mem_foldl_types_iff_find?, ← discover_types]
    exact member
  have agrees {type : TypeDescriptor} {item : Surface × ResourceEntry}
      (found : (told transport base sent).find? (Catalog.declares type.key) = some item)
      (declared : type = Catalog.declaredType item.1 item.2) :
      Surface.Agrees type.addressPrefix type.groupName ↔
        type.groupName.isSome ∨ item.1.groupName = none := by
    rw [declared]
    exact Catalog.declaredType_agrees_iff (rooted item (List.mem_of_find?_eq_some found))
  refine ⟨fun endpoint member => ?_, fun type member => ?_, fun type member astray => ?_⟩
  · exact ((discover_rooted transport base sent).rooted endpoint member).agrees
  · obtain ⟨item, found, declared⟩ := origin member
    rw [agrees found declared, legacy_of_find? transport base sent found]
  · obtain ⟨item, found, declared⟩ := origin member
    rw [agrees found declared, not_or, Option.not_isSome_iff_eq_none] at astray
    obtain ⟨alone, grouped⟩ := astray
    have inside := List.mem_of_find?_eq_some found
    refine ⟨?_, alone, item, inside, Option.isSome_iff_ne_none.mpr grouped, List.find?_some found, ?_⟩
    · rw [declared]
      exact Catalog.declaredType_addressPrefix (rooted item inside) grouped
    · rw [declared] at alone ⊢
      exact (Catalog.declaredType_groupName_eq_none alone).resolve_left grouped

/-- A group whose rollbacks return a status of the core. -/
def rollbackTable : String → Option Http.Response
  | "https://c.example/apis" => some ⟨200, "\x7b\"groups\":["
      ++ "\x7b\"name\":\"apps\",\"versions\":[\x7b\"version\":\"v1\"\x7d]\x7d]\x7d"⟩
  | "https://c.example/apis/apps/v1" => some ⟨200, "\x7b\"resources\":["
      ++ "\x7b\"name\":\"deployments\",\"kind\":\"Deployment\",\"verbs\":[\"get\"]\x7d,"
      ++ "\x7b\"name\":\"deployments/rollback\",\"kind\":\"Status\",\"version\":\"v1\"\x7d]\x7d"⟩
  | _ => none

def rollbackCatalog : Catalog :=
  ((discover ⟨.ofTable rollbackTable, "", none⟩ "https://c.example").run []).1

theorem rollbackCatalog_lists :
    rollbackCatalog.endpoints =
        [⟨"apis", some "apps", "v1", "deployments", "Deployment", false, ["get"], ["rollback"]⟩] ∧
      rollbackCatalog.types = [⟨"apis", some "apps", "v1", "Deployment"⟩, ⟨"apis", none, "v1", "Status"⟩] := by
  decide +kernel

/-- The type of a core object that only a list of a group tells has the prefix of the groups. -/
theorem not_agrees_rollback :
    rollbackCatalog.types = [⟨"apis", some "apps", "v1", "Deployment"⟩, ⟨"apis", none, "v1", "Status"⟩] ∧
      ¬ ∀ type ∈ rollbackCatalog.types, Surface.Agrees type.addressPrefix type.groupName := by
  refine ⟨rollbackCatalog_lists.2, fun agrees => ?_⟩
  rw [rollbackCatalog_lists.2] at agrees
  exact absurd ((agrees ⟨"apis", none, "v1", "Status"⟩ (by decide)).grouped.mp rfl) Bool.false_ne_true

theorem discover_agrees_rollback :
    let deployments : Endpoint := ⟨"apis", some "apps", "v1", "deployments", "Deployment", false, ["get"],
      ["rollback"]⟩
    let deployment : TypeDescriptor := ⟨"apis", some "apps", "v1", "Deployment"⟩
    let status : TypeDescriptor := ⟨"apis", none, "v1", "Status"⟩
    (deployments ∈ rollbackCatalog.endpoints ∧ Surface.Agrees "apis" (some "apps")) ∧
    (deployment ∈ rollbackCatalog.types ∧ Surface.Agrees deployment.addressPrefix deployment.groupName) ∧
    status ∈ rollbackCatalog.types ∧ ¬ Surface.Agrees status.addressPrefix status.groupName ∧
      ∃ item ∈ told ⟨.ofTable rollbackTable, "", none⟩ "https://c.example" [],
        item.1.groupName.isSome ∧ Catalog.declares status.key item ∧
          Catalog.IsVersionAlone item.2 "v1" := by
  intro deployments deployment status
  have listed : deployments ∈ rollbackCatalog.endpoints := by
    rw [rollbackCatalog_lists.1]
    exact List.mem_cons_self
  have known : deployment ∈ rollbackCatalog.types := by
    rw [rollbackCatalog_lists.2]
    exact List.mem_cons_self
  have stray : status ∈ rollbackCatalog.types := by
    rw [rollbackCatalog_lists.2]
    exact List.mem_cons_of_mem _ List.mem_cons_self
  have astray : ¬ Surface.Agrees status.addressPrefix status.groupName :=
    fun agrees => absurd (agrees.grouped.mp rfl) Bool.false_ne_true
  obtain ⟨endpoints, types, strays⟩ :=
    discover_agrees ⟨.ofTable rollbackTable, "", none⟩ "https://c.example" []
  exact ⟨⟨listed, endpoints _ listed⟩, ⟨known, (types _ known).mpr (.inl rfl)⟩, stray, astray,
    (strays _ stray astray).2.2⟩

end Discovery

end ClusterClient
