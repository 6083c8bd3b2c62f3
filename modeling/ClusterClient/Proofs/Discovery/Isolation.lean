import ClusterClient.Proofs.Discovery.Assembly
import ClusterClient.Proofs.Discovery.Roots
import ClusterClient.Url.DomainName

namespace ClusterClient

namespace Catalog

/-- One catalog is another without the surfaces at a path. -/
structure LacksPath (part whole : Catalog) (path : String) : Prop where
  groups : part.groups = whole.groups
  endpoints : part.endpoints = whole.endpoints.filter fun endpoint => endpoint.surface.path ≠ path
  /-- What resolves to an endpoint of another path still does. -/
  resolved : ∀ version kind endpoint, whole.resolve version kind = some endpoint →
    endpoint.surface.path ≠ path → part.resolve version kind = some endpoint
  /-- Nothing resolves at the version of a group that stood there. -/
  unresolved : ∀ group version, '/' ∉ group.toList →
    path = Surface.groupedPrefix ++ "/" ++ group ++ "/" ++ version →
    ∀ kind, part.resolve (some (group ++ "/" ++ version)) kind = none

/-- One catalog is another without the groups and the endpoints of a prefix. -/
structure LacksPrefix (part whole : Catalog) (addressPrefix : String) : Prop where
  groups : part.groups = whole.groups.filter fun group => group.addressPrefix ≠ addressPrefix
  endpoints : part.endpoints =
    whole.endpoints.filter fun endpoint => endpoint.addressPrefix ≠ addressPrefix

end Catalog

namespace Discovery

open Transport (IsFailure)

variable {answers answers' : String → Option Http.Response} {base : String}

/-- The entries of everything that the surfaces of some roots answer. -/
def entriesAt (answers : String → Option Http.Response) (base : String) (surfaces : List Surface) :
    List (Surface × ResourceEntry) :=
  (surfaces.map (listingOf answers base)).flatMap entriesOf

theorem entriesAt_filter (keep : Surface → Bool) (surfaces : List Surface) :
    (entriesAt answers base surfaces).filter (fun item => keep item.1)
      = entriesAt answers base (surfaces.filter keep) := by
  rw [entriesAt, flatMap_entriesOf_filter, List.filter_map]
  rfl

theorem surface_of_mem_entriesAt {surfaces : List Surface} {item : Surface × ResourceEntry}
    (member : item ∈ entriesAt answers base surfaces) : item.1 ∈ surfaces := by
  obtain ⟨answer, told, inside⟩ := List.mem_flatMap.mp member
  obtain ⟨surface, listed, rfl⟩ := List.mem_map.mp told
  rw [surface_of_mem_entriesOf inside]
  exact listed

/-- With one answer a URL, what is discovered is what the answers tell. -/
theorem discover_run {transport : Transport} (answered : transport.AnswersBy answers)
    (base : String) (sent : List Http.Request) :
    ((discover transport base).run sent).1 =
      { (entriesAt answers base (rootsOf answers base).surfaces).foldl Catalog.addEntry {} with
        groups := ((rootsOf answers base).groups.foldl Catalog.addGroup {}).groups } := by
  rw [discover_yields answered base sent, assemble_eq]
  rfl

/-- A path whose list fails tells nothing. -/
theorem entriesAt_of_failure {path : String}
    (failure : IsFailure ResourceListing.ofTree? (answers' (base ++ "/" ++ path)))
    (elsewhere : ∀ url, url ≠ base ++ "/" ++ path → answers' url = answers url)
    (surfaces : List Surface) :
    entriesAt answers' base surfaces
      = entriesAt answers base (surfaces.filter fun surface => surface.path ≠ path) := by
  induction surfaces with
  | nil => rfl
  | cons surface rest ih =>
    have first : entriesAt answers' base (surface :: rest)
        = entriesOf (listingOf answers' base surface) ++ entriesAt answers' base rest := rfl
    rw [first, ih, List.filter_cons]
    by_cases same : surface.path = path
    · obtain ⟨error, failed⟩ := failure.reading_eq_error (base ++ "/" ++ path)
      have nothing : entriesOf (listingOf answers' base surface) = [] := by
        rw [listingOf, same, failed]
        rfl
      simp [nothing, same]
    · have unchanged : listingOf answers' base surface = listingOf answers base surface := by
        rw [listingOf, listingOf, elsewhere _ (url_ne_of_path_ne same)]
      simp [unchanged, same, entriesAt]

theorem entriesAt_congr
    (same : ∀ path, '/' ∈ path.toList →
      answers' (base ++ "/" ++ path) = answers (base ++ "/" ++ path)) (surfaces : List Surface) :
    entriesAt answers' base surfaces = entriesAt answers base surfaces := by
  have unchanged : listingOf answers' base = listingOf answers base := by
    funext surface
    rw [listingOf, listingOf, same surface.path (slash_mem_path surface)]
  rw [entriesAt, entriesAt, unchanged]

/-- Discovery without the list at a path finds all but the surfaces at that path. -/
theorem lacksPath_of_failure {transport broken : Transport} {path : String}
    (answered : transport.AnswersBy answers) (answered' : broken.AnswersBy answers')
    (failure : IsFailure ResourceListing.ofTree? (answers' (base ++ "/" ++ path)))
    (elsewhere : ∀ url, url ≠ base ++ "/" ++ path → answers' url = answers url)
    (below : '/' ∈ path.toList) (sent sent' : List Http.Request) :
    Catalog.LacksPath ((discover broken base).run sent').1 ((discover transport base).run sent).1
      path := by
  have roots : rootsOf answers' base = rootsOf answers base :=
    rootsOf_congr fun other plain => elsewhere _ <| url_ne_of_path_ne fun same =>
      plain (same ▸ below)
  have entries : entriesAt answers' base (rootsOf answers base).surfaces
      = (entriesAt answers base (rootsOf answers base).surfaces).filter
          fun item => decide (item.1.path ≠ path) := by
    rw [entriesAt_of_failure failure elsewhere]
    exact (entriesAt_filter (fun surface => decide (surface.path ≠ path)) _).symm
  have endpoints := Catalog.foldl_endpoints_filter (fun surface => decide (surface.path ≠ path))
    (entriesAt answers base (rootsOf answers base).surfaces)
  have grouped : ∀ item ∈ entriesAt answers base (rootsOf answers base).surfaces,
      item.1.groupName.isSome → item.1.addressPrefix = Surface.groupedPrefix :=
    fun item member => rootsOf_grouped answers base item.1 (surface_of_mem_entriesAt member)
  rw [discover_run answered, discover_run answered', roots, entries]
  refine ⟨rfl, endpoints, ?_, ?_⟩
  · intro version kind endpoint found kept
    exact Catalog.foldl_resolve_filter (fun surface => decide (surface.path ≠ path)) grouped found
      (decide_eq_true kept)
  · intro group version plain place kind
    have indexed := Catalog.foldl_addEntry_indexed Catalog.indexed_empty
      ((entriesAt answers base (rootsOf answers base).surfaces).filter
        fun item => decide (item.1.path ≠ path))
    refine Catalog.resolve_eq_none ⟨indexed.endpoints, indexed.types⟩ plain (fun endpoint member => ?_) kind
    rw [endpoints] at member
    intro there
    have kept := of_decide_eq_true (List.mem_filter.mp member).2
    rw [there] at kept
    exact kept place.symm

/-- Discovery without the root document of a prefix finds all but that prefix. -/
theorem lacksPrefix_of_failure {transport broken : Transport} {addressPrefix : String}
    (answered : transport.AnswersBy answers) (answered' : broken.AnswersBy answers')
    (failure : IsRootFailure addressPrefix (answers' (base ++ "/" ++ addressPrefix)))
    (elsewhere : ∀ url, url ≠ base ++ "/" ++ addressPrefix → answers' url = answers url)
    (sent sent' : List Http.Request) :
    Catalog.LacksPrefix ((discover broken base).run sent').1 ((discover transport base).run sent).1
      addressPrefix := by
  have plain : '/' ∉ addressPrefix.toList := by
    rcases failure with ⟨legacy, _⟩ | ⟨rfl, _⟩
    · exact slash_not_mem_legacy addressPrefix legacy
    · decide
  have entries : entriesAt answers' base (rootsOf answers' base).surfaces
      = (entriesAt answers base (rootsOf answers base).surfaces).filter
          fun item => decide (item.1.addressPrefix ≠ addressPrefix) := by
    rw [rootsOf_without failure elsewhere, entriesAt_congr fun path below =>
      elsewhere _ <| url_ne_of_path_ne fun same => plain (same ▸ below)]
    exact (entriesAt_filter (fun surface => decide (surface.addressPrefix ≠ addressPrefix)) _).symm
  have groups : (rootsOf answers' base).groups = (rootsOf answers base).groups.filter
      fun group => decide (group.addressPrefix ≠ addressPrefix) := by
    rw [rootsOf_without failure elsewhere]
    rfl
  rw [discover_run answered, discover_run answered', entries, groups]
  exact ⟨Catalog.foldl_addGroup_filter (fun other => decide (other ≠ addressPrefix)) _,
    Catalog.foldl_endpoints_filter (fun surface => decide (surface.addressPrefix ≠ addressPrefix)) _⟩

/-- Where one URL fails and the others answer as before, discovery loses what that URL lists or
roots, and nothing else. -/
theorem discover_isolates {transport broken : Transport} {url : String}
    (answered : transport.AnswersBy answers) (answered' : broken.AnswersBy answers')
    (elsewhere : ∀ other, other ≠ url → answers' other = answers other)
    (sent sent' : List Http.Request) :
    (∀ surface : Surface, url = base ++ "/" ++ surface.path →
      IsFailure ResourceListing.ofTree? (answers' url) →
      Catalog.LacksPath ((discover broken base).run sent').1
        ((discover transport base).run sent).1 surface.path) ∧
    (∀ addressPrefix, url = base ++ "/" ++ addressPrefix →
      IsRootFailure addressPrefix (answers' url) →
      Catalog.LacksPrefix ((discover broken base).run sent').1
        ((discover transport base).run sent).1 addressPrefix) := by
  constructor
  · rintro surface rfl failure
    exact lacksPath_of_failure answered answered' failure elsewhere (slash_mem_path surface) sent
      sent'
  · rintro addressPrefix rfl failure
    exact lacksPrefix_of_failure answered answered' failure elsewhere sent sent'

/-- A server with one version of the core and pods in it. -/
def podTable : String → Option Http.Response
  | "https://c.example/api" => some ⟨200, "\x7b\"versions\":[\"v1\"]\x7d"⟩
  | "https://c.example/api/v1" => some ⟨200,
      "\x7b\"resources\":[\x7b\"name\":\"pods\",\"kind\":\"Pod\",\"verbs\":[\"get\"]\x7d]\x7d"⟩
  | _ => none

theorem discover_isolates_pods :
    let found (table : String → Option Http.Response) : Catalog :=
      ((discover ⟨.ofTable table, "", none⟩ "https://c.example").run []).1
    let whole := found podTable
    whole.endpoints.map (·.pluralName) = ["pods"] ∧
    Catalog.LacksPath (found (Function.update podTable "https://c.example/api/v1" none)) whole
      "api/v1" ∧
    Catalog.LacksPrefix (found (Function.update podTable "https://c.example/api" none)) whole
      "api" := by
  have answered := Transport.answersBy_ofTable podTable "" none
  have failing (url : String) :=
    Transport.answersBy_ofTable (Function.update podTable url none) "" none
  refine ⟨by decide +kernel, ?_, ?_⟩
  · refine (discover_isolates answered (failing "https://c.example/api/v1")
      (fun other different => Transport.answersOf_update_of_ne different ..) [] []).1
      ⟨"api", none, "v1"⟩ rfl ?_
    rw [Transport.answersOf_update_none]
    trivial
  · refine (discover_isolates answered (failing "https://c.example/api")
      (fun other different => Transport.answersOf_update_of_ne different ..) [] []).2
      "api" rfl (Or.inl ⟨by decide, ?_⟩)
    rw [Transport.answersOf_update_none]
    trivial

end Discovery

end ClusterClient
