import ClusterClient.Proofs.Address.RoundTrip
import ClusterClient.Proofs.Discovery.Answers
import ClusterClient.Proofs.Discovery.Surfaces
import ClusterClient.Url.DomainName

namespace ClusterClient

theorem Surface.IsRooted.prefix_segment {surface : Surface} (rooted : surface.IsRooted) :
    IsSegment surface.addressPrefix := by
  rcases rooted with ⟨_, legacy⟩ | ⟨_, grouped⟩
  · have plain : ∀ text ∈ legacyPrefixes, '/' ∉ text.toList ∧ '?' ∉ text.toList := by decide
    exact plain surface.addressPrefix legacy
  · rw [grouped]
    exact ⟨by decide, by decide⟩

/-- The prefix of a surface tells whether the surface is one of a group. -/
theorem Surface.IsRooted.isSome_groupName {surface : Surface} (rooted : surface.IsRooted) :
    surface.groupName.isSome ↔ surface.addressPrefix = groupedPrefix := by
  rcases rooted with ⟨ungrouped, legacy⟩ | ⟨hasGroup, grouped⟩
  · have apart : surface.addressPrefix ≠ groupedPrefix := by
      intro same
      rw [same] at legacy
      exact absurd legacy (by decide)
    simp [ungrouped, apart]
  · exact iff_of_true hasGroup grouped

namespace Endpoint

/-- What stands first in a path tells the surface. -/
theorem surfaceSegments_append_inj {one other : Endpoint} (oneRooted : one.surface.IsRooted)
    (otherRooted : other.surface.IsRooted) {rest rest' : List String}
    (same : one.surfaceSegments ++ rest = other.surfaceSegments ++ rest') :
    one.surface = other.surface ∧ rest = rest' := by
  simp only [surfaceSegments, List.cons_append, List.append_assoc, List.cons.injEq] at same
  obtain ⟨samePrefix, same⟩ := same
  have sameSort : one.groupName.isSome ↔ other.groupName.isSome := by
    have oneSort := oneRooted.isSome_groupName
    have otherSort := otherRooted.isSome_groupName
    simp only [surface, samePrefix] at oneSort otherSort
    exact oneSort.trans otherSort.symm
  cases group : one.groupName with
  | none =>
    have ungrouped : other.groupName = none := by simpa [group] using sameSort
    simp only [group, ungrouped, Option.toList_none, List.nil_append, List.cons.injEq] at same
    exact ⟨by rw [surface, surface, samePrefix, group, ungrouped, same.1], same.2⟩
  | some name =>
    obtain ⟨otherName, named⟩ := Option.isSome_iff_exists.mp (sameSort.mp (by simp [group]))
    simp only [group, named, Option.toList_some, List.cons_append, List.nil_append,
      List.cons.injEq] at same
    exact ⟨by rw [surface, surface, samePrefix, group, named, same.1, same.2.1], same.2.2⟩

end Endpoint

namespace Address

variable {first second : Address} {endpoint : Endpoint}

theorem watch_append_inj {watch watch' : Bool} {rest rest' : List String}
    (head : rest.head? ≠ some "watch") (head' : rest'.head? ≠ some "watch")
    (same : (if watch then ["watch"] else []) ++ rest
      = (if watch' then ["watch"] else []) ++ rest') : watch = watch' ∧ rest = rest' := by
  cases watch <;> cases watch'
  · exact ⟨rfl, same⟩
  · exact absurd (congrArg List.head? same) head
  · exact absurd (congrArg List.head? same.symm) head'
  · exact ⟨rfl, (List.cons.inj same).2⟩

theorem length_namespaceSegments (address : Address) (endpoint : Endpoint) :
    (address.namespaceSegments endpoint).length = 0 ∨
      (address.namespaceSegments endpoint).length = 2 := by
  unfold namespaceSegments
  split
  · exact Or.inr rfl
  · exact Or.inl rfl

theorem objectSegments_of_bare (bare : first.subresource = none) (endpoint : Endpoint) :
    first.objectSegments endpoint = endpoint.pluralName :: (first.name.map Percent.encode).toList := by
  simp [objectSegments, bare]

/-- Without sub-resources the number of segments tells whether there is a namespace, and whether
there is a name, even where a collection is called as the segment before a namespace is. -/
theorem place_inj {one other : Endpoint} (bare : first.subresource = none)
    (bare' : second.subresource = none)
    (same : first.namespaceSegments one ++ first.objectSegments one
      = second.namespaceSegments other ++ second.objectSegments other) :
    first.namespaceSegments one = second.namespaceSegments other ∧
      one.pluralName = other.pluralName ∧ first.name = second.name := by
  rw [objectSegments_of_bare bare, objectSegments_of_bare bare'] at same
  have total := congrArg List.length same
  simp only [List.length_append, List.length_cons] at total
  have place := length_namespaceSegments first one
  have place' := length_namespaceSegments second other
  have object : (first.name.map Percent.encode).toList.length ≤ 1 := by
    cases first.name <;> simp
  have object' : (second.name.map Percent.encode).toList.length ≤ 1 := by
    cases second.name <;> simp
  obtain ⟨samePlace, sameObject⟩ := List.append_inj same (by omega)
  obtain ⟨plural, sameName⟩ := List.cons.inj sameObject
  have sameEncoded := congrArg List.head? sameName
  rw [Option.head?_toList, Option.head?_toList] at sameEncoded
  exact ⟨samePlace, plural, Option.map_injective Percent.encode_injective sameEncoded⟩

theorem paramText_injective : Function.Injective paramText := by
  intro one other same
  have parted := cut_paramText one
  rw [same, cut_paramText other, Prod.mk.injEq, Option.some.injEq] at parted
  exact Prod.ext (Percent.encode_injective parted.1.symm) (Percent.encode_injective parted.2.symm)

theorem queryBody?_injective : Function.Injective queryBody? := by
  intro one other same
  cases one with
  | nil =>
    cases other with
    | nil => rfl
    | cons => cases same
  | cons param rest =>
    cases other with
    | nil => cases same
    | cons param' rest' =>
      have pieces := congrArg (Text.pieces '&') (Option.some.inj same)
      rw [pieces_queryBody, pieces_queryBody] at pieces
      exact List.map_injective_iff.mpr paramText_injective pieces

/-- No parameter of a caller stands where a query has the namespace. -/
def LeavesNamespace (address : Address) (endpoint : Endpoint) : Prop :=
  endpoint.convention = .legacy → endpoint.isScoped → ∀ param ∈ address.params, param.1 ≠ "namespace"

/-- On one endpoint the places of the namespace and the query tell the namespace and the
parameters. -/
theorem query_inj (unclaimed : first.LeavesNamespace endpoint)
    (unclaimed' : second.LeavesNamespace endpoint)
    (samePlace : first.namespaceSegments endpoint = second.namespaceSegments endpoint)
    (same : first.query endpoint = second.query endpoint) :
    first.params = second.params ∧
      (endpoint.isScoped → first.namespaceName = second.namespaceName) := by
  by_cases inScope : endpoint.isScoped
  · cases convention : endpoint.convention with
    | modern =>
      refine ⟨by simpa [query, convention] using same, fun _ => ?_⟩
      simp only [namespaceSegments, scopedNamespace, convention, inScope, if_true] at samePlace
      cases place : first.namespaceName <;> cases place' : second.namespaceName <;>
        simp only [place, place', reduceCtorEq, List.cons.injEq, and_true, true_and] at samePlace
      · rfl
      · rw [Percent.encode_injective samePlace]
    | legacy =>
      have free := unclaimed convention inScope
      have free' := unclaimed' convention inScope
      simp only [query, scopedNamespace, convention, inScope, if_true] at same
      cases place : first.namespaceName with
      | none =>
        cases place' : second.namespaceName with
        | none => simpa [place, place'] using same
        | some name =>
          -- The namespace of one would be a parameter of the other.
          simp only [place, place', List.nil_append, List.cons_append] at same
          exact absurd rfl (free ("namespace", name) (same ▸ List.mem_cons_self))
      | some name =>
        cases place' : second.namespaceName with
        | none =>
          simp only [place, place', List.nil_append, List.cons_append] at same
          exact absurd rfl (free' ("namespace", name) (same ▸ List.mem_cons_self))
        | some name' =>
          simp only [place, place', List.cons_append, List.nil_append, List.cons.injEq,
            Prod.mk.injEq, true_and] at same
          exact ⟨same.2, fun _ => congrArg some same.1⟩
  · have whole (address : Address) : address.query endpoint = address.params := by
      simp [query, scopedNamespace, inScope]
    rw [whole, whole] at same
    exact ⟨same, fun inside => absurd inside inScope⟩

/-- On one base the text of a URL tells the segments of its path and its query. -/
theorem urlAt_inj {one other : Endpoint} (sameBase : first.base = second.base)
    (plain : ∀ text ∈ first.segments one, IsSegment text)
    (plain' : ∀ text ∈ second.segments other, IsSegment text)
    (same : first.urlAt one = second.urlAt other) :
    first.segments one = second.segments other ∧ first.query one = second.query other := by
  have nonempty (address : Address) (endpoint : Endpoint) : address.segments endpoint ≠ [] := by
    simp [segments_eq, Endpoint.surfaceSegments]
  simp only [urlAt, sameBase, String.append_assoc, String.append_right_inj] at same
  have parted := congrArg (Text.cut '?') same
  rw [cut_queryText (unmarked_of_isSegment plain), cut_queryText (unmarked_of_isSegment plain'),
    Prod.mk.injEq] at parted
  obtain ⟨path, query⟩ := parted
  have pieces := congrArg (Text.pieces '/') path
  rw [pieces_of_isSegment (nonempty first one) plain,
    pieces_of_isSegment (nonempty second other) plain'] at pieces
  exact ⟨pieces, queryBody?_injective query⟩

/-- An address on an endpoint of a catalog, without a sub-resource. -/
structure IsOn (address : Address) (catalog : Catalog) (endpoint : Endpoint) : Prop where
  endpoint_eq : address.endpoint = some endpoint
  member : endpoint ∈ catalog.endpoints
  bare : address.subresource = none
  unclaimed : address.LeavesNamespace endpoint

end Address

/-- A catalog whose texts hold no separators, and in which no collection is taken for a watch. -/
structure Catalog.Plain (catalog : Catalog) : Prop where
  group_segment : ∀ endpoint ∈ catalog.endpoints, ∀ group, endpoint.groupName = some group →
    IsSegment group
  version_segment : ∀ endpoint ∈ catalog.endpoints, IsSegment endpoint.version
  plural_segment : ∀ endpoint ∈ catalog.endpoints, IsSegment endpoint.pluralName
  plural_ne_watch : ∀ endpoint ∈ catalog.endpoints, endpoint.pluralName ≠ "watch"

theorem Catalog.Plain.hasSegments {catalog : Catalog} (plain : catalog.Plain)
    (rooted : catalog.Rooted) {endpoint : Endpoint} (member : endpoint ∈ catalog.endpoints) :
    endpoint.HasSegments where
  prefix_segment := (rooted.rooted endpoint member).prefix_segment
  group_segment := plain.group_segment endpoint member
  version_segment := plain.version_segment endpoint member
  plural_segment := plain.plural_segment endpoint member

namespace Address

variable {first second : Address} {one other : Endpoint} {catalog : Catalog}

theorem IsOn.isSegment {address : Address} {endpoint : Endpoint}
    (isOn : address.IsOn catalog endpoint) (rooted : catalog.Rooted) (plain : catalog.Plain) :
    ∀ text ∈ address.segments endpoint, IsSegment text := by
  intro text member
  refine isSegment_of_mem_segments (plain.hasSegments rooted isOn.member) ?_ member
  rw [isOn.bare]
  exact fun text some => by cases some

/-- The path of an address tells its endpoint, whether it is a watch, its name and the place of its
namespace. -/
theorem segments_inj (rooted : catalog.Rooted) (plain : catalog.Plain)
    (firstOn : first.IsOn catalog one) (secondOn : second.IsOn catalog other)
    (same : first.segments one = second.segments other) :
    one = other ∧ first.watch = second.watch ∧ first.name = second.name ∧
      first.namespaceSegments one = second.namespaceSegments other := by
  simp only [segments_eq, List.append_assoc] at same
  obtain ⟨surface, same⟩ := Endpoint.surfaceSegments_append_inj (rooted.rooted one firstOn.member)
    (rooted.rooted other secondOn.member) same
  obtain ⟨watch, same⟩ := watch_append_inj
    (head_ne_watch_of_plural (plain.plural_ne_watch one firstOn.member) first)
    (head_ne_watch_of_plural (plain.plural_ne_watch other secondOn.member) second) same
  obtain ⟨place, plural, name⟩ := place_inj firstOn.bare secondOn.bare same
  have key : one.key = other.key := by
    simp only [Endpoint.surface, Surface.mk.injEq] at surface
    rw [Endpoint.key, Endpoint.key, surface.1, surface.2.1, surface.2.2, plural]
  exact ⟨rooted.indexed.endpoints.eq_of_key_eq firstOn.member secondOn.member key, watch, name,
    place⟩

/-- Whatever a server answered, no two addresses without sub-resources that are about different
things in its catalog have one URL. -/
theorem discovered_url_unambiguous {transport : Transport} {root : String}
    {sent : List Http.Request} (plain : ((Discovery.discover transport root).run sent).1.Plain)
    (firstOn : first.IsOn ((Discovery.discover transport root).run sent).1 one)
    (secondOn : second.IsOn ((Discovery.discover transport root).run sent).1 other)
    (sameBase : first.base = second.base) (same : first.url = second.url) :
    one = other ∧ first.watch = second.watch ∧ first.name = second.name ∧
      first.params = second.params ∧
      (one.isScoped → first.namespaceName = second.namespaceName) := by
  have rooted := Discovery.discover_rooted transport root sent
  rw [url, url, firstOn.endpoint_eq, secondOn.endpoint_eq] at same
  obtain ⟨path, query⟩ := urlAt_inj sameBase (firstOn.isSegment rooted plain)
    (secondOn.isSegment rooted plain) (Except.ok.inj same)
  obtain ⟨rfl, watch, name, place⟩ := segments_inj rooted plain firstOn secondOn path
  obtain ⟨params, namespaceName⟩ := query_inj firstOn.unclaimed secondOn.unclaimed place query
  exact ⟨rfl, watch, name, params, namespaceName⟩

/-- A server of namespaces and of pods in them. -/
def coreTable : String → Option Http.Response
  | "https://c.example/api" => some ⟨200, "\x7b\"versions\":[\"v1\"]\x7d"⟩
  | "https://c.example/api/v1" => some ⟨200, "\x7b\"resources\":["
      ++ "\x7b\"name\":\"namespaces\",\"kind\":\"Namespace\",\"verbs\":[\"get\"]\x7d,"
      ++ "\x7b\"name\":\"pods\",\"kind\":\"Pod\",\"namespaced\":true,\"verbs\":[\"get\"]\x7d]\x7d"⟩
  | _ => none

/-- The namespace of a namespace is left out of its URL; all else is in it. -/
theorem discovered_url_unambiguous_namespaces :
    let catalog := ((Discovery.discover ⟨.ofTable coreTable, "", none⟩ "https://c.example").run []).1
    let endpoint : Endpoint := ⟨"api", none, "v1", "namespaces", "Namespace", false, ["get"], []⟩
    let first : Address := {
      base := "https://c.example", endpoint := some endpoint, name := some "a/b"
      namespaceName := some "elsewhere", params := [("namespace", "&")] }
    let second : Address := { first with namespaceName := none }
    catalog.Plain ∧ first.IsOn catalog endpoint ∧ second.IsOn catalog endpoint ∧
      first.base = second.base ∧ first.url = second.url ∧
      first.watch = second.watch ∧ first.name = second.name ∧ first.params = second.params := by
  intro catalog endpoint first second
  have endpoints : catalog.endpoints =
      [endpoint, ⟨"api", none, "v1", "pods", "Pod", true, ["get"], []⟩] := by decide +kernel
  have plain : catalog.Plain := by
    constructor <;> rw [endpoints]
    · intro endpoint member group named
      simp only [List.mem_cons, List.not_mem_nil, or_false] at member
      rcases member with rfl | rfl <;> cases named
    · unfold IsSegment
      decide
    · unfold IsSegment
      decide
    · decide
  have member : endpoint ∈ catalog.endpoints := by
    rw [endpoints]
    exact List.mem_cons_self
  have firstOn : first.IsOn catalog endpoint := ⟨rfl, member, rfl, by unfold LeavesNamespace; decide⟩
  have secondOn : second.IsOn catalog endpoint :=
    ⟨rfl, member, rfl, by unfold LeavesNamespace; decide⟩
  have same : first.url = second.url := by decide
  obtain ⟨-, watch, name, params, -⟩ := discovered_url_unambiguous plain firstOn secondOn rfl same
  exact ⟨plain, firstOn, secondOn, rfl, same, watch, name, params⟩

end Address

end ClusterClient
