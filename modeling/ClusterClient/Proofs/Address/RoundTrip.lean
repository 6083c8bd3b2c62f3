import ClusterClient.Address.Extract
import ClusterClient.Proofs.Text.Percent
import ClusterClient.Proofs.Text.Pieces

namespace ClusterClient

/-- A text that a path holds as it is, between two of its slashes. -/
def IsSegment (text : String) : Prop := '/' ∉ text.toList ∧ '?' ∉ text.toList

instance : DecidablePred IsSegment := fun _ => inferInstanceAs (Decidable (_ ∧ _))

theorem isSegment_encode (text : String) : IsSegment (Percent.encode text) :=
  ⟨Percent.not_mem_encode (by decide) text, Percent.not_mem_encode (by decide) text⟩

theorem pieces_of_isSegment {segments : List String} (nonempty : segments ≠ [])
    (plain : ∀ text ∈ segments, IsSegment text) :
    Text.pieces '/' ("/".intercalate segments) = segments := by
  rw [show "/" = String.singleton '/' from rfl]
  exact Text.pieces_intercalate nonempty fun text member => (plain text member).1

/-- The slashes before the first segment are told from those between the segments. -/
theorem trimStart_slashes {first : String} (written : first ≠ "") (plain : IsSegment first)
    (slashes : Nat) (rest : List String) :
    Text.trimStart '/' (String.ofList (List.replicate slashes '/') ++ "/".intercalate (first :: rest))
      = "/".intercalate (first :: rest) := by
  refine Text.trimStart_replicate_append ?_ slashes
  rw [show "/" = String.singleton '/' from rfl, Text.head?_intercalate written '/']
  exact fun slash => plain.1 (List.mem_of_head? slash)

theorem unmarked_of_isSegment {segments : List String}
    (plain : ∀ text ∈ segments, IsSegment text) : '?' ∉ ("/".intercalate segments).toList := by
  rw [show "/" = String.singleton '/' from rfl]
  exact Text.not_mem_intercalate (by decide) fun text member => (plain text member).2

namespace Endpoint

/-- No version in a group is old enough for the query. -/
theorem groupName_of_legacy {endpoint : Endpoint} (legacy : endpoint.convention = .legacy) :
    endpoint.groupName = none := by
  cases group : endpoint.groupName with
  | none => rfl
  | some name =>
    have slash : '/' ∈ endpoint.apiVersion.toList := by
      simp [apiVersion, qualifiedVersion, group]
    simp only [convention, Convention.ofVersion] at legacy
    split at legacy
    · next old => rcases old with old | old <;> simp [old] at slash
    · cases legacy

/-- The segments that all addresses on an endpoint start with. -/
def surfaceSegments (endpoint : Endpoint) : List String :=
  endpoint.addressPrefix :: (endpoint.groupName.toList ++ [endpoint.version])

/-- An endpoint whose texts hold no separators, so that a path holds them as they are. -/
structure HasSegments (endpoint : Endpoint) : Prop where
  prefix_segment : IsSegment endpoint.addressPrefix
  group_segment : ∀ group, endpoint.groupName = some group → IsSegment group
  version_segment : IsSegment endpoint.version
  plural_segment : IsSegment endpoint.pluralName

/-- An endpoint whose addresses can be taken apart again: its texts hold no separators, and its
collection is not mistaken for a keyword that may stand in its place. -/
structure Addressable (endpoint : Endpoint) : Prop where
  prefix_nonempty : endpoint.addressPrefix ≠ ""
  prefix_segment : IsSegment endpoint.addressPrefix
  group_segment : ∀ group, endpoint.groupName = some group → IsSegment group
  version_segment : IsSegment endpoint.version
  plural_segment : IsSegment endpoint.pluralName
  plural_ne_watch : endpoint.pluralName ≠ "watch"
  plural_ne_namespaces :
    endpoint.convention = .modern → endpoint.isScoped → endpoint.pluralName ≠ "namespaces"

theorem Addressable.hasSegments {endpoint : Endpoint} (addressable : endpoint.Addressable) :
    endpoint.HasSegments where
  prefix_segment := addressable.prefix_segment
  group_segment := addressable.group_segment
  version_segment := addressable.version_segment
  plural_segment := addressable.plural_segment

end Endpoint

namespace Address

/-- The segments of a namespace that stands in the path. -/
def namespaceSegments (address : Address) (endpoint : Endpoint) : List String :=
  match endpoint.convention, address.scopedNamespace endpoint with
  | .modern, some name => ["namespaces", Percent.encode name]
  | _, _ => []

/-- The segments from the collection on. -/
def objectSegments (address : Address) (endpoint : Endpoint) : List String :=
  endpoint.pluralName :: ((address.name.map Percent.encode).toList ++ address.subresource.toList)

theorem segments_eq (address : Address) (endpoint : Endpoint) :
    address.segments endpoint = endpoint.surfaceSegments ++ (if address.watch then ["watch"] else [])
      ++ address.namespaceSegments endpoint ++ address.objectSegments endpoint := by
  cases convention : endpoint.convention with
  | legacy =>
    have ungrouped := Endpoint.groupName_of_legacy convention
    simp [segments, Endpoint.surfaceSegments, namespaceSegments, objectSegments, convention,
      ungrouped]
  | modern =>
    cases place : address.scopedNamespace endpoint <;>
      simp [segments, Endpoint.surfaceSegments, namespaceSegments, objectSegments, convention, place]

/-- What an address may hold beside its endpoint, so that nothing in it is mistaken for something
else. A name, a namespace, and parameters may be any texts. -/
structure Readable (address : Address) (endpoint : Endpoint) : Prop where
  subresource_named : address.subresource ≠ none → address.name ≠ none
  subresource_segment : ∀ text, address.subresource = some text → IsSegment text
  namespace_unclaimed : endpoint.convention = .legacy → endpoint.isScoped →
    address.namespaceName = none → ∀ param ∈ address.params, param.1 ≠ "namespace"

variable {address : Address} {endpoint : Endpoint}

theorem isSegment_of_mem_place (plain : endpoint.HasSegments) {watch : Bool} {place object : List String}
    (placed : ∀ text ∈ place, IsSegment text) (named : ∀ text ∈ object, IsSegment text) :
    ∀ text ∈ endpoint.surfaceSegments ++ (if watch then ["watch"] else [])
      ++ (place ++ endpoint.pluralName :: object), IsSegment text := by
  intro text member
  simp only [List.mem_append, Endpoint.surfaceSegments, List.mem_cons, Option.mem_toList,
    List.not_mem_nil, or_false] at member
  rcases member with ((rfl | group | rfl) | watched) | inPlace | rfl | inObject
  · exact plain.prefix_segment
  · exact plain.group_segment text group
  · exact plain.version_segment
  · split at watched
    · rw [List.mem_singleton] at watched
      subst watched
      exact ⟨by decide, by decide⟩
    · cases watched
  · exact placed text inPlace
  · exact plain.plural_segment
  · exact named text inObject

theorem isSegment_of_mem_segments (plain : endpoint.HasSegments)
    (subresource : ∀ text, address.subresource = some text → IsSegment text)
    {text : String} (member : text ∈ address.segments endpoint) : IsSegment text := by
  rw [segments_eq, List.append_assoc] at member
  refine isSegment_of_mem_place plain (fun text inNamespace => ?_) (fun text inObject => ?_) text member
  · unfold namespaceSegments at inNamespace
    split at inNamespace
    · simp only [List.mem_cons, List.not_mem_nil, or_false] at inNamespace
      rcases inNamespace with rfl | rfl
      · exact ⟨by decide, by decide⟩
      · exact isSegment_encode _
    · cases inNamespace
  · simp only [List.mem_append, Option.mem_toList, Option.map_eq_some_iff] at inObject
    rcases inObject with ⟨name, _, rfl⟩ | sub
    · exact isSegment_encode name
    · exact subresource text sub

theorem isSegment_of_mem (addressable : endpoint.Addressable) (readable : address.Readable endpoint)
    {text : String} (member : text ∈ address.segments endpoint) : IsSegment text :=
  isSegment_of_mem_segments addressable.hasSegments readable.subresource_segment member

theorem afterSegment?_self (segment : String) (rest : List String) :
    afterSegment? segment (segment :: rest) = some rest := by
  simp [afterSegment?]

theorem skipSegment_of_head_ne {segment : String} {segments : List String}
    (different : segments.head? ≠ some segment) : skipSegment segment segments = segments := by
  cases segments with
  | nil => rfl
  | cons first rest =>
    have other : first ≠ segment := by simpa using different
    simp only [skipSegment, other, if_false]

theorem skipSegment_watch {watch : Bool} {rest : List String}
    (different : watch = false → rest.head? ≠ some "watch") :
    skipSegment "watch" ((if watch then ["watch"] else []) ++ rest) = rest := by
  cases watch with
  | false => exact skipSegment_of_head_ne (different rfl)
  | true => simp [skipSegment]

/-- What follows a surface is found, unless it starts like a watch without being one. -/
theorem afterSurface?_append (endpoint : Endpoint) {watch : Bool} {rest : List String}
    (different : watch = false → rest.head? ≠ some "watch") :
    afterSurface? endpoint
      (endpoint.surfaceSegments ++ (if watch then ["watch"] else []) ++ rest) = some rest := by
  have watched := skipSegment_watch different
  simp only [afterSurface?, Endpoint.surfaceSegments, List.cons_append, List.append_assoc,
    afterSegment?_self, Option.bind_eq_bind, Option.bind_some]
  cases convention : endpoint.convention with
  | legacy =>
    simp [Endpoint.groupName_of_legacy convention, afterSegment?_self, watched]
  | modern =>
    cases endpoint.groupName <;> simp [afterSegment?_self, watched]

theorem afterSurface?_surfaceSegments (endpoint : Endpoint) (watch : Bool) {rest : List String}
    (different : rest.head? ≠ some "watch") :
    afterSurface? endpoint
      (endpoint.surfaceSegments ++ (if watch then ["watch"] else []) ++ rest) = some rest :=
  afterSurface?_append endpoint fun _ => different

theorem takeNamespace?_namespaceSegments (addressable : endpoint.Addressable)
    (address : Address) :
    takeNamespace? endpoint (address.namespaceSegments endpoint ++ address.objectSegments endpoint)
      = some (if endpoint.convention = .modern then address.scopedNamespace endpoint else none,
          address.objectSegments endpoint) := by
  cases convention : endpoint.convention with
  | legacy => simp [takeNamespace?, namespaceSegments, convention]
  | modern =>
    by_cases inScope : endpoint.isScoped
    · have plural := addressable.plural_ne_namespaces convention inScope
      cases place : address.scopedNamespace endpoint <;>
        simp [takeNamespace?, namespaceSegments, objectSegments, convention, inScope, place, plural,
          Percent.decode?_encode]
    · simp [takeNamespace?, namespaceSegments, scopedNamespace, convention, inScope]

/-- The query of an address without its mark, if there is one. -/
def queryBody? : List (String × String) → Option String
  | [] => none
  | params => some ("&".intercalate (params.map paramText))

theorem cut_queryText {path : String} (plain : '?' ∉ path.toList) (params : List (String × String)) :
    Text.cut '?' (path ++ queryText params) = (path, queryBody? params) := by
  cases params with
  | nil => simpa [queryText, queryBody?] using Text.cut_of_not_mem plain
  | cons param rest =>
    have parted := Text.cut_append plain ("&".intercalate ((param :: rest).map paramText))
    rw [String.append_assoc] at parted
    exact parted

theorem not_mem_paramText (param : String × String) : '&' ∉ (paramText param).toList := by
  have reserved : Percent.isWritten '&' = false := by decide
  have key := Percent.not_mem_encode reserved param.1
  have value := Percent.not_mem_encode reserved param.2
  simp [paramText, key, value]

theorem cut_paramText (param : String × String) :
    Text.cut '=' (paramText param) = (Percent.encode param.1, some (Percent.encode param.2)) :=
  Text.cut_append (Percent.not_mem_encode (by decide) param.1) (Percent.encode param.2)

theorem pieces_queryBody {param : String × String} {rest : List (String × String)} :
    Text.pieces '&' ("&".intercalate ((param :: rest).map paramText))
      = (param :: rest).map paramText := by
  apply Text.pieces_intercalate
  · simp
  · intro text member
    obtain ⟨param, _, rfl⟩ := List.mem_map.mp member
    exact not_mem_paramText param

/-- Escapes keep keys apart, so a parameter is found in the text under its key. -/
theorem lookup_encoded (key : String) (params : List (String × String)) :
    (params.map fun param => (Percent.encode param.1, Percent.encode param.2)).lookup
        (Percent.encode key) = (params.lookup key).map Percent.encode := by
  induction params with
  | nil => rfl
  | cons param rest ih =>
    obtain ⟨other, value⟩ := param
    by_cases same : key = other
    · simp [same]
    · have apart : Percent.encode key ≠ Percent.encode other :=
        fun equal => same (Percent.encode_injective equal)
      simp only [List.map_cons, List.lookup_cons, beq_false_of_ne same, beq_false_of_ne apart, ih]

theorem queryNamespace?_queryBody? (params : List (String × String)) :
    queryNamespace? (queryBody? params) = params.lookup "namespace" := by
  cases params with
  | nil => rfl
  | cons param rest =>
    have found := lookup_encoded "namespace" (param :: rest)
    rw [Percent.encode_namespace] at found
    simp only [queryNamespace?, queryBody?, Option.bind_eq_bind, Option.bind_some,
      pieces_queryBody, List.filterMap_map, Function.comp_def, cut_paramText,
      List.filterMap_eq_map', found]
    cases (param :: rest).lookup "namespace" <;> simp [Percent.decode?_encode]

theorem lookup_query (readable : address.Readable endpoint) (legacy : endpoint.convention = .legacy)
    (inScope : endpoint.isScoped) :
    (address.query endpoint).lookup "namespace" = address.scopedNamespace endpoint := by
  cases name : address.namespaceName with
  | none =>
    have unclaimed := readable.namespace_unclaimed legacy inScope name
    simp only [query, scopedNamespace, legacy, inScope, if_true, name, List.nil_append]
    rw [List.lookup_eq_none_iff]
    intro param member
    simpa using (unclaimed param member).symm
  | some name' => simp [query, scopedNamespace, legacy, inScope, name]

theorem head_ne_watch_of_plural (plural : endpoint.pluralName ≠ "watch") (address : Address) :
    (address.namespaceSegments endpoint ++ address.objectSegments endpoint).head? ≠ some "watch" := by
  unfold namespaceSegments
  split
  · simp
  · simpa [objectSegments] using plural

theorem head_ne_watch (addressable : endpoint.Addressable) (address : Address) :
    (address.namespaceSegments endpoint ++ address.objectSegments endpoint).head? ≠ some "watch" :=
  head_ne_watch_of_plural addressable.plural_ne_watch address

theorem not_mem_path (addressable : endpoint.Addressable) (readable : address.Readable endpoint) :
    '?' ∉ ("/" ++ "/".intercalate (address.segments endpoint)).toList := by
  have apart := unmarked_of_isSegment fun text => isSegment_of_mem addressable readable
  rw [String.toList_append, List.mem_append, not_or]
  exact ⟨by decide, apart⟩

/-- The path of an address splits into its segments again. -/
theorem pieces_path (addressable : endpoint.Addressable) (readable : address.Readable endpoint) :
    Text.pieces '/' (Text.trimStart '/' ("/" ++ "/".intercalate (address.segments endpoint)))
      = address.segments endpoint := by
  have nonempty : address.segments endpoint ≠ [] := by
    simp [segments_eq, Endpoint.surfaceSegments]
  have trimmed : Text.trimStart '/' ("/" ++ "/".intercalate (address.segments endpoint))
      = "/".intercalate (address.segments endpoint) := by
    rw [segments_eq, Endpoint.surfaceSegments]
    exact trimStart_slashes addressable.prefix_nonempty addressable.prefix_segment 1 _
  rw [trimmed]
  exact pieces_of_isSegment nonempty fun text => isSegment_of_mem addressable readable

theorem scopedNamespace_eq (address : Address) (endpoint : Endpoint) :
    address.scopedNamespace endpoint =
      if endpoint.namespaced ∧ endpoint.kind ≠ "Project" ∧ endpoint.kind ≠ "Namespace" then
        address.namespaceName
      else none := by
  simp only [scopedNamespace, Endpoint.isScoped, Kind.isNamespaceRoot, Bool.and_eq_true,
    Bool.not_eq_true', Bool.or_eq_false_iff, beq_eq_false_iff_ne]

/-- Wherever the convention puts the namespace, it is found there. -/
theorem foundNamespace_eq (readable : address.Readable endpoint) :
    (if endpoint.convention = .legacy ∧ endpoint.isScoped then
        queryNamespace? (queryBody? (address.query endpoint))
      else if endpoint.convention = .modern then address.scopedNamespace endpoint else none)
      = address.scopedNamespace endpoint := by
  cases convention : endpoint.convention with
  | modern => simp
  | legacy =>
    by_cases inScope : endpoint.isScoped
    · simp [inScope, queryNamespace?_queryBody?, lookup_query readable convention inScope]
    · simp [inScope, scopedNamespace]

/-- An address is recovered from its URL: the namespace where the endpoint has one, the name and the
sub-resource, whatever texts the name, the namespace and the parameters are. -/
theorem extract?_url {base : String} (onBase : address.base = Text.trimEnd '/' base)
    (onEndpoint : address.endpoint = some endpoint) (addressable : endpoint.Addressable)
    (readable : address.Readable endpoint) :
    ∃ url, address.url = .ok url ∧ extract? base endpoint url = some {
      kind := endpoint.kind
      version := some endpoint.apiVersion
      namespaceName :=
        if endpoint.namespaced ∧ endpoint.kind ≠ "Project" ∧ endpoint.kind ≠ "Namespace" then
          address.namespaceName
        else none
      name := address.name
      subresource := address.subresource } := by
  refine ⟨address.urlAt endpoint, by rw [url, onEndpoint], ?_⟩
  have parted := cut_queryText (not_mem_path addressable readable) (address.query endpoint)
  have whole : address.urlAt endpoint = Text.trimEnd '/' base
      ++ ("/" ++ "/".intercalate (address.segments endpoint) ++ queryText (address.query endpoint)) := by
    simp only [urlAt, onBase, String.append_assoc]
  have surface := afterSurface?_surfaceSegments endpoint address.watch
    (head_ne_watch addressable address)
  have place := takeNamespace?_namespaceSegments addressable address
  rw [extract?, whole, Text.afterPrefix?_append]
  simp only [Option.bind_eq_bind, Option.bind_some, parted, pieces_path addressable readable]
  rw [segments_eq, List.append_assoc, surface, Option.bind_some, place, Option.bind_some]
  simp only [objectSegments, afterSegment?_self, Option.bind_some, foundNamespace_eq readable,
    ← scopedNamespace_eq]
  cases name : address.name with
  | none =>
    have bare : address.subresource = none := by
      by_contra present
      exact readable.subresource_named present name
    simp [bare]
  | some name => cases sub : address.subresource <;> simp [Percent.decode?_encode]

/-- Separators and keywords in a name, a namespace or a parameter are no hindrance. -/
theorem extract?_url_keywords :
    let endpoint : Endpoint :=
      ⟨"apis", some "apps", "v1", "deployments", "Deployment", true, ["get"], ["scale"]⟩
    let address : Address := {
      base := "https://cluster.example", endpoint := some endpoint, name := some "watch/a?b"
      namespaceName := some "namespaces", subresource := some "scale", watch := true
      params := [("namespace", "&=é")] }
    address.base = Text.trimEnd '/' "https://cluster.example//" ∧ endpoint.Addressable ∧
      address.Readable endpoint ∧
      ∃ url, address.url = .ok url ∧ extract? "https://cluster.example//" endpoint url = some {
        kind := "Deployment", version := some "apps/v1", namespaceName := some "namespaces"
        name := some "watch/a?b", subresource := some "scale" } := by
  intro endpoint address
  have onBase : address.base = Text.trimEnd '/' "https://cluster.example//" := by decide
  have addressable : endpoint.Addressable := {
    prefix_nonempty := by decide
    prefix_segment := ⟨by decide, by decide⟩
    group_segment := by
      rintro group same
      cases same
      exact ⟨by decide, by decide⟩
    version_segment := ⟨by decide, by decide⟩
    plural_segment := ⟨by decide, by decide⟩
    plural_ne_watch := by decide
    plural_ne_namespaces := by decide }
  have readable : address.Readable endpoint := {
    subresource_named := by decide
    subresource_segment := by
      rintro text same
      cases same
      exact ⟨by decide, by decide⟩
    namespace_unclaimed := by decide }
  exact ⟨onBase, addressable, readable, extract?_url onBase rfl addressable readable⟩

end Address

end ClusterClient
