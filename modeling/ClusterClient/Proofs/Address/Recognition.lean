import ClusterClient.Proofs.Address.RoundTrip

namespace ClusterClient.Address

/-- The segments of a namespace that is written in a path in some way. -/
def placeSegments : Option String → List String
  | some text => ["namespaces", text]
  | none => []

/-- What a URL is made of beside its base and the texts of its endpoint. -/
structure Parts where
  /-- How many slashes stand before the first segment. -/
  slashes : Nat
  watch : Bool
  /-- The segment of a namespace, as it is written. -/
  place : Option String
  /-- The segments after the collection, as they are written. -/
  object : List String
  query : Option String

namespace Parts

def segments (endpoint : Endpoint) (parts : Parts) : List String :=
  endpoint.surfaceSegments ++ (if parts.watch then ["watch"] else [])
    ++ (placeSegments parts.place ++ endpoint.pluralName :: parts.object)

def path (endpoint : Endpoint) (parts : Parts) : String :=
  String.ofList (List.replicate parts.slashes '/') ++ "/".intercalate (parts.segments endpoint)

def url (base : String) (endpoint : Endpoint) (parts : Parts) : String :=
  Text.trimEnd '/' base ++ (parts.path endpoint ++ parts.query.elim "" ("?" ++ ·))

/-- The parts are segments, so that their path splits into them. -/
def IsPlain (parts : Parts) : Prop := ∀ text ∈ parts.place.toList ++ parts.object, IsSegment text

instance (parts : Parts) : Decidable parts.IsPlain :=
  inferInstanceAs (Decidable (∀ text ∈ _, IsSegment text))

/-- None of the parts is mistaken for another one. -/
structure Fits (parts : Parts) (endpoint : Endpoint) : Prop where
  plain : parts.IsPlain
  unwatched : parts.watch = false →
    (placeSegments parts.place ++ endpoint.pluralName :: parts.object).head? ≠ some "watch"
  placed : parts.place ≠ none → endpoint.convention = .modern ∧ endpoint.isScoped
  unplaced : parts.place = none → endpoint.convention = .modern → endpoint.isScoped →
    endpoint.pluralName ≠ "namespaces"

/-- What a part that may be missing reads as, if it reads as a text. -/
def unescape : Option String → Option (Option String)
  | some text => (Percent.decode? text).map some
  | none => some none

/-- The identity that the parts tell. -/
def identity? (endpoint : Endpoint) (parts : Parts) : Option Identity := do
  let place ← unescape parts.place
  let name ← unescape parts.object.head?
  some {
    kind := endpoint.kind
    version := some endpoint.apiVersion
    namespaceName :=
      if endpoint.convention = .legacy ∧ endpoint.isScoped then queryNamespace? parts.query
      else place
    name
    subresource := parts.object[1]? }

variable {parts : Parts} {endpoint : Endpoint}

theorem IsPlain.isSegment_of_mem_segments (parted : parts.IsPlain) (plain : endpoint.HasSegments) :
    ∀ text ∈ parts.segments endpoint, IsSegment text := by
  refine isSegment_of_mem_place plain (fun text inPlace => ?_) fun text inObject =>
    parted text (List.mem_append_right _ inObject)
  unfold placeSegments at inPlace
  split at inPlace
  · next name named =>
    simp only [List.mem_cons, List.not_mem_nil, or_false] at inPlace
    rcases inPlace with rfl | rfl
    · exact ⟨by decide, by decide⟩
    · exact parted text (by simp [named])
  · cases inPlace

theorem pieces_segments (plain : endpoint.HasSegments) (parted : parts.IsPlain) :
    Text.pieces '/' ("/".intercalate (parts.segments endpoint)) = parts.segments endpoint := by
  have nonempty : parts.segments endpoint ≠ [] := by simp [segments, Endpoint.surfaceSegments]
  exact pieces_of_isSegment nonempty (parted.isSegment_of_mem_segments plain)

theorem trimStart_path (plain : endpoint.HasSegments) (written : endpoint.addressPrefix ≠ "")
    (parts : Parts) :
    Text.trimStart '/' (parts.path endpoint) = "/".intercalate (parts.segments endpoint) :=
  trimStart_slashes written plain.prefix_segment parts.slashes _

theorem cut_path (plain : endpoint.HasSegments) (parted : parts.IsPlain) :
    Text.cut '?' (parts.path endpoint ++ parts.query.elim "" ("?" ++ ·))
      = (parts.path endpoint, parts.query) := by
  have segments := unmarked_of_isSegment (parted.isSegment_of_mem_segments plain)
  have unmarked : '?' ∉ (parts.path endpoint).toList := by
    rw [path, String.toList_append, List.mem_append, String.toList_ofList, not_or]
    exact ⟨fun member => absurd (List.eq_of_mem_replicate member) (by decide), segments⟩
  cases parts.query with
  | none => rw [Option.elim_none, String.append_empty, Text.cut_of_not_mem unmarked]
  | some query =>
    rw [Option.elim_some, ← String.append_assoc]
    exact Text.cut_append unmarked query

theorem takeNamespace?_placeSegments (fits : parts.Fits endpoint) :
    takeNamespace? endpoint (placeSegments parts.place ++ endpoint.pluralName :: parts.object)
      = (unescape parts.place).map (·, endpoint.pluralName :: parts.object) := by
  cases place : parts.place with
  | some text =>
    obtain ⟨modern, inScope⟩ := fits.placed (by simp [place])
    have placed : endpoint.convention = .modern ∧ endpoint.isScoped ∧
        (placeSegments (some text) ++ endpoint.pluralName :: parts.object).head?
          = some "namespaces" := ⟨modern, inScope, rfl⟩
    rw [takeNamespace?, if_pos placed, unescape, Option.map_map]
    rfl
  | none =>
    have unplaced := fits.unplaced place
    have nothing : ¬ (endpoint.convention = .modern ∧ endpoint.isScoped ∧
        (endpoint.pluralName :: parts.object).head? = some "namespaces") := by
      rintro ⟨modern, inScope, keyword⟩
      exact unplaced modern inScope (Option.some.inj keyword)
    exact if_neg nothing

/-- Parts that fit are found again in their URL. -/
theorem extract?_partsUrl (plain : endpoint.HasSegments) (written : endpoint.addressPrefix ≠ "")
    (fits : parts.Fits endpoint) (base : String) :
    extract? base endpoint (parts.url base endpoint) = parts.identity? endpoint := by
  have surface := afterSurface?_append endpoint fits.unwatched
  rw [extract?, url, Text.afterPrefix?_append]
  simp only [Option.bind_eq_bind, Option.bind_some, cut_path plain fits.plain,
    trimStart_path plain written, pieces_segments plain fits.plain]
  rw [segments, surface, Option.bind_some, takeNamespace?_placeSegments fits]
  rw [identity?]
  cases unescape parts.place with
  | none => rfl
  | some place =>
    simp only [Option.map_some, Option.bind_some, afterSegment?_self, Option.bind_eq_bind]
    cases parts.object.head? <;> rfl

end Parts

variable {endpoint : Endpoint}

theorem eq_of_afterSegment? {segment : String} {segments rest : List String}
    (found : afterSegment? segment segments = some rest) : segments = segment :: rest := by
  cases segments with
  | nil => cases found
  | cons first others =>
    simp only [afterSegment?] at found
    split at found
    · next same => rw [same, Option.some.inj found]
    · cases found

theorem exists_of_skipSegment (segments : List String) : ∃ watch : Bool,
    segments = (if watch then ["watch"] else []) ++ skipSegment "watch" segments ∧
      (watch = false → (skipSegment "watch" segments).head? ≠ some "watch") := by
  cases segments with
  | nil => exact ⟨false, rfl, fun _ => by simp [skipSegment]⟩
  | cons first rest =>
    by_cases same : first = "watch"
    · exact ⟨true, by simp [skipSegment, same], fun not => by cases not⟩
    · exact ⟨false, by simp [skipSegment, same], fun _ => by simp [skipSegment, same]⟩

/-- The segments of the surface stand before what is found after it. -/
theorem exists_of_afterSurface? {segments rest : List String}
    (found : afterSurface? endpoint segments = some rest) : ∃ watch : Bool,
    segments = endpoint.surfaceSegments ++ (if watch then ["watch"] else []) ++ rest ∧
      (watch = false → rest.head? ≠ some "watch") := by
  simp only [afterSurface?, Option.bind_eq_bind] at found
  obtain ⟨afterPrefix, prefixed, found⟩ := Option.bind_eq_some_iff.mp found
  obtain ⟨afterGroup, group, found⟩ : ∃ afterGroup,
      afterPrefix = endpoint.groupName.toList ++ afterGroup ∧
        ((afterSegment? endpoint.version afterGroup).bind fun rest =>
          some (skipSegment "watch" rest)) = some rest := by
    cases convention : endpoint.convention with
    | legacy =>
      rw [convention] at found
      rw [Endpoint.groupName_of_legacy convention]
      exact ⟨afterPrefix, rfl, found⟩
    | modern =>
      cases named : endpoint.groupName with
      | none =>
        rw [convention, named] at found
        exact ⟨afterPrefix, rfl, found⟩
      | some name =>
        rw [convention, named] at found
        obtain ⟨afterGroup, grouped, found⟩ := Option.bind_eq_some_iff.mp found
        exact ⟨afterGroup, eq_of_afterSegment? grouped, found⟩
  obtain ⟨afterVersion, versioned, skipped⟩ := Option.bind_eq_some_iff.mp found
  obtain ⟨watch, watched, head⟩ := exists_of_skipSegment afterVersion
  rw [Option.some.inj skipped] at watched head
  refine ⟨watch, ?_, head⟩
  rw [eq_of_afterSegment? prefixed, group, eq_of_afterSegment? versioned, watched]
  simp [Endpoint.surfaceSegments]

/-- A namespace is taken from two segments, and only where it may stand. -/
theorem exists_of_takeNamespace? {segments rest : List String} {name : Option String}
    (found : takeNamespace? endpoint segments = some (name, rest)) : ∃ place : Option String,
    segments = placeSegments place ++ rest ∧
    (place ≠ none → endpoint.convention = .modern ∧ endpoint.isScoped) ∧
    (place = none → endpoint.convention = .modern → endpoint.isScoped →
      rest.head? ≠ some "namespaces") := by
  unfold takeNamespace? at found
  split at found
  · next placed =>
    obtain ⟨modern, inScope, keyword⟩ := placed
    obtain ⟨first, others⟩ := List.head?_eq_some_iff.mp keyword
    split at found
    · cases found
    · next text after tail =>
      obtain ⟨read, _, same⟩ := Option.map_eq_some_iff.mp found
      obtain ⟨-, rfl⟩ := Prod.mk.inj same
      refine ⟨some text, ?_, fun _ => ⟨modern, inScope⟩, fun absent => by cases absent⟩
      rw [others] at tail ⊢
      rw [List.tail_cons] at tail
      rw [tail]
      rfl
  · next unplaced =>
    obtain ⟨-, rfl⟩ := Prod.mk.inj (Option.some.inj found)
    refine ⟨none, rfl, fun present => absurd rfl present, fun _ modern inScope keyword => ?_⟩
    exact unplaced ⟨modern, inScope, keyword⟩

/-- Whatever is recognized is made of parts that fit. -/
theorem exists_parts_of_extract? {base url : String} {identity : Identity}
    (found : extract? base endpoint url = some identity) :
    ∃ parts : Parts, parts.Fits endpoint ∧ url = parts.url base endpoint := by
  obtain ⟨rest, onBase, found⟩ := Option.bind_eq_some_iff.mp found
  obtain ⟨unmarked, whole⟩ := Text.eq_of_cut '?' rest
  cases parted : Text.cut '?' rest with
  | mk path query =>
    rw [parted] at found unmarked whole
    obtain ⟨afterSurface, surface, found⟩ := Option.bind_eq_some_iff.mp found
    obtain ⟨watch, segments, unwatched⟩ := exists_of_afterSurface? surface
    obtain ⟨⟨name, afterPlace⟩, taken, found⟩ := Option.bind_eq_some_iff.mp found
    obtain ⟨place, placed, mayPlace, unplaced⟩ := exists_of_takeNamespace? taken
    obtain ⟨object, plural, -⟩ := Option.bind_eq_some_iff.mp found
    rw [eq_of_afterSegment? plural] at placed unplaced
    rw [placed] at segments unwatched
    obtain ⟨slashes, run⟩ := Text.exists_replicate_trimStart '/' path
    have joined := Text.intercalate_pieces '/' (Text.trimStart '/' path)
    rw [segments] at joined
    refine ⟨⟨slashes, watch, place, object, query⟩, ⟨?_, unwatched, mayPlace, ?_⟩, ?_⟩
    · intro text member
      have piece : text ∈ Text.pieces '/' (Text.trimStart '/' path) := by
        rw [segments]
        rcases List.mem_append.mp member with inPlace | inObject
        · have named : place = some text := Option.mem_toList.mp inPlace
          rw [named]
          exact List.mem_append_right _ (List.mem_cons_of_mem _ List.mem_cons_self)
        · exact List.mem_append_right _ (List.mem_append_right _ (List.mem_cons_of_mem _ inObject))
      obtain ⟨apart, inside⟩ := Text.mem_pieces piece
      refine ⟨apart, fun marked => unmarked ?_⟩
      rw [run, String.toList_append]
      exact List.mem_append_right _ (inside marked)
    · intro absent modern inScope keyword
      exact unplaced absent modern inScope (by rw [keyword]; rfl)
    · rw [Text.afterPrefix?_eq_some_iff.mp onBase, whole, run, ← joined]
      rfl

end ClusterClient.Address
