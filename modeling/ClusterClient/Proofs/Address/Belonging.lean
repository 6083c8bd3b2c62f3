import ClusterClient.Proofs.Address.Recognition

namespace ClusterClient.Address

namespace Parts

variable {parts other : Parts} {endpoint : Endpoint}

theorem path_inj (plain : endpoint.HasSegments) (written : endpoint.addressPrefix ≠ "")
    (parted : parts.IsPlain) (parted' : other.IsPlain)
    (same : parts.path endpoint = other.path endpoint) :
    parts.slashes = other.slashes ∧ parts.segments endpoint = other.segments endpoint := by
  have joined := congrArg (Text.trimStart '/') same
  rw [trimStart_path plain written, trimStart_path plain written] at joined
  have segments := congrArg (Text.pieces '/') joined
  rw [pieces_segments plain parted, pieces_segments plain parted'] at segments
  have lengths := congrArg String.length same
  rw [path, path, String.length_append, String.length_append, joined, String.length_ofList,
    String.length_ofList, List.length_replicate, List.length_replicate] at lengths
  exact ⟨Nat.add_right_cancel lengths, segments⟩

/-- Nothing is left out of the segments by the builder, and nothing is left over. -/
structure Exact (parts : Parts) : Prop where
  slash : parts.slashes = 1
  filled : ∀ text ∈ parts.place.toList ++ parts.object, text ≠ ""
  object_length : parts.object.length ≤ 2

theorem unescape_bind_given {segment text : Option String} (read : unescape segment = some text) :
    unescape (segment.bind given) = some (text.bind given) := by
  cases segment with
  | none =>
    cases read
    rfl
  | some segment =>
    obtain ⟨value, decoded, rfl⟩ := Option.map_eq_some_iff.mp read
    by_cases empty : segment = ""
    · subst empty
      have nothing : value = "" := by
        rw [Percent.decode?_eq_empty_iff.mpr rfl] at decoded
        exact (Option.some.inj decoded).symm
      simp [given, nothing, unescape]
    · have something : value ≠ "" := by
        rintro rfl
        exact empty (Percent.decode?_eq_empty_iff.mp decoded)
      simp [given, empty, something, unescape, decoded]

theorem isSome_of_unescape {segment text : Option String} (read : unescape segment = some text) :
    segment.isSome = text.isSome := by
  cases segment with
  | none =>
    cases read
    rfl
  | some segment =>
    obtain ⟨value, -, rfl⟩ := Option.map_eq_some_iff.mp read
    rfl

end Parts

/-- The namespace that stands in the path of an address. -/
def pathNamespace (address : Address) (endpoint : Endpoint) : Option String :=
  if endpoint.convention = .modern then address.scopedNamespace endpoint else none

/-- A segment that reads as a text, or none where there is no text. -/
def Spells (segment text : Option String) : Prop :=
  Parts.unescape segment = some text ∧ ∀ written ∈ segment, IsSegment written

/-- The parts of an address, with its namespace and its name written as given here. -/
def writtenParts (address : Address) (place name : Option String) : Parts where
  slashes := 1
  watch := address.watch
  place
  object := name.toList ++ address.subresource.toList
  query := none

/-- A path of an address: that in its URL, or one that differs from it in the escapes of the
namespace and of the name. -/
def HasPath (address : Address) (endpoint : Endpoint) (path : String) : Prop :=
  ∃ place name, Spells place (address.pathNamespace endpoint) ∧ Spells name address.name ∧
    path = (address.writtenParts place name).path endpoint

theorem spells_encode (text : Option String) : Spells (text.map Percent.encode) text := by
  cases text with
  | none => exact ⟨rfl, nofun⟩
  | some text =>
    refine ⟨congrArg (Option.map some) (Percent.decode?_encode text), ?_⟩
    rintro written ⟨⟩
    exact isSegment_encode text

theorem placeSegments_encode (address : Address) (endpoint : Endpoint) :
    placeSegments ((address.pathNamespace endpoint).map Percent.encode)
      = address.namespaceSegments endpoint := by
  unfold pathNamespace namespaceSegments
  cases endpoint.convention with
  | legacy => rfl
  | modern => cases address.scopedNamespace endpoint <;> rfl

/-- The URL of an address has a path of it between its base and its parameters. -/
theorem urlAt_hasPath (address : Address) (endpoint : Endpoint) : ∃ path,
    address.HasPath endpoint path ∧
      address.urlAt endpoint = address.base ++ path ++ queryText (address.query endpoint) := by
  refine ⟨_, ⟨_, _, spells_encode _, spells_encode _, rfl⟩, ?_⟩
  have segments : (address.writtenParts ((address.pathNamespace endpoint).map Percent.encode)
      (address.name.map Percent.encode)).segments endpoint = address.segments endpoint := by
    rw [segments_eq]
    simp only [Parts.segments, writtenParts, placeSegments_encode, List.append_assoc]
    rfl
  rw [Parts.path, segments, urlAt, String.append_assoc, String.append_assoc, String.append_assoc]
  rfl

/-- An address on an endpoint that is given an identity. -/
def addressed (base : String) (endpoint : Endpoint) (identity : Identity) (watch : Bool) : Address :=
  (((ofBase base).setEndpoint endpoint).setIdentity identity).setWatch watch

/-- A URL with a path that an address with this identity has, up to its parameters. -/
def Belongs (base : String) (endpoint : Endpoint) (identity : Identity) (url : String) : Prop :=
  ∃ rest watch, Text.afterPrefix? (Text.trimEnd '/' base) url = some rest ∧
    (addressed base endpoint identity watch).HasPath endpoint (Text.cut '?' rest).1

theorem addressed_eq (base : String) (endpoint : Endpoint) (identity : Identity) (watch : Bool) :
    addressed base endpoint identity watch = {
      base := Text.trimEnd '/' base, endpoint := some endpoint, name := identity.name.bind given
      namespaceName := identity.namespaceName.bind given
      subresource := identity.subresource.bind given, watch } := by
  obtain ⟨kind, version, namespaceName, name, subresource⟩ := identity
  cases namespaceName <;> cases name <;> cases subresource <;> rfl

theorem url_hasPath (base : String) (endpoint : Endpoint) (identity : Identity) (watch : Bool) :
    ∃ path, (addressed base endpoint identity watch).HasPath endpoint path ∧
      (addressed base endpoint identity watch).url = .ok (Text.trimEnd '/' base ++ path
        ++ queryText ((addressed base endpoint identity watch).query endpoint)) := by
  obtain ⟨path, onPath, spelled⟩ := (addressed base endpoint identity watch).urlAt_hasPath endpoint
  exact ⟨path, onPath, congrArg Except.ok spelled⟩

namespace Parts

variable {parts : Parts} {endpoint : Endpoint} {identity : Identity}

theorem exists_of_identity? (told : parts.identity? endpoint = some identity) : ∃ place,
    unescape parts.place = some place ∧ unescape parts.object.head? = some identity.name ∧
      identity.subresource = parts.object[1]? ∧
      (endpoint.convention = .modern → identity.namespaceName = place) := by
  obtain ⟨place, readPlace, told⟩ := Option.bind_eq_some_iff.mp told
  obtain ⟨name, readName, told⟩ := Option.bind_eq_some_iff.mp told
  cases Option.some.inj told
  refine ⟨place, readPlace, readName, rfl, fun modern => if_neg ?_⟩
  rintro ⟨legacy, -⟩
  rw [modern] at legacy
  cases legacy

/-- The namespace that is told stands in the path again, unless it is empty. -/
theorem unescape_pathNamespace (fits : parts.Fits endpoint)
    (told : parts.identity? endpoint = some identity) (base : String) (watch : Bool) :
    unescape (parts.place.bind given)
      = some ((addressed base endpoint identity watch).pathNamespace endpoint) := by
  obtain ⟨place, read, -, -, modernPlace⟩ := exists_of_identity? told
  by_cases placed : endpoint.convention = .modern ∧ endpoint.isScoped
  · have found : (addressed base endpoint identity watch).pathNamespace endpoint
        = place.bind given := by
      simp only [pathNamespace, if_pos placed.1, scopedNamespace, if_pos placed.2, addressed_eq,
        modernPlace placed.1]
    rw [found]
    exact unescape_bind_given read
  · have nowhere : parts.place = none := by
      by_contra present
      exact placed (fits.placed present)
    have unscoped : (addressed base endpoint identity watch).pathNamespace endpoint = none := by
      unfold pathNamespace scopedNamespace
      split
      · next modern => exact if_neg fun inScope => placed ⟨modern, inScope⟩
      · rfl
    rw [nowhere, unscoped]
    rfl

theorem bind_given_cases (text : Option String) :
    (text ≠ some "" ∧ text.bind given = text) ∨ (text = some "" ∧ text.bind given = none) := by
  cases text with
  | none => exact Or.inl ⟨nofun, rfl⟩
  | some text =>
    by_cases empty : text = ""
    · exact Or.inr ⟨congrArg some empty, if_pos empty⟩
    · exact Or.inl ⟨fun same => empty (Option.some.inj same), if_neg empty⟩

theorem length_placeSegments (place : Option String) :
    (placeSegments place).length = 2 * place.toList.length := by
  cases place <;> rfl

theorem length_bind_given (text : Option String) :
    (text.bind given).toList.length ≤ text.toList.length ∧
      (text.toList.length ≤ (text.bind given).toList.length → text ≠ some "") := by
  rcases bind_given_cases text with ⟨filled, same⟩ | ⟨rfl, nothing⟩
  · rw [same]
    exact ⟨le_rfl, fun _ => filled⟩
  · rw [nothing]
    exact ⟨Nat.zero_le _, fun enough => absurd enough (by decide)⟩

theorem object_eq (object : List String) :
    object = object.head?.toList ++ object[1]?.toList ++ object.drop 2 := by
  rcases object with _ | ⟨name, _ | ⟨sub, rest⟩⟩ <;> rfl

/-- Where the builder leaves out no segment, the parts are its own. -/
theorem exact_of_length (slash : parts.slashes = 1)
    (enough : (placeSegments parts.place).length + parts.object.length
      ≤ (placeSegments (parts.place.bind given)).length
        + ((parts.object.head?.bind given).toList.length
          + (parts.object[1]?.bind given).toList.length)) : parts.Exact := by
  obtain ⟨placeLe, placeFilled⟩ := length_bind_given parts.place
  obtain ⟨nameLe, nameFilled⟩ := length_bind_given parts.object.head?
  obtain ⟨subLe, subFilled⟩ := length_bind_given parts.object[1]?
  have total := congrArg List.length (object_eq parts.object)
  rw [List.length_append, List.length_append] at total
  rw [length_placeSegments, length_placeSegments] at enough
  have nothing : parts.object.drop 2 = [] := List.eq_nil_of_length_eq_zero (by omega)
  have whole := object_eq parts.object
  rw [nothing, List.append_nil] at whole
  refine ⟨slash, fun text member empty => ?_, List.drop_eq_nil_iff.mp nothing⟩
  subst empty
  rw [whole, List.mem_append, List.mem_append, Option.mem_toList, Option.mem_toList,
    Option.mem_toList] at member
  rcases member with inPlace | inName | inSub
  · exact placeFilled (by omega) inPlace
  · exact nameFilled (by omega) inName
  · exact subFilled (by omega) inSub

theorem Exact.bind_given (exact : parts.Exact) {text : Option String}
    (inside : ∀ value ∈ text, value ∈ parts.place.toList ++ parts.object) :
    text.bind given = text := by
  rcases bind_given_cases text with ⟨-, same⟩ | ⟨rfl, -⟩
  · exact same
  · exact absurd rfl (exact.filled "" (inside "" rfl))

theorem watched_append_of_segments {other : Parts}
    (same : parts.segments endpoint = other.segments endpoint) :
    (if parts.watch then ["watch"] else [])
        ++ (placeSegments parts.place ++ endpoint.pluralName :: parts.object)
      = (if other.watch then ["watch"] else [])
        ++ (placeSegments other.place ++ endpoint.pluralName :: other.object) := by
  rw [segments, segments, List.append_assoc, List.append_assoc] at same
  exact List.append_cancel_left same

theorem length_watched_le (fits : parts.Fits endpoint) {watch : Bool} {rest : List String}
    (same : (if parts.watch then ["watch"] else [])
        ++ (placeSegments parts.place ++ endpoint.pluralName :: parts.object)
      = (if watch then ["watch"] else []) ++ rest) :
    (if watch then ["watch"] else []).length
      ≤ (if parts.watch then ["watch"] else []).length := by
  cases watched : parts.watch with
  | true => cases watch <;> simp
  | false =>
    cases watch with
    | false => rfl
    | true =>
      rw [watched] at same
      exact absurd (congrArg List.head? same) (fits.unwatched watched)

theorem length_toList_of_isSome {one other : Option String} (same : one.isSome = other.isSome) :
    one.toList.length = other.toList.length := by
  rw [Option.length_toList, Option.length_toList, same]

theorem writtenParts_isPlain (fits : parts.Fits endpoint) {address : Address}
    {place name : Option String} (placed : ∀ text ∈ place, IsSegment text)
    (named : ∀ text ∈ name, IsSegment text)
    (sub : address.subresource = parts.object[1]?.bind given) :
    (address.writtenParts place name).IsPlain := by
  intro text member
  simp only [writtenParts, List.mem_append, Option.mem_toList, sub] at member
  rcases member with inPlace | inName | inSub
  · exact placed text inPlace
  · exact named text inName
  · have inObject : parts.object[1]? = some text := by
      rcases bind_given_cases parts.object[1]? with ⟨-, kept⟩ | ⟨-, nothing⟩
      · rwa [kept] at inSub
      · rw [nothing] at inSub
        cases inSub
    exact fits.plain text (List.mem_append_right _ (List.mem_of_getElem? inObject))

theorem exact_of_hasPath (plain : endpoint.HasSegments) (written : endpoint.addressPrefix ≠ "")
    (fits : parts.Fits endpoint) (told : parts.identity? endpoint = some identity) {base : String}
    {watch : Bool}
    (onPath : (addressed base endpoint identity watch).HasPath endpoint (parts.path endpoint)) :
    parts.Exact := by
  obtain ⟨place, name, ⟨readPlace, placed⟩, ⟨readName, named⟩, same⟩ := onPath
  obtain ⟨-, -, toldName, toldSub, -⟩ := exists_of_identity? told
  have sub : (addressed base endpoint identity watch).subresource = parts.object[1]?.bind given := by
    rw [addressed_eq, toldSub]
  obtain ⟨slash, segments⟩ := path_inj plain written fits.plain
    (writtenParts_isPlain fits placed named sub) same
  have keptPlace := unescape_pathNamespace fits told base watch
  have keptName := unescape_bind_given toldName
  rw [addressed_eq] at readName
  have places := length_toList_of_isSome
    ((isSome_of_unescape keptPlace).trans (isSome_of_unescape readPlace).symm)
  have names := length_toList_of_isSome
    ((isSome_of_unescape keptName).trans (isSome_of_unescape readName).symm)
  -- The builder drops what is empty and what is beyond a sub-resource. None of it is made up for
  -- elsewhere, so the number of segments tells that nothing was dropped.
  have lengths := congrArg List.length (watched_append_of_segments segments)
  have watches := length_watched_le fits (watched_append_of_segments segments)
  simp only [List.length_append, List.length_cons, writtenParts, sub, length_placeSegments]
    at lengths watches
  refine exact_of_length slash ?_
  rw [length_placeSegments, length_placeSegments]
  omega

theorem Exact.hasPath (exact : parts.Exact) (fits : parts.Fits endpoint)
    (told : parts.identity? endpoint = some identity) (base : String) :
    (addressed base endpoint identity parts.watch).HasPath endpoint (parts.path endpoint) := by
  obtain ⟨-, -, toldName, toldSub, -⟩ := exists_of_identity? told
  have keptPlace := unescape_pathNamespace fits told base parts.watch
  have keptName := unescape_bind_given toldName
  have place : parts.place.bind given = parts.place :=
    exact.bind_given fun value member => List.mem_append_left _ (Option.mem_toList.mpr member)
  have name : parts.object.head?.bind given = parts.object.head? :=
    exact.bind_given fun value member => List.mem_append_right _ (List.mem_of_head? member)
  have sub : parts.object[1]?.bind given = parts.object[1]? :=
    exact.bind_given fun value member => List.mem_append_right _ (List.mem_of_getElem? member)
  have object : parts.object = parts.object.head?.toList ++ parts.object[1]?.toList := by
    have whole := object_eq parts.object
    rwa [List.drop_eq_nil_iff.mpr exact.object_length, List.append_nil] at whole
  rw [place] at keptPlace
  rw [name] at keptName
  refine ⟨parts.place, parts.object.head?, ⟨keptPlace, fun text member => ?_⟩,
    ⟨by rw [keptName, addressed_eq], fun text member => ?_⟩, ?_⟩
  · exact fits.plain text (List.mem_append_left _ (Option.mem_toList.mpr member))
  · exact fits.plain text (List.mem_append_right _ (List.mem_of_head? member))
  · rw [path, path, segments, segments, writtenParts, addressed_eq, toldSub, sub, ← object,
      exact.slash]

theorem belongs_iff_exact (plain : endpoint.HasSegments) (written : endpoint.addressPrefix ≠ "")
    (fits : parts.Fits endpoint) (told : parts.identity? endpoint = some identity) (base : String) :
    Belongs base endpoint identity (parts.url base endpoint) ↔ parts.Exact := by
  constructor
  · rintro ⟨rest, watch, onBase, onPath⟩
    rw [url, Text.afterPrefix?_append] at onBase
    cases onBase
    rw [cut_path plain fits.plain] at onPath
    exact exact_of_hasPath plain written fits told onPath
  · intro exact
    refine ⟨_, parts.watch, Text.afterPrefix?_append _ _, ?_⟩
    rw [cut_path plain fits.plain]
    exact exact.hasPath fits told base

end Parts

/-- The URLs that are accepted on an endpoint are those whose parts fit; they are read as their parts
tell, and those of them that belong to the endpoint are the ones whose parts are exact. What a URL has
to have in order to belong is what the builder writes between the base and the parameters. -/
theorem extract?_accepts {endpoint : Endpoint} (plain : endpoint.HasSegments)
    (written : endpoint.addressPrefix ≠ "") (base : String) (identity : Identity) :
    (∀ url, extract? base endpoint url = some identity ↔ ∃ parts : Parts, parts.Fits endpoint ∧
      url = parts.url base endpoint ∧ parts.identity? endpoint = some identity) ∧
    (∀ parts : Parts, parts.Fits endpoint → parts.identity? endpoint = some identity →
      (Belongs base endpoint identity (parts.url base endpoint) ↔ parts.Exact)) ∧
    (∀ watch, let address := addressed base endpoint identity watch
      ∃ path, address.HasPath endpoint path ∧
        address.url = .ok (Text.trimEnd '/' base ++ path ++ queryText (address.query endpoint))) := by
  refine ⟨fun url => ⟨fun found => ?_, ?_⟩,
    fun _ fits told => Parts.belongs_iff_exact plain written fits told base,
    url_hasPath base endpoint identity⟩
  · obtain ⟨parts, fits, rfl⟩ := exists_parts_of_extract? found
    rw [parts.extract?_partsUrl plain written fits] at found
    exact ⟨parts, fits, rfl, found⟩
  · rintro ⟨parts, fits, rfl, told⟩
    rw [parts.extract?_partsUrl plain written fits, told]

def podEndpoint : Endpoint := ⟨"api", none, "v1", "pods", "Pod", true, ["get"], ["log"]⟩

def namespaceEndpoint : Endpoint := ⟨"api", none, "v1", "namespaces", "Namespace", false, ["get"], []⟩

theorem podEndpoint_hasSegments : podEndpoint.HasSegments :=
  ⟨by decide, nofun, by decide, by decide⟩

theorem namespaceEndpoint_hasSegments : namespaceEndpoint.HasSegments :=
  ⟨by decide, nofun, by decide, by decide⟩

/-- Escapes that the builder would not write are accepted, and so is a parameter. -/
theorem extract?_accepts_escapes :
    let base := "https://c.example/"
    let identity : Identity := {
      kind := "Pod", version := some "v1", namespaceName := some "default", name := some "p1"
      subresource := some "log" }
    let parts : Parts := ⟨1, true, some "%64efault", ["p%31", "log"], some "follow"⟩
    podEndpoint.HasSegments ∧ podEndpoint.addressPrefix ≠ "" ∧
      extract? base podEndpoint
          "https://c.example/api/v1/watch/namespaces/%64efault/pods/p%31/log?follow" = some identity ∧
      (Belongs base podEndpoint identity (parts.url base podEndpoint) ↔ parts.Exact) := by
  intro base identity parts
  have fits : parts.Fits podEndpoint := ⟨by decide, nofun, fun _ => ⟨rfl, rfl⟩, nofun⟩
  have told : parts.identity? podEndpoint = some identity := by decide +kernel
  have ⟨accepted, belongs, _⟩ := extract?_accepts podEndpoint_hasSegments (by decide) base identity
  refine ⟨podEndpoint_hasSegments, by decide, (accepted _).mpr ⟨parts, fits, ?_, told⟩,
    belongs parts fits told⟩
  decide +kernel

/-- A host that only starts as the base does is accepted, and so are segments after those of an
object: an endpoint of namespaces accepts the URL of a pod. -/
theorem extract?_accepts_foreign :
    let base := "https://c.example"
    let pod : Identity := { kind := "Pod", version := some "v1", name := some "p1" }
    let inNamespace : Identity := {
      kind := "Namespace", version := some "v1", name := some "default", subresource := some "pods" }
    let elsewhere := "https://c.exampleapi/v1/pods/p1"
    let longer := "https://c.example/api/v1/namespaces/default/pods/p1"
    (extract? base podEndpoint elsewhere = some pod ∧ ¬ Belongs base podEndpoint pod elsewhere) ∧
    (extract? base namespaceEndpoint longer = some inNamespace ∧
      ¬ Belongs base namespaceEndpoint inNamespace longer) := by
  intro base pod inNamespace elsewhere longer
  let unslashed : Parts := ⟨0, false, none, ["p1"], none⟩
  let surplus : Parts := ⟨1, false, none, ["default", "pods", "p1"], none⟩
  have fits : unslashed.Fits podEndpoint := ⟨by decide, by decide, nofun, by decide⟩
  have fits' : surplus.Fits namespaceEndpoint := ⟨by decide, by decide, nofun, by decide⟩
  have told : unslashed.identity? podEndpoint = some pod := by decide +kernel
  have told' : surplus.identity? namespaceEndpoint = some inNamespace := by decide +kernel
  have same : elsewhere = unslashed.url base podEndpoint := by decide +kernel
  have same' : longer = surplus.url base namespaceEndpoint := by decide +kernel
  have exact := unslashed.belongs_iff_exact podEndpoint_hasSegments (by decide) fits told base
  have exact' := surplus.belongs_iff_exact namespaceEndpoint_hasSegments (by decide) fits' told' base
  rw [same, same', exact, exact', unslashed.extract?_partsUrl podEndpoint_hasSegments (by decide) fits,
    surplus.extract?_partsUrl namespaceEndpoint_hasSegments (by decide) fits']
  exact ⟨⟨told, fun exact => absurd exact.slash (by decide)⟩,
    told', fun exact => absurd exact.object_length (by decide)⟩

end ClusterClient.Address
