import ClusterClient.Discovery
import ClusterClient.Proofs.Http.Wire
import Mathlib.Logic.Function.Basic

namespace ClusterClient

/-- A server that everything arrives at and that looks at nothing but the URL. -/
def Server.ofTable (table : String → Option Http.Response) : Server where
  receives _ := true
  answer _ request := table request.url

namespace Transport

/-- Each URL has one answer, whatever was asked before; none means that the exchange fails. -/
def AnswersBy (transport : Transport) (answers : String → Option Http.Response) : Prop :=
  ∀ url, (transport.send .get url none).Yields (answers url)

/-- The answers of a transport to a server that looks at nothing but the URL. -/
def answersOf (transport : Transport) (table : String → Option Http.Response) (url : String) :
    Option Http.Response :=
  if (transport.request? .get url none).isSome then table url else none

theorem answersBy_ofTable [HostNames] (table : String → Option Http.Response) (userAgent : String)
    (token : Option String) :
    AnswersBy ⟨.ofTable table, userAgent, token⟩ (answersOf ⟨.ofTable table, userAgent, token⟩ table) := by
  intro url sent
  unfold send answersOf
  cases made : request? ⟨.ofTable table, userAgent, token⟩ .get url none with
  | none => rfl
  | some found =>
    obtain ⟨destination, request⟩ := found
    rw [← (request?_eq_some made).2]
    rfl

theorem answersOf_update_of_ne [HostNames] {url other : String} (different : other ≠ url)
    (server server' : Server) (userAgent : String) (token : Option String)
    (table : String → Option Http.Response) (answer : Option Http.Response) :
    answersOf ⟨server', userAgent, token⟩ (Function.update table url answer) other
      = answersOf ⟨server, userAgent, token⟩ table other := by
  rw [answersOf, answersOf, Function.update_of_ne different]
  rfl

theorem answersOf_update_none (transport : Transport) (table : String → Option Http.Response)
    (url : String) : transport.answersOf (Function.update table url none) url = none := by
  rw [answersOf, Function.update_self, ite_self]

/-- What an answer reads as. -/
def reading {α : Type} (read : Json.Tree → Option α) (url : String)
    (response : Option Http.Response) : Except Error α :=
  (outcome url response).bind fun body =>
    match (Json.Tree.ofText? body).bind read with
    | some value => .ok value
    | none => .error .materialization

/-- No answer, a code that is no success, or a body that does not read. -/
def IsFailure {α : Type} (read : Json.Tree → Option α) : Option Http.Response → Prop
  | none => True
  | some response =>
    Http.isSuccess response.status = false ∨ (Json.Tree.ofText? response.body).bind read = none

theorem IsFailure.reading_eq_error {α : Type} {read : Json.Tree → Option α}
    {response : Option Http.Response} (failure : IsFailure read response) (url : String) :
    ∃ error, reading read url response = .error error := by
  cases response with
  | none => exact ⟨_, rfl⟩
  | some response =>
    rcases failure with refused | unread
    · refine ⟨Error.ofResponse url response.status response.body, ?_⟩
      simp [reading, outcome, refused, Except.bind]
    · cases success : Http.isSuccess response.status with
      | false =>
        refine ⟨Error.ofResponse url response.status response.body, ?_⟩
        simp [reading, outcome, success, Except.bind]
      | true =>
        refine ⟨.materialization, ?_⟩
        simp [reading, outcome, success, unread, Except.bind]

theorem fetch_yields {α : Type} {transport : Transport} {answers : String → Option Http.Response}
    (answered : transport.AnswersBy answers) (read : Json.Tree → Option α) (url : String) :
    (transport.fetch read url).Yields (reading read url (answers url)) :=
  (answered url).bind (.pure _)

end Transport

namespace Discovery

open Transport (reading)

section

variable {roots : Roots} {holds : Surface → Prop}

theorem Roots.forall_addLegacy {addressPrefix : String}
    (old : ∀ surface ∈ roots.surfaces, holds surface)
    (new : ∀ version, holds ⟨addressPrefix, none, version⟩) (answer : Except Error LegacyRoot) :
    ∀ surface ∈ (roots.addLegacy addressPrefix answer).surfaces, holds surface := by
  cases answer with
  | error => exact old
  | ok root =>
    intro surface member
    rcases List.mem_append.mp member with known | told
    · exact old surface known
    · obtain ⟨version, -, rfl⟩ := List.mem_map.mp told
      exact new version

theorem Roots.forall_addNamed (old : ∀ surface ∈ roots.surfaces, holds surface)
    (new : ∀ group version, holds ⟨Surface.groupedPrefix, some group, version⟩)
    (answer : Except Error GroupRoot) :
    ∀ surface ∈ (roots.addNamed answer).surfaces, holds surface := by
  cases answer with
  | error => exact old
  | ok root =>
    intro surface member
    rcases List.mem_append.mp member with known | told
    · exact old surface known
    · obtain ⟨entry, -, inEntry⟩ := List.mem_flatMap.mp told
      obtain ⟨version, -, rfl⟩ := List.mem_map.mp inEntry
      exact new entry.name version

end

/-- What the answer about a legacy prefix adds. -/
def afterLegacy (answers : String → Option Http.Response) (base : String) (roots : Roots)
    (addressPrefix : String) : Roots :=
  let url := base ++ "/" ++ addressPrefix
  roots.addLegacy addressPrefix (reading LegacyRoot.ofTree? url (answers url))

/-- What the answers of the root documents tell. -/
def rootsOf (answers : String → Option Http.Response) (base : String) : Roots :=
  let url := base ++ "/" ++ Surface.groupedPrefix
  (Surface.legacyPrefixes.foldl (afterLegacy answers base) {}).addNamed
    (reading GroupRoot.ofTree? url (answers url))

/-- What a surface answers. -/
def listingOf (answers : String → Option Http.Response) (base : String) (surface : Surface) :
    Surface × Except Error ResourceListing :=
  let url := base ++ "/" ++ surface.path
  (surface, reading ResourceListing.ofTree? url (answers url))

variable {transport : Transport} {answers : String → Option Http.Response}

theorem fetchRoots_yields (answered : transport.AnswersBy answers) (base : String) :
    (fetchRoots transport base).Yields (rootsOf answers base) := by
  have legacy : ∀ (roots : Roots) (addressPrefix : String),
      Wire.Yields (do
        let answer ← transport.fetch LegacyRoot.ofTree? (base ++ "/" ++ addressPrefix)
        return roots.addLegacy addressPrefix answer) (afterLegacy answers base roots addressPrefix) :=
    fun _ _ => (Transport.fetch_yields answered _ _).bind (.pure _)
  exact (Wire.Yields.foldlM legacy _ _).bind
    ((Transport.fetch_yields answered _ _).bind (.pure _))

theorem fetchListings_yields (answered : transport.AnswersBy answers) (base : String)
    (surfaces : List Surface) :
    (fetchListings transport base surfaces).Yields (surfaces.map (listingOf answers base)) := by
  have asked : ∀ surface : Surface,
      Wire.Yields (do
        let listing ← transport.fetch ResourceListing.ofTree? (base ++ "/" ++ surface.path)
        return (surface, listing)) (listingOf answers base surface) :=
    fun _ => (Transport.fetch_yields answered _ _).bind (.pure _)
  exact .mapM asked surfaces

/-- With one answer a URL, discovery is a function of the answers. -/
theorem discover_yields (answered : transport.AnswersBy answers) (base : String) :
    (discover transport base).Yields
      (assemble (rootsOf answers base).groups
        ((rootsOf answers base).surfaces.map (listingOf answers base))) :=
  (fetchRoots_yields answered base).bind
    ((fetchListings_yields answered base (rootsOf answers base).surfaces).bind (.pure _))

end Discovery

end ClusterClient
