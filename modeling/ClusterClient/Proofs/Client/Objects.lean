import ClusterClient.Proofs.Address.RoundTrip
import ClusterClient.Proofs.Client.Runs
import ClusterClient.Url.DomainName

namespace ClusterClient

/-- A request below the collection of an endpoint, with a segment for the name of an object right
after the plural. -/
def Http.Request.NamesObject (request : Http.Request) (base : String) (endpoint : Endpoint)
    (name : String) : Prop :=
  ∃ (address : Address) (segment : String),
    request.url = Text.trimEnd '/' base ++ "/" ++ String.intercalate "/"
        (endpoint.surfaceSegments ++ address.namespaceSegments endpoint
          ++ endpoint.pluralName :: segment :: address.subresource.toList)
      ++ Address.queryText (address.query endpoint) ∧
    segment ≠ "" ∧ IsSegment segment ∧ Percent.decode? segment = some name

theorem Percent.encode_ne_empty {text : String} (written : text ≠ "") : encode text ≠ "" := by
  intro empty
  have nothing : encode "" = "" := by decide
  exact written (encode_injective (empty.trans nothing.symm))

theorem Address.given_eq_some {text : String} (written : text ≠ "") : given text = some text :=
  if_neg written

namespace Client

/-- The session once the probes of discovery are sent, if an operation needed them. -/
def probed (client : Client) (before after : Session) : Session :=
  if after.isDiscovered then (client.router.catalog.run before).2 else before

/-- An operation that leaves collections alone: without a usable name it sends nothing beside the
probes of discovery and says what is wrong, and else all that it sends is about the named object. -/
def KeepsToObject {α : Type} (client : Client) (method : Http.Method) (kind : String)
    (version name : Option String) (before : Session) (run : Except Error α × Session) : Prop :=
  ∃ own, run.2.sent = (client.probed before run.2).sent ++ own ∧
    (name = none ∨ name = some "" → own = [] ∧ ∃ misuse, run.1 = .error (.configuration misuse)) ∧
    ∀ text, name = some text → text ≠ "" → ∀ request ∈ own, request.method = method ∧
      ∃ endpoint, run.2.catalog.bind (·.resolve version kind) = some endpoint ∧
        request.NamesObject client.base endpoint text

variable {α : Type} {client : Client} {session : Session}

theorem probed_self (client : Client) (session : Session) :
    client.probed session session = session := by
  unfold probed
  split
  · next discovered =>
    obtain ⟨catalog, known⟩ := Option.isSome_iff_exists.mp discovered
    rw [Router.catalog_run_of_known known]
  · rfl

theorem probed_of_known {after : Session} {catalog : Catalog} (known : after.catalog = some catalog) :
    client.probed session after = (client.router.catalog.run session).2 := by
  have discovered : after.isDiscovered = true := by rw [Session.isDiscovered, known, Option.isSome_some]
  rw [probed, if_pos discovered]

theorem keepsToObject_misuse (method : Http.Method) (kind : String) (version name : Option String)
    (misuse : Misuse) :
    client.KeepsToObject (α := α) method kind version name session
      (.error (.configuration misuse), session) := by
  refine ⟨[], ?_, fun _ => ⟨rfl, misuse, rfl⟩, fun _ _ _ request member => by cases member⟩
  rw [probed_self, List.append_nil]

/-- With a name that is not empty it is enough that all that is sent is about the named object. -/
theorem keepsToObject_of_written {method : Http.Method} {kind name : String}
    {version : Option String} {run : Except Error α × Session} {own : List Http.Request}
    (written : name ≠ "") (sent : run.2.sent = (client.probed session run.2).sent ++ own)
    (about : ∀ request ∈ own, request.method = method ∧
      ∃ endpoint, run.2.catalog.bind (·.resolve version kind) = some endpoint ∧
        request.NamesObject client.base endpoint name) :
    client.KeepsToObject method kind version (some name) session run := by
  refine ⟨own, sent, fun unnamed => ?_, fun text same _ => ?_⟩
  · rcases unnamed with absent | empty
    · cases absent
    · exact absurd (Option.some.inj empty) written
  · cases same
    exact about

/-- The request of an operation on a named object, once the catalog is known. -/
def objectRequest (client : Client) (catalog : Catalog) (verb : Verb) (identity : Identity)
    (name : String) (payload : Option Payload) : Request where
  verb
  kind := identity.kind
  version := identity.version
  namespaceName := client.namespaceIn catalog identity
  name := some name
  subresource := identity.subresource
  payload

/-- The address of the object that an operation is about. -/
def objectAddress (client : Client) (catalog : Catalog) (identity : Identity) (name : String)
    (endpoint : Endpoint) : Address where
  base := Text.trimEnd '/' client.base
  endpoint := some endpoint
  name := Address.given name
  namespaceName := (client.namespaceIn catalog identity).bind Address.given
  subresource := identity.subresource.bind Address.given

/-- How an operation on a named object may go: it is refused before anything but the probes of
discovery is sent, or it sends one request. -/
inductive Carried (client : Client) (verb : Verb) (identity : Identity) (name : String)
    (before : Session) : Except Error α × Session → Prop where
  | refused (error : Error) (after : Session) (other : ∀ misuse, error ≠ .configuration misuse)
      (probes : client.probed before after = after) :
      Carried client verb identity name before (.error error, after)
  | sent (outcome : Except Error α) (catalog : Catalog) (start : Session) (endpoint : Endpoint)
      (request : Http.Request) (ran : client.router.catalog.run before = (catalog, start))
      (resolved : catalog.resolve identity.version identity.kind = some endpoint)
      (method : request.method = verb.method)
      (url : request.url =
        (client.objectAddress catalog identity name endpoint).urlAt endpoint) :
      Carried client verb identity name before
        (outcome, { start with sent := start.sent ++ [request] })

theorem namesObject_of_objectAddress {request : Http.Request} {catalog : Catalog}
    {identity : Identity} {name : String} {endpoint : Endpoint} (written : name ≠ "")
    (url : request.url = (client.objectAddress catalog identity name endpoint).urlAt endpoint) :
    request.NamesObject client.base endpoint name := by
  refine ⟨client.objectAddress catalog identity name endpoint, Percent.encode name, ?_,
    Percent.encode_ne_empty written, isSegment_encode name, Percent.decode?_encode name⟩
  have segments : (client.objectAddress catalog identity name endpoint).segments endpoint
      = endpoint.surfaceSegments
        ++ (client.objectAddress catalog identity name endpoint).namespaceSegments endpoint
        ++ endpoint.pluralName :: Percent.encode name
          :: (client.objectAddress catalog identity name endpoint).subresource.toList := by
    simp [Address.segments_eq, Address.objectSegments, objectAddress, Address.given_eq_some written]
  rw [url, Address.urlAt, segments]
  rfl

/-- An operation that goes so leaves collections alone exactly if the name is not empty. -/
theorem Carried.keepsToObject_iff {verb : Verb} {identity : Identity} {name : String}
    {run : Except Error α × Session} (carried : Carried client verb identity name session run) :
    client.KeepsToObject verb.method identity.kind identity.version (some name) session run
      ↔ name ≠ "" := by
  cases carried with
  | refused error after other probes =>
    constructor
    · rintro ⟨own, -, unnamed, -⟩ rfl
      obtain ⟨-, misuse, same⟩ := unnamed (Or.inr rfl)
      cases same
      exact other misuse rfl
    · intro written
      have sent : after.sent = (client.probed session after).sent ++ [] := by
        rw [probes, List.append_nil]
      exact keepsToObject_of_written written sent fun request member => by cases member
  | sent outcome catalog start endpoint request ran resolved method url =>
    have known : start.catalog = some catalog := by
      have told := client.router.catalog_run_catalog session
      rwa [ran] at told
    have probes : client.probed session { start with sent := start.sent ++ [request] } = start :=
      (probed_of_known known).trans (congrArg Prod.snd ran)
    constructor
    · rintro ⟨own, sent, unnamed, -⟩ rfl
      obtain ⟨nothing, -⟩ := unnamed (Or.inr rfl)
      -- The request on the collection is there, and no name is left to excuse it.
      rw [probes, nothing, List.append_nil] at sent
      simp at sent
    · intro written
      refine keepsToObject_of_written written (congrArg (·.sent ++ [request]) probes.symm) ?_
      intro own member
      rw [List.mem_singleton.mp member]
      refine ⟨method, endpoint, ?_, namesObject_of_objectAddress written url⟩
      rw [known, Option.bind_some, resolved]

@[simp] theorem objectRequest_verb (client : Client) (catalog : Catalog) (verb : Verb)
    (identity : Identity) (name : String) (payload : Option Payload) :
    (client.objectRequest catalog verb identity name payload).verb = verb := rfl

@[simp] theorem objectRequest_kind (client : Client) (catalog : Catalog) (verb : Verb)
    (identity : Identity) (name : String) (payload : Option Payload) :
    (client.objectRequest catalog verb identity name payload).kind = identity.kind := rfl

theorem objectRequest_address (client : Client) (catalog : Catalog) (verb : Verb)
    (identity : Identity) (name : String) (payload : Option Payload) (endpoint : Endpoint) :
    let request := client.objectRequest catalog verb identity name payload
    (((Address.ofBase client.router.base).setEndpoint endpoint).setIdentity
        request.identity).addParams request.params
      = client.objectAddress catalog identity name endpoint := by
  cases place : client.namespaceIn catalog identity <;>
    cases sub : identity.subresource <;>
      simp [Address.addParams, Address.setIdentity, Address.setEndpoint, Address.ofBase,
        Request.identity, objectRequest, objectAddress, base, place, sub]

/-- What becomes of a request that has got its name. -/
theorem execute_carried {verb : Verb} {identity : Identity} {name : String}
    {payload : Option Payload} {before after start : Session} {catalog : Catalog}
    (agrees : identity.version.or (payload.bind (·.apiVersion?)) = identity.version)
    (plain : identity.kind ≠ Kind.aggregate)
    (ran : client.router.catalog.run before = (catalog, start))
    (later : client.router.catalog.run after = (catalog, start))
    (materialize : String → Except Error α) :
    Carried client verb identity name before ((client.router.execute
      (client.objectRequest catalog verb identity name payload) materialize).run after) := by
  have known : start.catalog = some catalog := by
    have told := client.router.catalog_run_catalog before
    rwa [ran] at told
  have probes : client.probed before start = start :=
    (probed_of_known known).trans (congrArg Prod.snd ran)
  have version : (client.objectRequest catalog verb identity name payload).effectiveVersion
      = identity.version := agrees
  rw [Router.execute_run later (by simpa using plain), Request.prepare, objectRequest_kind,
    if_neg plain, version]
  cases resolved : catalog.resolve identity.version identity.kind with
  | none => exact .refused _ _ (fun _ same => by cases same) probes
  | some endpoint =>
    simp only [client.objectRequest_address, objectRequest_verb]
    cases made : client.router.transport.request? verb.method
        ((client.objectAddress catalog identity name endpoint).urlAt endpoint)
        (client.objectRequest catalog verb identity name payload).body with
    | none =>
      rw [Transport.send_run_none made]
      exact .refused _ _ (fun _ same => by cases same) probes
    | some found =>
      obtain ⟨response, sending⟩ := Transport.send_run_some made start.sent
      obtain ⟨method, url⟩ := Transport.request?_eq_some made
      rw [sending]
      exact .sent _ catalog start endpoint found.2 ran resolved method url

theorem onNamed_carried {identity : Identity} {name : String} (named : identity.name = some name)
    (verb : Verb) (materialize : String → Except Error α) (session : Session) :
    Carried client verb identity name session
      ((client.onNamed verb identity materialize).run session) := by
  rw [onNamed, requiredName, named]
  by_cases aggregate : identity.kind = Kind.aggregate
  · simp only [request, aggregate, if_true]
    exact .refused _ _ (fun _ same => by cases same) (client.probed_self session)
  · obtain ⟨⟨catalog, start⟩, ran⟩ : ∃ found, client.router.catalog.run session = found := ⟨_, rfl⟩
    obtain ⟨after, made, later⟩ := client.request_run ran aggregate verb
    simp only [StateT.run_bind, made]
    exact execute_carried Option.or_none aggregate ran later materialize

/-- The identity that a write of a resource goes by. -/
def writeIdentity (resource : Resource) (kind : String) (namespaceName : Option String) :
    Identity where
  kind
  version := resource.apiVersion?
  namespaceName := namespaceName.or resource.namespace?

theorem update_carried {resource : Resource} {kind name : String} (named : resource.name? = some name)
    (kinded : resource.kind? = some kind) (namespaceName : Option String) (session : Session) :
    Carried client .update (writeIdentity resource kind namespaceName) name session
      ((client.update resource namespaceName).run session) := by
  have written : client.writeRequest .update resource namespaceName = (do
      let request ← client.request .update (writeIdentity resource kind namespaceName)
      return request.map fun request => { request with payload := some (.resource resource) }) := by
    rw [writeRequest, kinded]
    rfl
  rw [update, named, written]
  by_cases aggregate : kind = Kind.aggregate
  · simp only [writeIdentity, request, aggregate, if_true]
    exact .refused _ _ (fun _ same => by cases same) (client.probed_self session)
  · obtain ⟨⟨catalog, start⟩, ran⟩ : ∃ found, client.router.catalog.run session = found := ⟨_, rfl⟩
    have plain : (writeIdentity resource kind namespaceName).kind ≠ Kind.aggregate := aggregate
    obtain ⟨after, made, later⟩ := client.request_run ran plain .update
    simp only [StateT.run_bind, made]
    exact execute_carried Option.or_self plain ran later client.materializer.materializeBody

theorem onNamed_keepsToObject_iff (identity : Identity) (verb : Verb)
    (materialize : String → Except Error α) (session : Session) :
    client.KeepsToObject verb.method identity.kind identity.version identity.name session
      ((client.onNamed verb identity materialize).run session) ↔ identity.name ≠ some "" := by
  cases named : identity.name with
  | none =>
    have refused : (client.onNamed verb identity materialize).run session
        = (.error (.configuration (.nameRequired identity.kind)), session) := by
      rw [onNamed, requiredName, named]
      rfl
    rw [refused]
    exact iff_of_true (keepsToObject_misuse ..) (by simp)
  | some name =>
    refine (onNamed_carried named verb materialize session).keepsToObject_iff.trans ?_
    rw [ne_eq, ne_eq, Option.some.injEq]

theorem update_keepsToObject_iff (resource : Resource) (namespaceName : Option String)
    (session : Session) :
    client.KeepsToObject .put (resource.kind?.getD "") resource.apiVersion? resource.name? session
      ((client.update resource namespaceName).run session)
    ↔ (resource.name? = some "" → resource.kind? = none) := by
  cases named : resource.name? with
  | none =>
    have refused : (client.update resource namespaceName).run session
        = (.error (.configuration .updateWithoutName), session) := by
      rw [update, named]
      rfl
    rw [refused]
    exact iff_of_true (keepsToObject_misuse ..) (by simp)
  | some name =>
    cases kinded : resource.kind? with
    | none =>
      have refused : (client.update resource namespaceName).run session
          = (.error (.configuration .resourceWithoutKind), session) := by
        rw [update, named, writeRequest, kinded]
        rfl
      rw [refused]
      exact iff_of_true (keepsToObject_misuse ..) fun _ => rfl
    | some kind =>
      refine (update_carried named kinded namespaceName session).keepsToObject_iff.trans ?_
      rw [ne_eq, Option.some.injEq, imp_iff_not_or]
      simp

/-- Operations on one object leave collections alone exactly when the name is not the empty text:
a name that is missing is refused, but an empty one is dropped from the address. -/
theorem operations_keepToObject_iff (client : Client) (session : Session) :
    (∃ probes, (client.router.catalog.run session).2.sent = session.sent ++ probes ∧
      ∀ probe ∈ probes, probe.method = .get) ∧
    (∀ identity : Identity,
      client.KeepsToObject .get identity.kind identity.version identity.name session
        ((client.get identity).run session) ↔ identity.name ≠ some "") ∧
    (∀ identity : Identity,
      client.KeepsToObject .delete identity.kind identity.version identity.name session
        ((client.delete identity).run session) ↔ identity.name ≠ some "") ∧
    (∀ (resource : Resource) (namespaceName : Option String),
      client.KeepsToObject .put (resource.kind?.getD "") resource.apiVersion? resource.name? session
        ((client.update resource namespaceName).run session)
      ↔ (resource.name? = some "" → resource.kind? = none)) :=
  ⟨client.router.catalog_run_sends session,
    fun identity => onNamed_keepsToObject_iff identity .get client.materializer.materializeBody session,
    fun identity => onNamed_keepsToObject_iff identity .delete deletionAnswer session,
    fun resource namespaceName => update_keepsToObject_iff resource namespaceName session⟩

/-- A client of a server that serves pods. -/
def podClient : Client where
  config := {}
  router := .ofBase "https://c.example" ⟨.unreachable, "", none⟩ []

def podSession : Session := .pinned (Catalog.addListing {} ⟨"api", none, "v1"⟩ { resources := [
  { name := "pods", kind := "Pod", namespaced := true, verbs := ["get", "delete"] }] }) none

/-- To delete the pod of the empty name is to delete all pods. The segment of a dot is in the URL
that is asked for, but not in the path that the request names in the end. -/
theorem delete_empty_name :
    let delete (name : String) := (podClient.delete { kind := "Pod", name }).run podSession
    (delete "").2.sent.map (fun request => (request.method, request.url)) =
      [(.delete, "https://c.example/api/v1/namespaces/default/pods")] ∧
    ¬ podClient.KeepsToObject .delete "Pod" none (some "") podSession (delete "") ∧
    (delete ".").2.sent.map (fun request => (request.url, request.target)) =
      [("https://c.example/api/v1/namespaces/default/pods/.", "/api/v1/namespaces/default/pods/")] := by
  refine ⟨by decide +kernel, fun kept => ?_, by decide +kernel⟩
  exact (onNamed_keepsToObject_iff { kind := "Pod", name := some "" } .delete deletionAnswer
    podSession).mp kept rfl

end Client

end ClusterClient
