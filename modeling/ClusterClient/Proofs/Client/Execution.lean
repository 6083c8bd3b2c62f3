import ClusterClient.Proofs.Client.Objects
import ClusterClient.Routes

namespace ClusterClient

namespace Transport

/-- What it takes to send a request: the token fits a header, and the URL names a web server. -/
structure Reaches (transport : Transport) (url : String) (destination : Url) : Prop where
  fits : isHeaderText (transport.token.getD "") = true
  named : @Url.ofText? transport.names url = some destination

section

variable {transport : Transport} {url : String} {destination : Url}

theorem request?_of_reaches (reaches : transport.Reaches url destination) (method : Http.Method)
    (body : Option (List UInt8)) :
    ∃ request, transport.request? method url body = some (destination, request) ∧
      request.method = method ∧ request.url = url ∧ request.body = body := by
  simp [request?, reaches.fits, reaches.named]

theorem request?_eq_none (nowhere : ∀ destination, ¬ transport.Reaches url destination)
    (method : Http.Method) (body : Option (List UInt8)) :
    transport.request? method url body = none := by
  cases fits : isHeaderText (transport.token.getD "") with
  | false => simp [request?, fits]
  | true =>
    cases named : @Url.ofText? transport.names url with
    | none => simp [request?, fits, named]
    | some destination => exact absurd ⟨fits, named⟩ (nowhere destination)

end

/-- What sending a request comes to: what came back, and the requests sent by then. It is sent once
and never again if it can be sent, and otherwise it is not sent at all. -/
inductive Exchanges (transport : Transport) (method : Http.Method) (url : String)
    (body : Option (List UInt8)) (before : List Http.Request) :
    Option Http.Response → List Http.Request → Prop where
  | unsent (nowhere : ∀ destination, ¬ transport.Reaches url destination) :
      Exchanges transport method url body before none before
  | sent (destination : Url) (request : Http.Request) (reaches : transport.Reaches url destination)
      (sameMethod : request.method = method) (sameUrl : request.url = url)
      (sameBody : request.body = body) :
      Exchanges transport method url body before
        (if transport.server.receives destination then transport.server.answer before request
          else none)
        (before ++ [request])

theorem send_exchanges (transport : Transport) (method : Http.Method) (url : String)
    (body : Option (List UInt8)) (before : List Http.Request) :
    transport.Exchanges method url body before ((transport.send method url body).run before).1
      ((transport.send method url body).run before).2 := by
  by_cases somewhere : ∃ destination, transport.Reaches url destination
  · obtain ⟨destination, reaches⟩ := somewhere
    obtain ⟨request, made, sameMethod, sameUrl, sameBody⟩ := request?_of_reaches reaches method body
    rw [send_run_made made]
    exact .sent destination request reaches sameMethod sameUrl sameBody
  · have nowhere := not_exists.mp somewhere
    rw [send_run_none (request?_eq_none nowhere method body)]
    exact .unsent nowhere

namespace Exchanges

variable {transport : Transport} {method method' : Http.Method} {url url' : String}
  {body body' : Option (List UInt8)} {before after : List Http.Request}
  {response response' : Option Http.Response}

theorem response_eq_none (exchanged : transport.Exchanges method url body before response after)
    (unsent : after = before) : response = none := by
  cases exchanged with
  | unsent => rfl
  | sent => simp at unsent

/-- One sending has one URL, if a sending without a response tells it. -/
theorem url_unique (one : transport.Exchanges method url body before response after)
    (other : transport.Exchanges method' url' body' before response' after)
    (told : response = none → response' = none → url = url') : url = url' := by
  generalize sent : after = after' at other
  cases one with
  | unsent =>
    cases other with
    | unsent => exact told rfl rfl
    | sent => simp at sent
  | sent _ request _ _ sameUrl _ =>
    cases other with
    | unsent => simp at sent
    | sent _ request' _ _ sameUrl' _ =>
      have same : request = request' := by simpa using sent
      rw [← sameUrl, ← sameUrl', same]

end Exchanges

end Transport

namespace Request

variable {base : String} {catalog : Catalog} {request : Request}

/-- Preparing a request stage by stage, with every failure that a stage has by itself: the kind that
is refused, the endpoint that is not found, the URL of an address without an endpoint, and the
endpoint that is missing in the end. -/
def staged (base : String) (catalog : Catalog) (request : Request) :
    Except Error PreparedRequest := do
  if request.kind = Kind.aggregate then throw request.aggregateError
  let address ← (Address.ofBase base).setKind catalog request.effectiveVersion request.kind
  let address := (address.setIdentity request.identity).addParams request.params
  let url ← address.url
  match address.endpoint with
  | some endpoint => return { method := request.verb.method, url, body := request.body, endpoint }
  | none => throw (.unsupportedEndpoint request.kind request.effectiveVersion)

/-- An address that has got its endpoint keeps it, so the later stages never fail. -/
theorem prepare_eq_staged (base : String) (catalog : Catalog) (request : Request) :
    request.prepare base catalog = request.staged base catalog := by
  unfold prepare staged
  split
  · rfl
  · unfold Address.setKind
    cases catalog.resolve request.effectiveVersion request.kind <;> rfl

/-- There are two ways in which preparing a request fails, and each has its own condition. -/
theorem prepare_eq_error_iff {error : Error} :
    request.prepare base catalog = .error error ↔
      request.kind = Kind.aggregate ∧
          error = .unsupportedOperation request.verb.name request.kind ∨
        request.kind ≠ Kind.aggregate ∧
          catalog.resolve request.effectiveVersion request.kind = none ∧
          error = .unsupportedEndpoint request.kind request.effectiveVersion := by
  unfold prepare
  by_cases aggregate : request.kind = Kind.aggregate
  · simp [aggregate, aggregateError, eq_comm]
  · cases catalog.resolve request.effectiveVersion request.kind <;> simp [aggregate, eq_comm]

theorem body_eq_none_iff (request : Request) :
    request.body = none ↔ request.verb = .get ∨ request.verb = .list := by
  unfold body
  cases request.verb <;> simp [Verb.isReadOnly]

/-- What is prepared is for the endpoint that the catalog resolves. -/
theorem resolve_of_prepare {prepared : PreparedRequest}
    (made : request.prepare base catalog = .ok prepared) :
    catalog.resolve request.effectiveVersion request.kind = some prepared.endpoint ∧
      prepared.method = request.verb.method ∧ prepared.body = request.body := by
  unfold prepare at made
  split at made
  · cases made
  · split at made
    · cases made
    · next endpoint resolved =>
      cases made
      exact ⟨resolved, rfl, rfl⟩

end Request

namespace Router

/-- What an answer is turned into: no answer is a failure of the transport, one outside the successes
the error that it tells, and of any other the body is materialized. -/
def answered {α : Type} (url : String) (materialize : String → Except Error α) :
    Option Http.Response → Except Error α
  | none => .error (.transport url)
  | some response =>
    if 200 ≤ response.status ∧ response.status ≤ 299 then materialize response.body
    else .error (Error.ofResponse url response.status response.body)

theorem outcome_bind {α : Type} (url : String) (response : Option Http.Response)
    (materialize : String → Except Error α) :
    (Transport.outcome url response).bind materialize = answered url materialize response := by
  cases response with
  | none => rfl
  | some response =>
    have success : Http.isSuccess response.status = true ↔
        200 ≤ response.status ∧ response.status ≤ 299 := by
      simp [Http.isSuccess, Nat.lt_succ_iff]
    by_cases within : 200 ≤ response.status ∧ response.status ≤ 299
    · simp only [Transport.outcome, success.mpr within, if_true, answered, within, and_self]
      rfl
    · simp only [Transport.outcome, mt success.mp within, if_false, answered, within]
      rfl

/-- The session once a request is prepared: the catalog is known, unless the request was refused. -/
def prepared (router : Router) (request : Request) (session : Session) : Session :=
  if request.kind = Kind.aggregate then session else (router.catalog.run session).2

theorem prepare_run (router : Router) (request : Request) (session : Session) :
    (router.prepare request).run session =
      (request.prepare router.base (router.catalog.run session).1,
        router.prepared request session) := by
  unfold prepare prepared
  by_cases aggregate : request.kind = Kind.aggregate
  · simp only [aggregate, if_true, Request.prepare]
    rfl
  · simp only [aggregate, if_false, StateT.run_bind]
    rfl

/-- What executing a request is: to prepare it, and to send what was prepared, once. -/
theorem execute_run_prepared {α : Type} (router : Router) (session : Session) (request : Request)
    (materialize : String → Except Error α) :
    (router.execute request materialize).run session =
      match request.prepare router.base (router.catalog.run session).1 with
      | .error error => (.error error, router.prepared request session)
      | .ok made =>
        let start := router.prepared request session
        let answer := (router.transport.send made.method made.url made.body).run start.sent
        (answered made.url materialize answer.1, { start with sent := answer.2 }) := by
  rw [execute, StateT.run_bind, prepare_run]
  cases request.prepare router.base (router.catalog.run session).1 with
  | error error => rfl
  | ok made =>
    simp only [← outcome_bind]
    rfl

/-- A request is refused for the aggregate kind, unsupported if the catalog does not resolve its kind
at its version, and prepared otherwise, with a body unless it only reads. What is prepared is sent
exactly once if the token fits a header and the URL names a web server, and what comes back decides
the result. Otherwise nothing is sent. -/
theorem execute_outcome {α : Type} (router : Router) (session : Session) (request : Request)
    (materialize : String → Except Error α) :
    let catalog := (router.catalog.run session).1
    let start := if request.kind = Kind.aggregate then session else (router.catalog.run session).2
    let preparation := (router.prepare request).run session
    let execution := (router.execute request materialize).run session
    preparation = (request.staged router.base catalog, start) ∧
    (∀ error, preparation.1 = .error error ↔
      request.kind = Kind.aggregate ∧
          error = .unsupportedOperation request.verb.name request.kind ∨
        request.kind ≠ Kind.aggregate ∧
          catalog.resolve request.effectiveVersion request.kind = none ∧
          error = .unsupportedEndpoint request.kind request.effectiveVersion) ∧
    (∀ error, preparation.1 = .error error → execution = (.error error, start)) ∧
    ∀ made, preparation.1 = .ok made →
      catalog.resolve request.effectiveVersion request.kind = some made.endpoint ∧
      made.method = request.verb.method ∧
      (made.body = none ↔ request.verb = .get ∨ request.verb = .list) ∧
      (∀ destination, router.transport.Reaches made.url destination →
        ∃ own : Http.Request,
          (own.method = made.method ∧ own.url = made.url ∧ own.body = made.body) ∧
          execution.2 = { start with sent := start.sent ++ [own] } ∧
          execution.1 = answered made.url materialize
            (if router.transport.server.receives destination then
              router.transport.server.answer start.sent own else none)) ∧
      ((∀ destination, ¬ router.transport.Reaches made.url destination) →
        execution = (.error (.transport made.url), start)) := by
  intro catalog start preparation execution
  have prepares : preparation = (request.prepare router.base catalog, start) :=
    router.prepare_run request session
  have executes := router.execute_run_prepared session request materialize
  rw [prepares]
  refine ⟨by rw [Request.prepare_eq_staged], fun error => Request.prepare_eq_error_iff, ?_, ?_⟩
  · intro error failed
    rw [show request.prepare router.base (router.catalog.run session).1 = _ from failed] at executes
    exact executes
  · intro made succeeded
    obtain ⟨resolved, method, body⟩ := Request.resolve_of_prepare succeeded
    rw [show request.prepare router.base (router.catalog.run session).1 = _ from succeeded] at executes
    have sends : execution = (answered made.url materialize
          ((router.transport.send made.method made.url made.body).run start.sent).1,
        { start with sent := ((router.transport.send made.method made.url made.body).run start.sent).2 }) :=
      executes
    refine ⟨resolved, method, by rw [body, request.body_eq_none_iff], fun destination reaches => ?_,
      fun nowhere => ?_⟩
    · obtain ⟨own, asked, same⟩ :=
        Transport.request?_of_reaches reaches made.method made.body
      rw [Transport.send_run_made asked] at sends
      exact ⟨own, same, congrArg Prod.snd sends, congrArg Prod.fst sends⟩
    · rw [Transport.send_run_none (Transport.request?_eq_none nowhere made.method made.body)] at sends
      exact sends

/-- A server that knows one pod. -/
def podRoutes : Routes := [("GET /api/v1/namespaces/ns1/pods/p1", [{ body := "pod" }])]

def podRouter (base : String) (token : Option String) : Router :=
  .ofBase base ⟨podRoutes.server, "", token⟩ []

def getPod : Request where
  verb := .get
  kind := "Pod"
  namespaceName := some "ns1"
  name := some "p1"

/-- The pod is asked for once, and under its own URL. -/
theorem execute_outcome_pod :
    let url := "http://c.example/api/v1/namespaces/ns1/pods/p1"
    let router := podRouter "http://c.example/" (some "secret")
    let execution := (router.execute getPod Except.ok).run Client.podSession
    ∃ made destination, ((router.prepare getPod).run Client.podSession).1 = .ok made ∧
      made.url = url ∧ router.transport.Reaches made.url destination ∧ execution.1 = .ok "pod" ∧
      ∃ own : Http.Request, execution.2.sent = [own] ∧ own.method = .get ∧ own.url = url := by
  intro url router execution
  obtain ⟨-, -, -, sends⟩ :=
    router.execute_outcome Client.podSession getPod (Except.ok : String → Except Error String)
  have prepares : ((router.prepare getPod).run Client.podSession).1.toOption.map (·.url)
      = some url := by decide +kernel
  cases made : ((router.prepare getPod).run Client.podSession).1 with
  | error error =>
    rw [made] at prepares
    cases prepares
  | ok prepared =>
    rw [made] at prepares
    have named : prepared.url = url := Option.some.inj prepares
    have reaches : router.transport.Reaches prepared.url {
        secure := false, userinfo := "", host := .domain "c.example", port := none
        path := ["api", "v1", "namespaces", "ns1", "pods", "p1"], query := none, fragment := none } :=
      ⟨by decide, by rw [named]; decide +kernel⟩
    obtain ⟨-, method, -, once, -⟩ := sends prepared made
    obtain ⟨own, ⟨sameMethod, sameUrl, -⟩, after, -⟩ := once _ reaches
    exact ⟨prepared, _, rfl, named, reaches, by decide +kernel, own, congrArg Session.sent after,
      sameMethod.trans method, sameUrl.trans named⟩

/-- Two requests that are prepared and never sent: the line end in the token fits no header, and
without a base the URL names no server. -/
theorem execute_unsent :
    let url (router : Router) : Option String :=
      ((router.prepare getPod).run Client.podSession).1.toOption.map (·.url)
    let execution (router : Router) : Except Error String × Session :=
      (router.execute getPod Except.ok).run Client.podSession
    let wrapped := podRouter "http://c.example" (some "a\nb")
    let baseless := podRouter "" none
    (url wrapped = some "http://c.example/api/v1/namespaces/ns1/pods/p1" ∧
      (execution wrapped).1
        = .error (.transport "http://c.example/api/v1/namespaces/ns1/pods/p1") ∧
      (execution wrapped).2.sent = []) ∧
    url baseless = some "/api/v1/namespaces/ns1/pods/p1" ∧
      (execution baseless).1 = .error (.transport "/api/v1/namespaces/ns1/pods/p1") ∧
      (execution baseless).2.sent = [] := by
  decide +kernel

end Router

end ClusterClient
