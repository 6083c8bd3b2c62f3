import ClusterClient.Proofs.Address.Scope
import ClusterClient.Proofs.Client.Destinations

namespace ClusterClient

namespace Address

theorem queryText_of_ne_nil {params : List (String × String)} (nonempty : params ≠ []) :
    queryText params = "?" ++ "&".intercalate (params.map paramText) := by
  cases params with
  | nil => exact absurd rfl nonempty
  | cons => rfl

theorem queryText_eq_empty_iff {params : List (String × String)} :
    queryText params = "" ↔ params = [] := by
  constructor
  · intro empty
    exact queryText_injective (empty.trans (show "" = queryText [] from rfl))
  · rintro rfl
    rfl

theorem queryText_append_singleton (params : List (String × String)) (param : String × String) :
    queryText (params ++ [param])
      = queryText params ++ (if queryText params = "" then "?" else "&") ++ paramText param := by
  by_cases empty : params = []
  · subst empty
    rfl
  · have texts : params.map paramText ≠ [] := fun none => empty (List.map_eq_nil_iff.mp none)
    rw [if_neg (mt queryText_eq_empty_iff.mp empty), queryText_of_ne_nil empty,
      queryText_of_ne_nil (List.append_ne_nil_of_left_ne_nil empty _), List.map_append,
      List.map_singleton, String.intercalate_append_of_ne_nil texts (List.cons_ne_nil _ _),
      String.intercalate_singleton]
    simp only [String.append_assoc]

theorem queryText_scopeParams (endpoint : Endpoint) (place : Option String) :
    queryText (endpoint.scopeParams place) =
      match endpoint.convention, place with
      | .legacy, some name => "?namespace=" ++ Percent.encode name
      | _, _ => "" := by
  unfold Endpoint.scopeParams
  cases endpoint.convention <;> cases place
  case legacy.some name =>
    have written : queryText [("namespace", name)]
        = "?" ++ (Percent.encode "namespace" ++ "=" ++ Percent.encode name) := rfl
    rw [Percent.encode_namespace, ← String.append_assoc] at written
    exact written
  all_goals rfl

/-- What a query goes on with to start at a version, if there is one. -/
def cursorText (query : String) : Option String → String
  | none => ""
  | some version =>
    (if query = "" then "?" else "&") ++ "resourceVersion=" ++ Percent.encode version

theorem queryText_cursor (params : List (String × String)) (cursor : Option String) :
    queryText (params ++ cursor.toList.map (("resourceVersion", ·)))
      = queryText params ++ cursorText (queryText params) cursor := by
  cases cursor with
  | none => simp [cursorText]
  | some version =>
    have written : paramText ("resourceVersion", version)
        = "resourceVersion=" ++ Percent.encode version := by
      rw [paramText, show Percent.encode "resourceVersion" = "resourceVersion" by decide]
      rfl
    simp only [Option.toList_some, List.map_singleton, queryText_append_singleton, written, cursorText,
      String.append_assoc]

end Address

namespace Client

/-- What a list comes to before anything is sent. -/
def prepareList (client : Client) (identity : Identity) :
    StateM Session (Except Error PreparedRequest) := do
  match ← client.request .list identity with
  | .error error => return .error error
  | .ok request => client.router.prepare request

/-- To list is to prepare the request and to send it. -/
theorem list_eq_prepareList (client : Client) (identity : Identity) :
    client.list identity = do
      match ← client.prepareList identity with
      | .error error => return .error error
      | .ok made =>
        return (← client.router.sendPrepared made).bind client.materializer.materializeList := by
  simp only [list, prepareList, bind_assoc]
  refine congrArg _ (funext fun requested => ?_)
  cases requested <;> rfl

variable {client : Client} {session start : Session} {identity : Identity} {endpoint : Endpoint}

theorem list_run_of_refused {error : Error}
    (prepares : (client.prepareList identity).run session = (.error error, start)) :
    (client.list identity).run session = (.error error, start) := by
  rw [list_eq_prepareList, Session.bind_run prepares]
  rfl

theorem list_run_of_prepared {made : PreparedRequest}
    (prepares : (client.prepareList identity).run session = (.ok made, start)) :
    ∃ response, client.router.transport.Exchanges made.method made.url made.body start.sent response
      ((client.list identity).run session).2.sent := by
  rw [list_eq_prepareList, Session.bind_run prepares]
  exact ⟨_, client.router.transport.send_exchanges made.method made.url made.body start.sent⟩

/-- What to list an identity asks for. -/
def listDemand (identity : Identity) : Demand where
  verb := .list
  identity

theorem prepareList_run (plain : identity.kind ≠ Kind.aggregate) :
    (client.prepareList identity).run session =
      (((listDemand identity).request client (client.router.catalog.run session).1).prepare
          client.router.base (client.router.catalog.run session).1,
        (client.router.catalog.run session).2) := by
  obtain ⟨⟨catalog, start⟩, ran⟩ : ∃ found, client.router.catalog.run session = found := ⟨_, rfl⟩
  obtain ⟨after, made, later⟩ := client.request_run ran plain .list
  rw [prepareList, Session.bind_run made, ran]
  refine (client.router.prepare_run _ after).trans ?_
  rw [Router.prepared, if_neg plain, later]
  rfl

theorem watchUrl_run (plain : identity.kind ≠ Kind.aggregate) (since : Option ResourceList) :
    (client.watchUrl identity since).run session =
      (Watch.address client.base (client.router.catalog.run session).1 identity.version identity.kind
          (client.namespaceIn (client.router.catalog.run session).1 identity) since,
        (client.router.catalog.run session).2) := by
  have about : (Operation.watchUrl identity since).target?
      = some (Operation.watchTarget identity since) := if_neg plain
  rw [Operation.watchUrl_run (Session.snapshot_fits _), if_neg plain,
    Operation.settled_of_target? about]

/-- Neither of a list and a watch has an address if the kind does not resolve. -/
theorem runs_of_unresolved (plain : identity.kind ≠ Kind.aggregate) (since : Option ResourceList)
    (unresolved : (client.router.catalog.run session).1.resolve identity.version identity.kind = none) :
    (client.prepareList identity).run session =
        (.error (.unsupportedEndpoint identity.kind identity.version),
          (client.router.catalog.run session).2) ∧
      (client.watchUrl identity since).run session =
        (.error (.unsupportedEndpoint identity.kind identity.version),
          (client.router.catalog.run session).2) := by
  rw [prepareList_run plain, Demand.request_prepare client _ plain Option.or_none,
    watchUrl_run plain, Operation.watch_address_eq, listDemand, unresolved]
  exact ⟨rfl, rfl⟩

theorem runs_of_resolved (plain : identity.kind ≠ Kind.aggregate) (since : Option ResourceList)
    (resolved : (client.router.catalog.run session).1.resolve identity.version identity.kind
      = some endpoint) :
    (client.prepareList identity).run session = (.ok {
          method := .get
          url := ((listDemand identity).target.address client
            (client.router.catalog.run session).1 endpoint).urlAt endpoint
          body := none
          endpoint }, (client.router.catalog.run session).2) ∧
      (client.watchUrl identity since).run session =
        (.ok (((Operation.watchTarget identity since).address client
            (client.router.catalog.run session).1 endpoint).urlAt endpoint),
          (client.router.catalog.run session).2) := by
  rw [prepareList_run plain, Demand.request_prepare client _ plain Option.or_none,
    watchUrl_run plain, Operation.watch_address_eq, listDemand, resolved]
  exact ⟨rfl, rfl⟩

/-- The namespace in the address of what is listed and of what is watched. -/
def placeIn (client : Client) (catalog : Catalog) (identity : Identity) (endpoint : Endpoint) :
    Option String :=
  if endpoint.isScoped then (client.namespaceIn catalog identity).bind Address.given else none

section

variable {catalog : Catalog} {place : Option String} {query : String}

theorem urlAt_of_unnamed {target : Target} (unnamed : target.identity.name = none)
    (bare : target.identity.subresource = none)
    (placed : client.placeIn catalog target.identity endpoint = place) :
    (target.address client catalog endpoint).urlAt endpoint =
      Text.trimEnd '/' client.base ++ "/" ++ "/".intercalate endpoint.surfaceSegments
        ++ (if target.watch then "/watch" else "")
        ++ ("/" ++ "/".intercalate (endpoint.scopeSegments place ++ [endpoint.pluralName]))
        ++ Address.queryText (endpoint.scopeParams place ++ target.params) := by
  have collection : (target.address client catalog endpoint).objectSegments endpoint
      = [endpoint.pluralName] := by
    simp [Address.objectSegments, Target.address, unnamed, bare]
  have inPlace : (target.address client catalog endpoint).scopedNamespace endpoint = place := placed
  rw [Address.urlAt_eq_textIn, Address.textIn_eq, collection, inPlace]
  simp only [String.append_assoc]
  rfl

theorem urlAt_listDemand (bare : identity.subresource = none)
    (placed : client.placeIn catalog identity endpoint = place)
    (written : Address.queryText (endpoint.scopeParams place) = query) :
    ((listDemand identity).target.address client catalog endpoint).urlAt endpoint =
      Text.trimEnd '/' client.base ++ "/" ++ "/".intercalate endpoint.surfaceSegments
        ++ ("/" ++ "/".intercalate (endpoint.scopeSegments place ++ [endpoint.pluralName]))
        ++ query := by
  calc ((listDemand identity).target.address client catalog endpoint).urlAt endpoint
      = Text.trimEnd '/' client.base ++ "/" ++ "/".intercalate endpoint.surfaceSegments ++ ""
        ++ ("/" ++ "/".intercalate (endpoint.scopeSegments place ++ [endpoint.pluralName]))
        ++ Address.queryText (endpoint.scopeParams place ++ []) := urlAt_of_unnamed rfl bare placed
    _ = _ := by rw [String.append_empty, List.append_nil, written]

theorem urlAt_watchTarget (since : Option ResourceList)
    (placed : client.placeIn catalog identity endpoint = place)
    (written : Address.queryText (endpoint.scopeParams place) = query) :
    ((Operation.watchTarget identity since).address client catalog endpoint).urlAt endpoint =
      Text.trimEnd '/' client.base ++ "/" ++ "/".intercalate endpoint.surfaceSegments ++ "/watch"
        ++ ("/" ++ "/".intercalate (endpoint.scopeSegments place ++ [endpoint.pluralName]))
        ++ query ++ Address.cursorText query (since.bind (·.resourceVersion)) := by
  calc ((Operation.watchTarget identity since).address client catalog endpoint).urlAt endpoint
      = Text.trimEnd '/' client.base ++ "/" ++ "/".intercalate endpoint.surfaceSegments ++ "/watch"
        ++ ("/" ++ "/".intercalate (endpoint.scopeSegments place ++ [endpoint.pluralName]))
        ++ Address.queryText (endpoint.scopeParams place
          ++ (since.bind (·.resourceVersion)).toList.map (("resourceVersion", ·))) :=
        urlAt_of_unnamed rfl rfl placed
    _ = _ := by rw [Address.queryText_cursor, written, ← String.append_assoc]

end

/-- A watch resumes what was listed: it is refused exactly when the list is, before anything is sent
for it and with the same error, and else it has the URL of the list, marked as a watch right after
the version, with the version of what was listed as the last parameter if it has one. -/
theorem watchUrl_resumes (client : Client) (session : Session)
    (plain : identity.kind ≠ Kind.aggregate) (bare : identity.subresource = none)
    (since : Option ResourceList) :
    let catalog := (client.router.catalog.run session).1
    let start := (client.router.catalog.run session).2
    let preparation := (client.prepareList identity).run session
    let listing := (client.list identity).run session
    let watch := (client.watchUrl identity since).run session
    preparation.2 = start ∧ watch.2 = start ∧
    (watch.1.isOk ↔ preparation.1.isOk) ∧
    (∀ error, watch.1 = .error error ↔ preparation.1 = .error error) ∧
    (∀ error, preparation.1 = .error error →
      error = .unsupportedEndpoint identity.kind identity.version ∧ listing = (.error error, start)) ∧
    ∀ made, preparation.1 = .ok made →
      (∃ response, client.router.transport.Exchanges .get made.url none start.sent response
        listing.2.sent) ∧
      let place := client.placeIn catalog identity made.endpoint
      let surface := Text.trimEnd '/' client.base ++ "/"
        ++ "/".intercalate made.endpoint.surfaceSegments
      let collection := "/" ++ "/".intercalate
        (made.endpoint.scopeSegments place ++ [made.endpoint.pluralName])
      let query := match made.endpoint.convention, place with
        | .legacy, some name => "?namespace=" ++ Percent.encode name
        | _, _ => ""
      made.url = surface ++ collection ++ query ∧
      ∃ cursor, watch.1 = .ok (surface ++ "/watch" ++ collection ++ query ++ cursor) ∧
        (since.bind (·.resourceVersion) = none → cursor = "") ∧
        ∀ version, since.bind (·.resourceVersion) = some version → ∃ value,
          cursor = (if query = "" then "?" else "&") ++ "resourceVersion=" ++ value ∧
          '&' ∉ value.toList ∧ Percent.decode? value = some version := by
  intro catalog start preparation listing watch
  -- Both go by what the catalog resolves, so they are refused together.
  cases resolved : catalog.resolve identity.version identity.kind with
  | none =>
    obtain ⟨prepares, watches⟩ : preparation = (.error _, start) ∧ watch = (.error _, start) :=
      runs_of_unresolved plain since resolved
    have lists : listing = _ := list_run_of_refused prepares
    rw [prepares, watches, lists]
    refine ⟨rfl, rfl, Iff.rfl, fun error => by simp, fun error refused => ?_, fun made succeeded => ?_⟩
    · cases refused
      exact ⟨rfl, rfl⟩
    · cases succeeded
  | some endpoint =>
    obtain ⟨prepares, watches⟩ : preparation = (.ok _, start) ∧ watch = (.ok _, start) :=
      runs_of_resolved plain since resolved
    have lists := list_run_of_prepared prepares
    rw [prepares, watches]
    refine ⟨rfl, rfl, iff_of_true rfl rfl, fun error => by simp, fun error refused => ?_,
      fun made succeeded => ?_⟩
    · cases refused
    · cases succeeded
      refine ⟨lists, ?_⟩
      intro place surface collection query
      have written : Address.queryText (endpoint.scopeParams place) = query :=
        Address.queryText_scopeParams endpoint place
      refine ⟨urlAt_listDemand bare rfl written, _,
        congrArg Except.ok (urlAt_watchTarget since rfl written), fun new => ?_, fun version old => ?_⟩
      · rw [new]
        rfl
      · rw [old]
        exact ⟨Percent.encode version, rfl, Percent.not_mem_encode (by decide) version,
          Percent.decode?_encode version⟩

/-- A session that knows of pods at a version whose namespaces stand in the query. -/
def oldPodSession : Session := .pinned (Catalog.addListing {} ⟨"api", none, "v1beta1"⟩ {
  resources := [{ name := "pods", kind := "Pod", namespaced := true, verbs := ["list"] }] }) none

/-- The version of a list is any text, and is written as any other. -/
theorem watchUrl_resumes_pods :
    let identity : Identity := { kind := "Pod" }
    let since : ResourceList := ⟨"Pod", some "v1beta1", some "7/8", []⟩
    let preparation := (podClient.prepareList identity).run oldPodSession
    let watch := (podClient.watchUrl identity since).run oldPodSession
    identity.kind ≠ Kind.aggregate ∧ identity.subresource = none ∧
      (watch.1.isOk ↔ preparation.1.isOk) ∧
      preparation.1.toOption.map (·.url) = some "https://c.example/api/v1beta1/pods?namespace=default" ∧
      watch.1.toOption = some
        "https://c.example/api/v1beta1/watch/pods?namespace=default&resourceVersion=7%2F8" := by
  intro identity since preparation watch
  have plain : identity.kind ≠ Kind.aggregate := by decide
  obtain ⟨-, -, accepts, -⟩ := watchUrl_resumes podClient oldPodSession plain rfl (some since)
  exact ⟨plain, rfl, accepts, by decide +kernel, by decide +kernel⟩

end Client

end ClusterClient
