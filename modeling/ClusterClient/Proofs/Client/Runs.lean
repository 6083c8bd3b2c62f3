import ClusterClient.Client
import ClusterClient.Proofs.Http.Wire

namespace ClusterClient

theorem Discovery.discover_sends (transport : Transport) (base : String) :
    (discover transport base).Sends (·.method = .get) := by
  have roots : (fetchRoots transport base).Sends (·.method = .get) := by
    refine .bind (.foldlM (fun roots addressPrefix => ?_) _ _) fun roots => ?_
    · exact (transport.fetch_sends _ _).bind fun _ => .pure _
    · exact (transport.fetch_sends _ _).bind fun _ => .pure _
  refine roots.bind fun roots => .bind (.mapM (fun surface => ?_) _) fun _ => .pure _
  exact (transport.fetch_sends _ _).bind fun _ => .pure _

namespace Router

variable {router : Router} {session : Session}

theorem catalog_run_of_known {catalog : Catalog} (known : session.catalog = some catalog) :
    router.catalog.run session = (catalog, session) := by
  simp only [Router.catalog, StateT.run_bind, StateT.run_get, pure_bind, known, StateT.run_pure]
  rfl

theorem catalog_run_of_unknown (unknown : session.catalog = none) :
    router.catalog.run session =
      let found := (Discovery.discover router.transport router.base).run session.sent
      (found.1, { session with sent := found.2, catalog := some found.1 }) := by
  simp only [Router.catalog, StateT.run_bind, StateT.run_get, pure_bind, unknown]
  rfl

/-- Once it has been asked for, the catalog is known. -/
theorem catalog_run_catalog (router : Router) (session : Session) :
    (router.catalog.run session).2.catalog = some (router.catalog.run session).1 := by
  cases known : session.catalog with
  | some catalog => rw [catalog_run_of_known known, known]
  | none => rw [catalog_run_of_unknown known]

theorem catalog_run_again (router : Router) (session : Session) :
    router.catalog.run (router.catalog.run session).2 = router.catalog.run session :=
  catalog_run_of_known (catalog_run_catalog router session)

/-- Discovery only reads. -/
theorem catalog_run_sends (router : Router) (session : Session) :
    ∃ probes, (router.catalog.run session).2.sent = session.sent ++ probes ∧
      ∀ probe ∈ probes, probe.method = .get := by
  cases known : session.catalog with
  | some catalog =>
    rw [catalog_run_of_known known]
    exact ⟨[], (List.append_nil _).symm, fun _ member => by cases member⟩
  | none =>
    rw [catalog_run_of_unknown known]
    exact Discovery.discover_sends router.transport router.base session.sent

/-- What carrying out a request does: it makes sure of the catalog, then sends at most once. -/
theorem execute_run {α : Type} {catalog : Catalog} {start : Session}
    (ran : router.catalog.run session = (catalog, start)) {request : Request}
    (plain : request.kind ≠ Kind.aggregate) (materialize : String → Except Error α) :
    (router.execute request materialize).run session =
      match request.prepare router.base catalog with
      | .error error => (.error error, start)
      | .ok prepared =>
        let answer := (router.transport.send prepared.method prepared.url prepared.body).run start.sent
        ((Transport.outcome prepared.url answer.1).bind materialize,
          { start with sent := answer.2 }) := by
  have ready : (router.prepare request).run session = (request.prepare router.base catalog, start) := by
    simp only [prepare, plain, if_false, StateT.run_bind, ran]
    rfl
  rw [execute, StateT.run_bind, ready]
  cases request.prepare router.base catalog with
  | error error => rfl
  | ok prepared => rfl

end Router

namespace Client

/-- The namespace of an operation, once the catalog is known. -/
def namespaceIn (client : Client) (catalog : Catalog) (identity : Identity) : Option String :=
  match identity.namespaceName with
  | some name => some name
  | none =>
    if Kind.isNamespaceRoot identity.kind then none
    else (catalog.resolve identity.version identity.kind).bind fun endpoint =>
      if endpoint.namespaced then some client.config.effectiveNamespace else none

variable {client : Client} {session start : Session} {catalog : Catalog} {identity : Identity}

/-- The catalog is found with the namespace, or else left to what comes next. -/
theorem namespaceFor_run (ran : client.router.catalog.run session = (catalog, start))
    (identity : Identity) :
    ∃ after, (client.namespaceFor identity).run session
        = (client.namespaceIn catalog identity, after) ∧
      client.router.catalog.run after = (catalog, start) := by
  have again : client.router.catalog.run start = (catalog, start) := by
    have known := client.router.catalog_run_again session
    rwa [ran] at known
  simp only [namespaceFor, namespaceIn]
  cases identity.namespaceName with
  | some name => exact ⟨session, rfl, ran⟩
  | none =>
    by_cases root : Kind.isNamespaceRoot identity.kind = true
    · simp only [root, if_true]
      exact ⟨session, rfl, ran⟩
    · simp only [root, Bool.false_eq_true, if_false, Router.resolve, StateT.run_bind, ran]
      exact ⟨start, rfl, again⟩

theorem request_run (ran : client.router.catalog.run session = (catalog, start))
    (plain : identity.kind ≠ Kind.aggregate) (verb : Verb) :
    ∃ after, (client.request verb identity).run session =
        (.ok {
          verb
          kind := identity.kind
          version := identity.version
          namespaceName := client.namespaceIn catalog identity
          subresource := identity.subresource }, after) ∧
      client.router.catalog.run after = (catalog, start) := by
  obtain ⟨after, found, later⟩ := namespaceFor_run ran identity
  refine ⟨after, ?_, later⟩
  simp only [request, plain, if_false, StateT.run_bind, found]
  rfl

end Client

end ClusterClient
