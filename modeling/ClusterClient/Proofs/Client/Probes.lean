import ClusterClient.Proofs.Capability.Queries
import ClusterClient.Proofs.Client.Operations
import ClusterClient.Proofs.Discovery.Answers

namespace ClusterClient

/-- Discovery gets the root documents, and then one list for each surface that they tell of. -/
theorem Discovery.discover_gets (transport : Transport) (base : String) (sent : List Http.Request) :
    ((discover transport base).run sent).2 = sent ++ transport.gets
      ((Surface.legacyPrefixes ++ [Surface.groupedPrefix]
        ++ ((fetchRoots transport base).run sent).1.surfaces.map Surface.path).map
          (base ++ "/" ++ ·)) := by
  have roots : (fetchRoots transport base).Gets transport
      ((Surface.legacyPrefixes ++ [Surface.groupedPrefix]).map (base ++ "/" ++ ·)) := by
    rw [List.map_append]
    refine .bind (.foldlM (fun roots addressPrefix => ?_) _ _) fun roots => ?_
    · exact (transport.fetch_gets _ _).bind fun _ => .pure _
    · exact (transport.fetch_gets _ _).bind fun _ => .pure _
  have listings (surfaces : List Surface) : (fetchListings transport base surfaces).Gets transport
      ((surfaces.map Surface.path).map (base ++ "/" ++ ·)) := by
    rw [List.map_map]
    exact .mapM (fun surface => (transport.fetch_gets _ _).bind fun _ => .pure _) surfaces
  calc ((discover transport base).run sent).2
      = ((fetchListings transport base ((fetchRoots transport base).run sent).1.surfaces).run
          ((fetchRoots transport base).run sent).2).2 := rfl
    _ = _ := by
      rw [listings, roots, List.append_assoc, ← Transport.gets_append, ← List.map_append]

namespace Probe

/-- What a probe gets from the server. -/
def urls (client : Client) (sent : List Http.Request) : Probe → List String
  | catalog => (Surface.legacyPrefixes ++ [Surface.groupedPrefix]
      ++ ((Discovery.fetchRoots client.router.transport client.base).run sent).1.surfaces.map
        Surface.path).map (client.base ++ "/" ++ ·)
  | version => [client.base ++ "/version"]

/-- Put a question to the server, and keep what comes of it, be it a failure. -/
def ask (client : Client) : Probe → Session → Session
  | catalog, session =>
    let found := (Discovery.discover client.router.transport client.base).run session.sent
    { session with sent := found.2, catalog := some found.1 }
  | version, session =>
    let found := (client.router.transport.fetch ServerVersion.ofTree?
      (client.base ++ "/version")).run session.sent
    { session with sent := found.2, serverVersion := some found.1.toOption }

def isKnown (session : Session) : Probe → Bool
  | catalog => session.catalog.isSome
  | version => session.serverVersion.isSome

/-- Put a question to the server unless its answer is known. -/
def settle (client : Client) (session : Session) (probe : Probe) : Session :=
  if probe.isKnown session then session else probe.ask client session

theorem ask_sent (client : Client) (probe : Probe) (session : Session) :
    (probe.ask client session).sent
      = session.sent ++ client.router.transport.gets (probe.urls client session.sent) := by
  cases probe with
  | catalog => exact Discovery.discover_gets client.router.transport client.base session.sent
  | version => exact client.router.transport.fetch_gets ServerVersion.ofTree? _ session.sent

end Probe

namespace Snapshot

/-- All that a session knows is in the snapshot. -/
structure Fits (snapshot : Snapshot) (session : Session) : Prop where
  catalog : ∀ catalog, session.catalog = some catalog → catalog = snapshot.catalog
  serverVersion : ∀ version, session.serverVersion = some version → version = snapshot.serverVersion

end Snapshot

/-- What a session knows, a later one knows. -/
structure Session.Grows (session later : Session) : Prop where
  catalog : ∀ catalog, session.catalog = some catalog → later.catalog = some catalog
  serverVersion : ∀ version, session.serverVersion = some version →
    later.serverVersion = some version

namespace Session.Grows

variable {session later last : Session}

theorem refl (session : Session) : session.Grows session := ⟨fun _ known => known, fun _ known => known⟩

theorem trans (first : session.Grows later) (second : later.Grows last) : session.Grows last where
  catalog catalog known := second.catalog catalog (first.catalog catalog known)
  serverVersion version known := second.serverVersion version (first.serverVersion version known)

theorem fits {snapshot : Snapshot} (grows : session.Grows later) (fits : snapshot.Fits later) :
    snapshot.Fits session where
  catalog catalog known := fits.catalog catalog (grows.catalog catalog known)
  serverVersion version known := fits.serverVersion version (grows.serverVersion version known)

end Session.Grows

namespace Probe

variable {client : Client} {session : Session} {snapshot : Snapshot}

theorem settle_grows (client : Client) (session : Session) (probe : Probe) :
    session.Grows (probe.settle client session) := by
  unfold settle
  split
  · exact .refl session
  · next unknown =>
    cases probe with
    | catalog =>
      refine ⟨fun catalog known => ?_, fun _ known => known⟩
      simp [isKnown, known] at unknown
    | version =>
      refine ⟨fun _ known => known, fun version known => ?_⟩
      simp [isKnown, known] at unknown

theorem foldl_settle_grows (client : Client) (probes : List Probe) (session : Session) :
    session.Grows (probes.foldl (settle client) session) := by
  induction probes generalizing session with
  | nil => exact .refl session
  | cons probe rest ih => exact (probe.settle_grows client session).trans (ih _)

theorem isKnown_settle (client : Client) (probe other : Probe) (session : Session) :
    probe.isKnown (other.settle client session) = (probe.isKnown session || probe == other) := by
  unfold settle
  split
  · next known =>
    by_cases same : probe = other
    · rw [same, known, Bool.true_or]
    · rw [beq_false_of_ne same, Bool.or_false]
  · cases probe <;> cases other <;> simp [ask, isKnown]

theorem isKnown_foldl_settle (client : Client) (probe : Probe) (probes : List Probe)
    (session : Session) :
    probe.isKnown (probes.foldl (settle client) session)
      = (probe.isKnown session || probes.contains probe) := by
  induction probes generalizing session with
  | nil => rw [List.foldl_nil, List.contains_nil, Bool.or_false]
  | cons other rest ih =>
    rw [List.foldl_cons, ih, isKnown_settle, List.contains_cons, Bool.or_assoc]

/-- To settle some probes is to ask those that are not known yet. -/
theorem foldl_ask_filter {probes : List Probe} (apart : probes.Nodup) (client : Client)
    {session : Session} {known : Probe → Bool}
    (agrees : ∀ probe ∈ probes, probe.isKnown session = known probe) :
    (probes.filter (!known ·)).foldl (fun session probe => probe.ask client session) session
      = probes.foldl (settle client) session := by
  induction probes generalizing session with
  | nil => rfl
  | cons probe rest ih =>
    obtain ⟨first, others⟩ := List.nodup_cons.mp apart
    obtain ⟨agreesFirst, agreesRest⟩ := List.forall_mem_cons.mp agrees
    have later : ∀ other ∈ rest, other.isKnown (probe.settle client session) = known other := by
      intro other member
      have different : other ≠ probe := fun same => first (same ▸ member)
      rw [isKnown_settle, beq_false_of_ne different, Bool.or_false, agreesRest other member]
    rw [List.foldl_cons, ← ih others later]
    cases asked : known probe with
    | true =>
      rw [asked] at agreesFirst
      rw [List.filter_cons_of_neg (by simp [asked]), settle, if_pos agreesFirst]
    | false =>
      rw [asked] at agreesFirst
      have unknown : ¬ probe.isKnown session = true := by simp [agreesFirst]
      rw [List.filter_cons_of_pos (by simp [asked]), List.foldl_cons, settle, if_neg unknown]

theorem catalog_run (fits : snapshot.Fits (catalog.settle client session)) :
    client.router.catalog.run session = (snapshot.catalog, catalog.settle client session) := by
  cases known : session.catalog with
  | some found =>
    have same : catalog.settle client session = session := by simp [settle, isKnown, known]
    rw [same] at fits ⊢
    rw [Router.catalog_run_of_known known, fits.catalog found known]
  | none =>
    have asked : catalog.settle client session = catalog.ask client session := by
      simp [settle, isKnown, known]
    rw [asked] at fits ⊢
    rw [Router.catalog_run_of_unknown known]
    exact Prod.ext (fits.catalog _ rfl) rfl

theorem serverVersion_run (fits : snapshot.Fits (version.settle client session)) :
    client.router.serverVersion.run session
      = (snapshot.serverVersion, version.settle client session) := by
  cases known : session.serverVersion with
  | some found =>
    have same : version.settle client session = session := by simp [settle, isKnown, known]
    rw [same] at fits ⊢
    simp only [Router.serverVersion, StateT.run_bind, StateT.run_get, pure_bind, known]
    rw [fits.serverVersion found known]
    rfl
  | none =>
    have asked : version.settle client session = version.ask client session := by
      simp [settle, isKnown, known]
    rw [asked] at fits ⊢
    simp only [Router.serverVersion, StateT.run_bind, StateT.run_get, pure_bind, known]
    exact Prod.ext (fits.serverVersion _ rfl) rfl

end Probe

namespace Session

variable {α β : Type} {program : StateM Session α} {session ready : Session}

theorem map_run {exchange : Wire α}
    (same : program.run session = (Session.onWire exchange).run ready) (wrap : α → β) :
    (wrap <$> program).run session = (Session.onWire (wrap <$> exchange)).run ready := by
  rw [StateT.run_map, same]
  rfl

theorem tell_run {value : α} (same : program.run session = (value, ready)) (wrap : α → β) :
    (wrap <$> program).run session = (Session.onWire (pure (wrap value))).run ready := by
  rw [StateT.run_map, same]
  rfl

theorem bind_run {next : α → StateM Session β} {value : α}
    (ran : program.run session = (value, ready)) :
    (program >>= next).run session = (next value).run ready := by
  rw [StateT.run_bind, ran]
  rfl

end Session

namespace Demand

variable {α : Type} {client : Client} {session : Session} {snapshot : Snapshot}

def settled (client : Client) (session : Session) (demand : Except Error Demand) : Session :=
  (needs demand).foldl (Probe.settle client) session

/-- A demand is refused before anything is asked, or carried out on what is known by then. -/
theorem accept_run {demand : Demand} (fits : snapshot.Fits (settled client session (accept demand)))
    (materialize : String → Except Error α)
    {next : Except Error Request → StateM Session (Except Error α)}
    (refuses : ∀ error, next (.error error) = pure (.error error))
    (executes : next (.ok {
        verb := demand.verb
        kind := demand.identity.kind
        version := demand.identity.version
        namespaceName := client.namespaceIn snapshot.catalog demand.identity
        subresource := demand.identity.subresource })
      = client.router.execute (demand.request client snapshot.catalog) materialize) :
    (client.request demand.verb demand.identity >>= next).run session
      = (Session.onWire (carry client snapshot.catalog materialize (accept demand))).run
          (settled client session (accept demand)) := by
  by_cases aggregate : demand.identity.kind = Kind.aggregate
  · have refused : accept demand
        = .error (.unsupportedOperation demand.verb.name demand.identity.kind) := if_pos aggregate
    rw [refused, Client.request, if_pos aggregate, pure_bind, refuses]
    rfl
  · have accepted : accept demand = .ok demand := if_neg aggregate
    rw [accepted] at fits ⊢
    obtain ⟨after, made, later⟩ := client.request_run (Probe.catalog_run fits) aggregate demand.verb
    rw [Session.bind_run made, executes, Router.execute_run later aggregate, carry]
    cases (demand.request client snapshot.catalog).prepare client.router.base snapshot.catalog with
    | error error => rfl
    | ok prepared => rfl

theorem onNamed_run {verb : Verb} {identity : Identity}
    (fits : snapshot.Fits (settled client session (named verb identity)))
    (materialize : String → Except Error α) :
    (client.onNamed verb identity materialize).run session
      = (Session.onWire (carry client snapshot.catalog materialize (named verb identity))).run
          (settled client session (named verb identity)) := by
  cases name : identity.name with
  | none => rw [named, Client.onNamed, Client.requiredName, name]; rfl
  | some name' =>
    have demanded : named verb identity = accept { verb, identity, name := some name' } := by
      rw [named, name]
    rw [demanded] at fits ⊢
    rw [Client.onNamed, Client.requiredName, name]
    exact accept_run fits materialize (fun _ => rfl) rfl

theorem list_run {identity : Identity}
    (fits : snapshot.Fits (settled client session (listing identity))) :
    (client.list identity).run session
      = (Session.onWire (carry client snapshot.catalog client.materializer.materializeList
          (listing identity))).run (settled client session (listing identity)) :=
  accept_run fits client.materializer.materializeList (fun _ => rfl) rfl

/-- The name is set on a request that has none, or the request is left as it is. -/
theorem writing_run {verb : Verb} {resource : Resource} {namespaceName name : Option String}
    (fits : snapshot.Fits (settled client session (writing verb resource namespaceName name)))
    (complete : Request → Request)
    (completes : ∀ request : Request, request.name = none → complete request = { request with name })
    (materialize : String → Except Error α) :
    StateT.run (do
        match ← client.writeRequest verb resource namespaceName with
        | .error error => return .error error
        | .ok request => client.router.execute (complete request) materialize) session
      = (Session.onWire (carry client snapshot.catalog materialize
          (writing verb resource namespaceName name))).run
            (settled client session (writing verb resource namespaceName name)) := by
  cases kind : resource.kind? with
  | none => rw [writing, Client.writeRequest, kind]; rfl
  | some kind' =>
    have demanded : writing verb resource namespaceName name = accept {
        verb, identity := Client.writeIdentity resource kind' namespaceName, name
        payload := some (.resource resource) } := by rw [writing, kind]
    have written : client.writeRequest verb resource namespaceName = (do
        let request ← client.request verb (Client.writeIdentity resource kind' namespaceName)
        return request.map fun request => { request with payload := some (.resource resource) }) := by
      rw [Client.writeRequest, kind]
      rfl
    rw [demanded] at fits ⊢
    rw [written, bind_assoc]
    refine accept_run fits materialize (fun _ => rfl) ?_
    exact congrArg (client.router.execute · materialize) (completes _ rfl)

theorem updating_run {resource : Resource} {namespaceName : Option String}
    (fits : snapshot.Fits (settled client session (updating resource namespaceName))) :
    (client.update resource namespaceName).run session
      = (Session.onWire (carry client snapshot.catalog client.materializer.materializeBody
          (updating resource namespaceName))).run
            (settled client session (updating resource namespaceName)) := by
  cases name : resource.name? with
  | none => rw [updating, Client.update, name]; rfl
  | some name' =>
    have demanded : updating resource namespaceName
        = writing .update resource namespaceName (some name') := by rw [updating, name]
    rw [demanded] at fits ⊢
    rw [Client.update, name]
    exact writing_run fits _ (fun _ _ => rfl) client.materializer.materializeBody

theorem creating_run {resource : Resource} {namespaceName : Option String}
    (fits : snapshot.Fits (settled client session (creating resource namespaceName))) :
    (client.create resource namespaceName).run session
      = (Session.onWire (carry client snapshot.catalog client.materializer.materializeBody
          (creating resource namespaceName))).run
            (settled client session (creating resource namespaceName)) :=
  writing_run fits id (fun request unnamed => by rw [← unnamed]; rfl)
    client.materializer.materializeBody

end Demand

namespace Probe

/-- What is found out has nothing to do with the capabilities. -/
theorem foldl_settle_capabilities (client : Client) (probes : List Probe) (session : Session) :
    (probes.foldl (settle client) session).capabilities = session.capabilities ∧
      (probes.foldl (settle client) session).consulted = session.consulted := by
  induction probes generalizing session with
  | nil => exact ⟨rfl, rfl⟩
  | cons probe rest ih =>
    rw [List.foldl_cons, (ih _).1, (ih _).2]
    unfold settle
    split
    · exact ⟨rfl, rfl⟩
    · cases probe <;> exact ⟨rfl, rfl⟩

end Probe

namespace Operation

open Session (map_run tell_run bind_run)

variable {client : Client} {session : Session} {snapshot : Snapshot} {operation : Operation}

/-- The session once all that an operation needs is known. -/
def settled (client : Client) (session : Session) (operation : Operation) : Session :=
  operation.needs.foldl (Probe.settle client) session

theorem watchUrl_run {identity : Identity} {since : Option ResourceList}
    (fits : snapshot.Fits (settled client session (.watchUrl identity since))) :
    (client.watchUrl identity since).run session
      = (if identity.kind = Kind.aggregate then .error (.unsupportedOperation "watch" identity.kind)
          else Watch.address client.base snapshot.catalog identity.version identity.kind
            (client.namespaceIn snapshot.catalog identity) since,
        settled client session (.watchUrl identity since)) := by
  rw [settled, needs] at fits ⊢
  rw [Client.watchUrl]
  by_cases aggregate : identity.kind = Kind.aggregate
  · rw [if_pos aggregate, if_pos aggregate, if_pos aggregate]
    rfl
  · rw [if_neg aggregate] at fits
    obtain ⟨after, found, later⟩ := client.namespaceFor_run (Probe.catalog_run fits) identity
    rw [if_neg aggregate, if_neg aggregate, if_neg aggregate, bind_run found, bind_run later]
    rfl

theorem registryOf_run {resource : Resource}
    (fits : snapshot.Fits (settled client session (.capabilitiesFor resource))) :
    (client.router.registryOf resource).run session
      = (.ofFactories client.router.factories (.ofResource resource
          (resource.kind?.bind (snapshot.catalog.resolve resource.apiVersion?))
          snapshot.serverVersion (some snapshot.catalog)),
        settled client session (.capabilitiesFor resource)) := by
  have catalog := Probe.catalog_run ((Probe.settle_grows client _ .version).fits fits)
  rw [Router.registryOf, bind_run catalog]
  exact bind_run (Probe.serverVersion_run fits)

theorem isSupportedResource_run {resource : Resource}
    (fits : snapshot.Fits (settled client session (.isSupportedResource resource))) :
    (client.router.isSupportedResource resource).run session
      = (resource.kind?.any (snapshot.catalog.isSupported · resource.apiVersion?),
        settled client session (.isSupportedResource resource)) := by
  rw [settled, needs] at fits ⊢
  rw [Router.isSupportedResource]
  cases kind : resource.kind? with
  | none => rfl
  | some kind' =>
    rw [kind, if_neg (by simp)] at fits
    rw [if_neg (by simp)]
    exact bind_run (Probe.catalog_run fits)

/-- What is left of an operation is what can be told from the snapshot. -/
theorem run_eq_onWire (other : operation.isSupports = false)
    (fits : snapshot.Fits (operation.settled client session)) :
    (operation.run client).run session
      = (Session.onWire (operation.given client snapshot)).run (operation.settled client session) := by
  cases operation with
  | get identity => exact map_run (Demand.onNamed_run fits _) Answer.resource
  | list identity => exact map_run (Demand.list_run fits) Answer.list
  | create resource namespaceName => exact map_run (Demand.creating_run fits) Answer.resource
  | update resource namespaceName => exact map_run (Demand.updating_run fits) Answer.resource
  | delete identity => exact map_run (Demand.onNamed_run fits _) Answer.document
  | watchUrl identity since => exact tell_run (watchUrl_run fits) Answer.url
  | supports kind => cases other
  | capabilitiesFor resource => exact tell_run (registryOf_run fits) Answer.registry
  | serverVersion => exact tell_run (Probe.serverVersion_run fits) Answer.version
  | catalog => exact tell_run (Probe.catalog_run fits) Answer.catalog
  | resolve version kind =>
    have resolved : (client.router.resolve version kind).run session
        = (snapshot.catalog.resolve version kind, settled client session (.resolve version kind)) :=
      bind_run (Probe.catalog_run fits)
    exact tell_run resolved Answer.endpoint
  | resolveType version kind => exact bind_run (Probe.catalog_run fits)
  | isSupported kind version => exact bind_run (Probe.catalog_run fits)
  | isSupportedResource resource => exact tell_run (isSupportedResource_run fits) Answer.flag

end Operation

/-- The capabilities that a session keeps are negotiated with what it knows, and no factories have run
but for them. -/
structure Session.Negotiated (client : Client) (session : Session) : Prop where
  kept : ∀ registry, session.capabilities = some registry → ∃ snapshot : Snapshot,
    session.catalog = some snapshot.catalog ∧
      session.serverVersion = some snapshot.serverVersion ∧ registry = snapshot.registry client
  consulted : session.consulted = session.capabilities.elim [] (·.consulted)

namespace Operation

open Session (bind_run)

variable {client : Client} {session : Session} {snapshot : Snapshot} {operation : Operation}

theorem ask_run {α : Type} {registry : Capability.Registry} {later : Session}
    (ran : client.router.registry.run session = (registry, later))
    (question : Capability.Registry → α × Capability.Registry) :
    (client.router.ask question).run session = ((question registry).1,
      { later with
        capabilities := some (question registry).2
        consulted := later.consulted ++ (question registry).2.consultedSince registry }) := by
  rw [Router.ask, bind_run ran]
  rfl

/-- The record of the client as a whole is negotiated once, with what is known by then. -/
theorem supports_run (negotiated : session.Negotiated client) {kind : CapabilityKind}
    (fits : snapshot.Fits (settled client session (.supports kind))) :
    (client.router.supports kind).run session = (((snapshot.registry client).supports kind).1,
      { settled client session (.supports kind) with
        capabilities := some (snapshot.registry client)
        consulted := (snapshot.registry client).consulted }) := by
  have again : (snapshot.registry client).populate = ((snapshot.registry client).populate.1,
      snapshot.registry client) := by
    rw [Snapshot.registry, Capability.Registry.populate_populate]
  have trace := negotiated.consulted
  cases kept : session.capabilities with
  | some registry =>
    obtain ⟨known, catalog, version, rfl⟩ := negotiated.kept registry kept
    have same : settled client session (.supports kind) = session := by
      simp [settled, needs, Probe.settle, Probe.isKnown, catalog, version]
    rw [same] at fits ⊢
    -- What the registry was negotiated with is still known, so it is what the snapshot tells.
    obtain rfl : known = snapshot := by
      rw [Snapshot.mk.injEq]
      exact ⟨fits.catalog _ catalog, fits.serverVersion _ version⟩
    have ran : client.router.registry.run session = (known.registry client, session) := by
      simp only [Router.registry, StateT.run_bind, StateT.run_get, pure_bind, kept]
      rfl
    rw [Router.supports, ask_run ran, Capability.Registry.supports, again,
      Capability.Registry.consultedSince_self, List.append_nil, trace, kept]
    rfl
  | none =>
    have version := Probe.serverVersion_run ((Probe.settle_grows client _ .catalog).fits fits)
    have catalog := Probe.catalog_run fits
    have ran : client.router.registry.run session = (snapshot.newRegistry client,
        { settled client session (.supports kind) with
          capabilities := some (snapshot.newRegistry client) }) := by
      have read : (MonadState.get : StateM Session Session).run session = (session, session) := rfl
      rw [Router.registry, bind_run read, kept, bind_run version, bind_run catalog]
      rfl
    have untouched : (settled client session (.supports kind)).consulted = [] := by
      rw [settled, (Probe.foldl_settle_capabilities client _ session).2, trace, kept]
      rfl
    rw [Router.supports, ask_run ran, Capability.Registry.supports, Capability.Registry.supports,
      again, untouched]
    rfl

end Operation

end ClusterClient
