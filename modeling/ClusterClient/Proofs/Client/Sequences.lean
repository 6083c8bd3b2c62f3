import ClusterClient.Proofs.Client.Probes
import ClusterClient.Routes
import ClusterClient.Url.DomainName
import Mathlib.Data.List.Induction

namespace ClusterClient

/-- What a session knows; what it does not know is left open. -/
def Session.snapshot (session : Session) : Snapshot where
  catalog := session.catalog.getD {}
  serverVersion := session.serverVersion.getD none

theorem Session.snapshot_fits (session : Session) : session.snapshot.Fits session where
  catalog catalog known := by rw [snapshot, known, Option.getD_some]
  serverVersion version known := by rw [snapshot, known, Option.getD_some]

theorem Session.catalog_eq_snapshot {session : Session} (known : Probe.catalog.isKnown session = true) :
    session.catalog = some session.snapshot.catalog := by
  obtain ⟨catalog, found⟩ := Option.isSome_iff_exists.mp known
  rw [snapshot, found, Option.getD_some]

theorem Session.serverVersion_eq_snapshot {session : Session}
    (known : Probe.version.isKnown session = true) :
    session.serverVersion = some session.snapshot.serverVersion := by
  obtain ⟨version, found⟩ := Option.isSome_iff_exists.mp known
  rw [snapshot, found, Option.getD_some]

namespace Operation

variable {client : Client} {session : Session} {snapshot : Snapshot} {operation : Operation}

/-- What an operation does: it finds out what it needs and is not known yet, and then does what is
left. -/
theorem run_eq (negotiated : session.Negotiated client)
    (fits : snapshot.Fits (operation.settled client session)) :
    (operation.run client).run session =
      let own := (operation.given client snapshot).run (operation.settled client session).sent
      (own.1, { operation.settled client session with
        sent := own.2
        capabilities := if operation.isSupports then some (snapshot.registry client)
          else session.capabilities
        consulted := if operation.isSupports then (snapshot.registry client).consulted
          else session.consulted }) := by
  cases about : operation.isSupports with
  | false =>
    obtain ⟨kept, trace⟩ := Probe.foldl_settle_capabilities client operation.needs session
    rw [run_eq_onWire about fits]
    simp only [Bool.false_eq_true, if_false, ← kept, ← trace]
    rfl
  | true =>
    cases operation with
    | supports kind =>
      have told := supports_run negotiated fits
      rw [Operation.run, StateT.run_map, told]
      rfl
    | _ => cases about

/-- Exactly what an operation needs is known after it, beside what was known before. -/
theorem run_isKnown (negotiated : session.Negotiated client) (operation : Operation) (probe : Probe) :
    probe.isKnown ((operation.run client).run session).2
      = (probe.isKnown session || operation.needs.contains probe) := by
  rw [run_eq negotiated (operation.settled client session).snapshot_fits, ← Probe.isKnown_foldl_settle client]
  cases probe <;> rfl

theorem settled_grows_run (negotiated : session.Negotiated client) (operation : Operation) :
    (operation.settled client session).Grows ((operation.run client).run session).2 := by
  rw [run_eq negotiated (operation.settled client session).snapshot_fits]
  exact ⟨fun _ known => known, fun _ known => known⟩

theorem run_grows (negotiated : session.Negotiated client) (operation : Operation) :
    session.Grows ((operation.run client).run session).2 :=
  (Probe.foldl_settle_grows client operation.needs session).trans
    (settled_grows_run negotiated operation)

theorem run_negotiated (negotiated : session.Negotiated client) (operation : Operation) :
    ((operation.run client).run session).2.Negotiated client := by
  have grows := run_grows negotiated operation
  rw [run_eq negotiated (operation.settled client session).snapshot_fits] at grows ⊢
  constructor
  case kept =>
    intro registry kept
    split at kept
    · next about =>
      cases operation with
      | supports kind =>
        have known (probe : Probe) :
            probe.isKnown (settled client session (.supports kind)) = true := by
          rw [settled, Probe.isKnown_foldl_settle]
          cases probe <;> simp [needs]
        exact ⟨_, Session.catalog_eq_snapshot (known .catalog),
          Session.serverVersion_eq_snapshot (known .version), (Option.some.inj kept).symm⟩
      | _ => cases about
    · obtain ⟨earlier, catalog, version, same⟩ := negotiated.kept registry kept
      exact ⟨earlier, grows.catalog _ catalog, grows.serverVersion _ version, same⟩
  case consulted =>
    dsimp only
    split
    · rfl
    · exact negotiated.consulted

theorem needs_nodup (operation : Operation) : operation.needs.Nodup := by
  have demand (demand : Except Error Demand) : (Demand.needs demand).Nodup := by
    cases demand with
    | error => exact List.nodup_nil
    | ok => simp [Demand.needs]
  cases operation with
  | get => exact demand _
  | list => exact demand _
  | create => exact demand _
  | update => exact demand _
  | delete => exact demand _
  | watchUrl =>
    rw [needs]
    split <;> simp
  | isSupportedResource =>
    rw [needs]
    split <;> simp
  | _ => simp [needs]

/-- What is left of an operation is an answer, or one request and what its response is made into. -/
theorem given_cases (client : Client) (snapshot : Snapshot) (operation : Operation) :
    (∃ answer, operation.given client snapshot = pure answer) ∨
    ∃ method url body, ∃ finish : Option Http.Response → Answer,
      operation.given client snapshot = finish <$> client.router.transport.send method url body := by
  have demand {α : Type} (materialize : String → Except Error α) (wrap : Except Error α → Answer)
      (demand : Except Error Demand) :
      (∃ answer, wrap <$> Demand.carry client snapshot.catalog materialize demand = pure answer) ∨
      ∃ method url body, ∃ finish : Option Http.Response → Answer,
        wrap <$> Demand.carry client snapshot.catalog materialize demand
          = finish <$> client.router.transport.send method url body := by
    cases demand with
    | error => exact Or.inl ⟨_, rfl⟩
    | ok demand =>
      rw [Demand.carry]
      cases (demand.request client snapshot.catalog).prepare client.router.base snapshot.catalog with
      | error => exact Or.inl ⟨_, rfl⟩
      | ok prepared =>
        exact Or.inr ⟨prepared.method, prepared.url, prepared.body,
          fun response => wrap ((Transport.outcome prepared.url response).bind materialize), rfl⟩
  cases operation with
  | get => exact demand _ _ _
  | list => exact demand _ _ _
  | create => exact demand _ _ _
  | update => exact demand _ _ _
  | delete => exact demand _ _ _
  | _ => exact Or.inl ⟨_, rfl⟩

theorem given_sends (client : Client) (snapshot : Snapshot) (operation : Operation)
    (sent : List Http.Request) :
    ∃ own : Option Http.Request,
      ((operation.given client snapshot).run sent).2 = sent ++ own.toList := by
  rcases operation.given_cases client snapshot with ⟨answer, same⟩ | ⟨method, url, body, finish, same⟩
  · rw [same]
    exact ⟨none, (List.append_nil sent).symm⟩
  · rw [same]
    cases made : client.router.transport.request? method url body with
    | none =>
      have sending := congrArg Prod.snd (Transport.send_run_none made sent)
      exact ⟨none, sending.trans (List.append_nil sent).symm⟩
    | some found => exact ⟨some found.2, congrArg Prod.snd (Transport.send_run_made made sent)⟩

/-- What an operation needs and no earlier one did. -/
def fresh (before : List Operation) (operation : Operation) : List Probe :=
  operation.needs.filter fun probe => !(before.flatMap needs).contains probe

end Operation

namespace Client

variable {client : Client} {session : Session} {snapshot : Snapshot}

theorem negotiated_empty (client : Client) : Session.Negotiated client {} where
  kept _ kept := by cases kept
  consulted := rfl

theorem after_append (client : Client) (before after : List Operation) (session : Session) :
    client.after (before ++ after) session = client.after after (client.after before session) :=
  List.foldl_append

theorem after_append_singleton (client : Client) (before : List Operation) (operation : Operation)
    (session : Session) : client.after (before ++ [operation]) session
      = ((operation.run client).run (client.after before session)).2 :=
  client.after_append before [operation] session

theorem after_negotiated (negotiated : session.Negotiated client) (operations : List Operation) :
    (client.after operations session).Negotiated client := by
  induction operations generalizing session with
  | nil => exact negotiated
  | cons operation rest ih => exact ih (operation.run_negotiated negotiated)

theorem after_grows (negotiated : session.Negotiated client) (operations : List Operation) :
    session.Grows (client.after operations session) := by
  induction operations generalizing session with
  | nil => exact .refl session
  | cons operation rest ih =>
    exact (operation.run_grows negotiated).trans (ih (operation.run_negotiated negotiated))

theorem after_isKnown (negotiated : session.Negotiated client) (operations : List Operation)
    (probe : Probe) : probe.isKnown (client.after operations session)
      = (probe.isKnown session || (operations.flatMap Operation.needs).contains probe) := by
  induction operations generalizing session with
  | nil => rw [List.flatMap_nil, List.contains_nil, Bool.or_false]; rfl
  | cons operation rest ih =>
    rw [List.flatMap_cons, List.contains_append, ← Bool.or_assoc, ← operation.run_isKnown negotiated]
    exact ih (operation.run_negotiated negotiated)

theorem after_capabilities {operations : List Operation}
    (fits : snapshot.Fits (client.after operations {})) :
    (client.after operations {}).capabilities
      = if operations.any Operation.isSupports then some (snapshot.registry client) else none := by
  induction operations using List.reverseRecOn with
  | nil => rfl
  | append_singleton before operation ih =>
    have negotiated := after_negotiated client.negotiated_empty before
    rw [after_append_singleton] at fits ⊢
    have earlier := ih ((operation.run_grows negotiated).fits fits)
    rw [operation.run_eq negotiated ((operation.settled_grows_run negotiated).fits fits)]
    simp only [earlier, List.any_append, List.any_cons, List.any_nil, Bool.or_false]
    cases operation.isSupports <;> simp

theorem after_consulted {operations : List Operation}
    (fits : snapshot.Fits (client.after operations {})) :
    (client.after operations {}).consulted
      = if operations.any Operation.isSupports then (snapshot.registry client).consulted else [] := by
  rw [(after_negotiated client.negotiated_empty operations).consulted, after_capabilities fits]
  split <;> rfl

end Client

/-- The session of a client after some operations, if the snapshot tells what was found out: each of
the three cells is filled if one of the operations needed it, and the factories have run once at
most. -/
def Snapshot.session (snapshot : Snapshot) (client : Client) (operations : List Operation)
    (sent : List Http.Request) : Session where
  sent
  catalog := if (operations.flatMap Operation.needs).contains .catalog then some snapshot.catalog
    else none
  serverVersion := if (operations.flatMap Operation.needs).contains .version then
    some snapshot.serverVersion else none
  capabilities := if operations.any Operation.isSupports then some (snapshot.registry client)
    else none
  consulted := if operations.any Operation.isSupports then (snapshot.registry client).consulted
    else []

namespace Client

variable {client : Client} {session : Session} {snapshot : Snapshot}

/-- The session in which an operation does what is left to do: the probes that it is the first to
need are asked. -/
def ready (client : Client) (before : List Operation) (operation : Operation) : Session :=
  (operation.fresh before).foldl (fun session probe => probe.ask client session)
    (client.after before {})

/-- An operation after some others: what the others needed is known, what it needs beside that is
asked first, and all else is told from the snapshot, with one request of its own at most. -/
structure ProbesOnce (client : Client) (snapshot : Snapshot) (before : List Operation)
    (operation : Operation) : Prop where
  known : client.after before {} = snapshot.session client before (client.after before {}).sent
  catalog_asked : (client.ready before operation).catalog
    = (snapshot.session client (before ++ [operation]) []).catalog
  version_asked : (client.ready before operation).serverVersion
    = (snapshot.session client (before ++ [operation]) []).serverVersion
  carried : (operation.run client).run (client.after before {}) =
    let own := (operation.given client snapshot).run (client.ready before operation).sent
    (own.1, snapshot.session client (before ++ [operation]) own.2)
  single : ∃ own : Option Http.Request,
    ((operation.given client snapshot).run (client.ready before operation).sent).2
      = (client.ready before operation).sent ++ own.toList

theorem ready_eq (client : Client) (before : List Operation) (operation : Operation) :
    client.ready before operation = operation.settled client (client.after before {}) := by
  refine Probe.foldl_ask_filter operation.needs_nodup client fun probe _ => ?_
  rw [after_isKnown client.negotiated_empty]
  cases probe <;> rfl

theorem eq_session {operations : List Operation} (fits : snapshot.Fits session)
    (known : ∀ probe, probe.isKnown session = (operations.flatMap Operation.needs).contains probe)
    (kept : session.capabilities
      = if operations.any Operation.isSupports then some (snapshot.registry client) else none)
    (trace : session.consulted
      = if operations.any Operation.isSupports then (snapshot.registry client).consulted else []) :
    session = snapshot.session client operations session.sent := by
  have catalog : session.catalog = (snapshot.session client operations []).catalog := by
    have found := known .catalog
    rw [Snapshot.session, ← found]
    cases cell : session.catalog with
    | none => simp [Probe.isKnown, cell]
    | some catalog => simp [Probe.isKnown, cell, fits.catalog catalog cell]
  have version : session.serverVersion = (snapshot.session client operations []).serverVersion := by
    have found := known .version
    rw [Snapshot.session, ← found]
    cases cell : session.serverVersion with
    | none => simp [Probe.isKnown, cell]
    | some version => simp [Probe.isKnown, cell, fits.serverVersion version cell]
  obtain ⟨sent, _, _, _, _⟩ := session
  cases catalog
  cases version
  cases kept
  cases trace
  rfl

theorem after_eq_session {operations : List Operation}
    (fits : snapshot.Fits (client.after operations {})) :
    client.after operations {}
      = snapshot.session client operations (client.after operations {}).sent := by
  refine eq_session fits (fun probe => ?_) (after_capabilities fits) (after_consulted fits)
  rw [after_isKnown client.negotiated_empty]
  cases probe <;> rfl

theorem probesOnce_of_fits {before : List Operation} {operation : Operation}
    (fits : snapshot.Fits (client.after (before ++ [operation]) {})) :
    client.ProbesOnce snapshot before operation := by
  have negotiated := after_negotiated client.negotiated_empty before
  have after := after_eq_session fits
  rw [after_append_singleton] at fits after
  have settledFits := (operation.settled_grows_run negotiated).fits fits
  have ran := operation.run_eq negotiated settledFits
  rw [ran] at after
  constructor
  case known => exact after_eq_session ((operation.run_grows negotiated).fits fits)
  case carried =>
    rw [ready_eq, ran]
    exact Prod.ext rfl after
  case single => exact operation.given_sends client snapshot _
  all_goals rw [ready_eq]
  · exact congrArg (·.catalog) after
  · exact congrArg (·.serverVersion) after

/-- The factories for the client as a whole run by the rule when its capabilities are first asked for,
and never again in the run. -/
def NegotiatesOnce (client : Client) (snapshot : Snapshot) (operations : List Operation) : Prop :=
  ∃ consulted, Capability.Consults (snapshot.newRegistry client).context client.router.factories
      consulted ∧
    ∀ before after, operations = before ++ after → (client.after before {}).consulted
      = if before.any Operation.isSupports then consulted else []

/-- What is known is never forgotten, so the end of a run knows all that is found out in it. -/
theorem fits_before {before after : List Operation}
    (fits : snapshot.Fits (client.after (before ++ after) {})) :
    snapshot.Fits (client.after before {}) := by
  rw [after_append] at fits
  exact (after_grows (after_negotiated client.negotiated_empty before) after).fits fits

theorem negotiatesOnce_of_fits {operations : List Operation}
    (fits : snapshot.Fits (client.after operations {})) :
    client.NegotiatesOnce snapshot operations := by
  refine ⟨_, (Capability.consult_consults _ _).1, ?_⟩
  rintro before after rfl
  exact after_consulted (fits_before fits)

/-- Whatever a server answers, the probes of one run tell one snapshot. -/
theorem exists_snapshot (client : Client) (operations : List Operation) :
    ∃ snapshot : Snapshot, (∀ before operation after, operations = before ++ operation :: after →
        client.ProbesOnce snapshot before operation) ∧ client.NegotiatesOnce snapshot operations := by
  have fits := (client.after operations {}).snapshot_fits
  refine ⟨(client.after operations {}).snapshot, ?_, negotiatesOnce_of_fits fits⟩
  rintro before operation after rfl
  rw [List.append_cons] at fits ⊢
  exact probesOnce_of_fits (fits_before fits)

end Client

namespace Snapshot

variable {client : Client} {session : Session} {answers : String → Option Http.Response}

/-- What there is to know about a server that has one answer for each URL. -/
def ofAnswers (answers : String → Option Http.Response) (base : String) : Snapshot where
  catalog := Discovery.assemble (Discovery.rootsOf answers base).groups
    ((Discovery.rootsOf answers base).surfaces.map (Discovery.listingOf answers base))
  serverVersion :=
    let url := base ++ "/version"
    (Transport.reading ServerVersion.ofTree? url (answers url)).toOption

theorem Fits.settle (answered : client.router.transport.AnswersBy answers)
    (fits : (ofAnswers answers client.base).Fits session) (probe : Probe) :
    (ofAnswers answers client.base).Fits (probe.settle client session) := by
  unfold Probe.settle
  split
  · exact fits
  · cases probe with
    | catalog =>
      refine ⟨fun catalog known => ?_, fits.serverVersion⟩
      rw [← Option.some.inj known]
      exact Discovery.discover_yields answered client.base session.sent
    | version =>
      refine ⟨fits.catalog, fun version known => ?_⟩
      rw [← Option.some.inj known]
      exact congrArg Except.toOption (Transport.fetch_yields answered _ _ session.sent)

theorem Fits.foldl_settle (answered : client.router.transport.AnswersBy answers)
    (fits : (ofAnswers answers client.base).Fits session) (probes : List Probe) :
    (ofAnswers answers client.base).Fits (probes.foldl (Probe.settle client) session) := by
  induction probes generalizing session with
  | nil => exact fits
  | cons probe rest ih => exact ih (fits.settle answered probe)

theorem Fits.run (answered : client.router.transport.AnswersBy answers)
    (negotiated : session.Negotiated client) (fits : (ofAnswers answers client.base).Fits session)
    (operation : Operation) :
    (ofAnswers answers client.base).Fits ((operation.run client).run session).2 := by
  have settled := fits.foldl_settle answered operation.needs
  rw [operation.run_eq negotiated settled]
  exact ⟨settled.catalog, settled.serverVersion⟩

theorem fits_empty (snapshot : Snapshot) : snapshot.Fits {} where
  catalog _ known := by cases known
  serverVersion _ known := by cases known

theorem fits_after (answered : client.router.transport.AnswersBy answers)
    (operations : List Operation) :
    (ofAnswers answers client.base).Fits (client.after operations {}) := by
  induction operations using List.reverseRecOn with
  | nil => exact fits_empty _
  | append_singleton before operation ih =>
    rw [Client.after_append_singleton]
    exact ih.run answered (Client.after_negotiated client.negotiated_empty before) operation

end Snapshot

/-- A server that has one answer for each request, whatever was sent before. -/
def Server.IsFixed (server : Server) : Prop :=
  ∀ earlier request, server.answer earlier request = server.answer [] request

namespace Transport

variable {transport : Transport}

theorem send_yields (fixed : transport.server.IsFixed) (method : Http.Method) (url : String)
    (body : Option (List UInt8)) :
    (transport.send method url body).Yields ((transport.send method url body).run []).1 := by
  intro sent
  cases made : transport.request? method url body with
  | none => rw [send_run_none made, send_run_none made]
  | some found => rw [send_run_made made, send_run_made made, fixed]

theorem answersBy_of_isFixed (fixed : transport.server.IsFixed) :
    transport.AnswersBy fun url => ((transport.send .get url none).run []).1 :=
  fun url => send_yields fixed .get url none

end Transport

theorem Wire.Yields.map {α β : Type} {exchange : Wire α} {value : α} (yields : exchange.Yields value)
    (wrap : α → β) : (wrap <$> exchange).Yields (wrap value) :=
  fun sent => congrArg wrap (yields sent)

namespace Operation

/-- With one answer for each request, what an operation comes to is a matter of the snapshot. -/
theorem exists_given_yields {client : Client} (fixed : client.router.transport.server.IsFixed)
    (snapshot : Snapshot) (operation : Operation) :
    ∃ answer, (operation.given client snapshot).Yields answer := by
  rcases operation.given_cases client snapshot with ⟨answer, same⟩ | ⟨method, url, body, finish, same⟩
  · rw [same]
    exact ⟨answer, .pure answer⟩
  · rw [same]
    exact ⟨_, (Transport.send_yields fixed method url body).map finish⟩

end Operation

/-- Routes that give one answer each give it every time. -/
theorem Routes.server_isFixed {routes : Routes} (single : ∀ route ∈ routes, route.2.length = 1) :
    routes.server.IsFixed := by
  intro earlier request
  change routes.answer earlier request = routes.answer [] request
  unfold Routes.answer
  cases found : routes.lookup (keyOf request) with
  | none => rfl
  | some answers =>
    obtain ⟨before, after, split, -⟩ := List.lookup_eq_some_iff.mp found
    obtain ⟨answer, rfl⟩ := List.length_eq_one_iff.mp (single (keyOf request, answers) (by simp [split]))
    have each (turn : Nat) : ([answer][turn]?).or [answer].getLast? = some answer := by
      cases turn <;> rfl
    dsimp only
    rw [each, each]

/-- Whatever a client is asked to do in whatever order: what it needs to know about its server is
asked for once, by the first operation that needs it, and every later one goes by the same answers,
failures included. Its own capabilities are negotiated once, when they are first asked for. A server
that answers each question in one way is seen in one way in all runs, and so operations do not depend
on those before them. -/
theorem operations_probe_once (client : Client) :
    (∀ probe session, (Probe.ask client probe session).sent
      = session.sent ++ client.router.transport.gets (probe.urls client session.sent)) ∧
    (∀ operations, ∃ snapshot,
      (∀ before operation after, operations = before ++ operation :: after →
        client.ProbesOnce snapshot before operation) ∧
      client.NegotiatesOnce snapshot operations) ∧
    (∀ answers, client.router.transport.AnswersBy answers →
      ∃ snapshot, (∀ before operation, client.ProbesOnce snapshot before operation) ∧
        ∀ operations, client.NegotiatesOnce snapshot operations) ∧
    (client.router.transport.server.IsFixed → ∀ before (operation : Operation),
      ((operation.run client).run (client.after before {})).1 = ((operation.run client).run {}).1) := by
  refine ⟨fun probe session => probe.ask_sent client session, client.exists_snapshot,
    fun answers answered => ?_, fun fixed before operation => ?_⟩
  · have fits := Snapshot.fits_after answered
    exact ⟨.ofAnswers answers client.base,
      fun before operation => Client.probesOnce_of_fits (fits (before ++ [operation])),
      fun operations => Client.negotiatesOnce_of_fits (fits operations)⟩
  · have answered := Transport.answersBy_of_isFixed fixed
    have once (before : List Operation) := Client.probesOnce_of_fits
      (Snapshot.fits_after answered (before ++ [operation]))
    obtain ⟨answer, yields⟩ := operation.exists_given_yields fixed (.ofAnswers _ client.base)
    have later := congrArg Prod.fst (once before).carried
    have first := congrArg Prod.fst (once []).carried
    exact (later.trans (yields _)).trans (first.trans (yields _)).symm

/-- A server of pods that does not tell its version. -/
def podListing : Routes := [
  ("GET /api", [{ body := "\x7b\"versions\":[\"v1\"]\x7d" }]),
  ("GET /api/v1", [{ body := "\x7b\"resources\":["
    ++ "\x7b\"name\":\"pods\",\"kind\":\"Pod\",\"namespaced\":true,\"verbs\":[\"get\"]\x7d]\x7d" }])]

/-- The version that is not told is not asked for again, and neither is the catalog. The factory that
runs for the first question about capabilities does not run for the second. -/
theorem operations_probe_once_pods :
    let factories := [Capability.Factory.constant .podLogs (.subresource .podLogs "log")]
    let client : Client := {
      config := {}, router := .ofBase "http://c.example" ⟨podListing.server, "", none⟩ factories }
    let answers (url : String) := ((client.router.transport.send .get url none).run []).1
    let before : List Operation :=
      [.serverVersion, .supports .podLogs, .catalog, .serverVersion, .supports .scale]
    let resolve : Operation := .resolve none "Pod"
    let after := client.after (before ++ [resolve]) {}
    client.router.transport.AnswersBy answers ∧ client.router.transport.server.IsFixed ∧
      (∃ snapshot, (∀ before operation, client.ProbesOnce snapshot before operation) ∧
        ∀ operations, client.NegotiatesOnce snapshot operations) ∧
      ((resolve.run client).run (client.after before {})).1 = ((resolve.run client).run {}).1 ∧
      after.sent.map (·.url) = ["http://c.example/version", "http://c.example/api",
        "http://c.example/oapi", "http://c.example/apis", "http://c.example/api/v1"] ∧
      after.consulted = [0] := by
  intro factories client answers before resolve after
  have fixed : client.router.transport.server.IsFixed := Routes.server_isFixed (by decide)
  have answered := Transport.answersBy_of_isFixed fixed
  obtain ⟨-, -, ofAnswers, ofFixed⟩ := operations_probe_once client
  exact ⟨answered, fixed, ofAnswers answers answered, ofFixed fixed before resolve, by decide +kernel⟩

end ClusterClient
