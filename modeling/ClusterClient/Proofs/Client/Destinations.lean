import ClusterClient.Proofs.Client.Execution
import ClusterClient.Proofs.Client.Sequences

namespace ClusterClient

namespace Answer

def error? : Answer → Option Error
  | resource (.error error) => some error
  | list (.error error) => some error
  | document (.error error) => some error
  | url (.error error) => some error
  | _ => none

/-- A run got as far as a URL: it answers with the URL, or it sent one request there and tells the
URL if nothing came back. -/
def Reached (transport : Transport) (before : List Http.Request) (url : String)
    (ran : Answer × List Http.Request) : Prop :=
  ran.1 = .url (.ok url) ∨ ∃ method body response,
    transport.Exchanges method url body before response ran.2 ∧
      (response = none → ran.1.error? = some (.transport url))

variable {transport : Transport} {before : List Http.Request} {url : String}

theorem reached_pure_iff {answer : Answer} (apart : answer.error? ≠ some (.transport url)) :
    Reached transport before url ((pure answer : Wire Answer).run before) ↔
      answer = .url (.ok url) := by
  constructor
  · rintro (answered | ⟨method, body, response, exchanged, told⟩)
    · exact answered
    · exact absurd (told (exchanged.response_eq_none rfl)) apart
  · exact Or.inl

theorem reached_send_iff {finish : Option Http.Response → Answer} {place : String}
    (apart : ∀ response, finish response ≠ .url (.ok url))
    (tells : (finish none).error? = some (.transport place)) (method : Http.Method)
    (body : Option (List UInt8)) :
    Reached transport before url ((finish <$> transport.send method place body).run before) ↔
      url = place := by
  have goes := transport.send_exchanges method place body before
  have ends : (finish <$> transport.send method place body).run before =
      (finish ((transport.send method place body).run before).1,
        ((transport.send method place body).run before).2) := rfl
  rw [ends]
  constructor
  · rintro (answered | ⟨method', body', response, exchanged, told⟩)
    · exact absurd answered (apart _)
    · -- What was sent is there for all to see, and where nothing was the error tells the URL.
      refine exchanged.url_unique goes fun lost lost' => ?_
      have same := told lost
      rw [lost', tells] at same
      simpa using same.symm
  · rintro rfl
    refine Or.inr ⟨method, body, _, goes, fun lost => ?_⟩
    rw [lost]
    exact tells

end Answer

namespace Demand

variable {client : Client} {catalog : Catalog}

/-- A demand is refused for itself, or it is not for the aggregate kind and what it carries claims
no version but the one that is asked for. -/
def Proper : Except Error Demand → Prop
  | .error error => ∀ url, error ≠ .transport url
  | .ok demand => demand.identity.kind ≠ Kind.aggregate ∧
      demand.identity.version.or (demand.payload.bind (·.apiVersion?)) = demand.identity.version

theorem proper_accept {demand : Demand}
    (agrees : demand.identity.version.or (demand.payload.bind (·.apiVersion?))
      = demand.identity.version) : Proper (accept demand) := by
  unfold accept
  split
  · exact fun url same => by cases same
  · next plain => exact ⟨plain, agrees⟩

theorem proper_named (verb : Verb) (identity : Identity) : Proper (named verb identity) := by
  unfold named
  split
  · exact fun url same => by cases same
  · exact proper_accept Option.or_none

theorem proper_listing (identity : Identity) : Proper (listing identity) :=
  proper_accept Option.or_none

theorem proper_writing (verb : Verb) (resource : Resource) (namespaceName name : Option String) :
    Proper (writing verb resource namespaceName name) := by
  unfold writing
  split
  · exact fun url same => by cases same
  · exact proper_accept Option.or_self

theorem proper_updating (resource : Resource) (namespaceName : Option String) :
    Proper (updating resource namespaceName) := by
  unfold updating
  split
  · exact fun url same => by cases same
  · exact proper_writing ..

end Demand

/-- What the address of an operation is made of, beside the endpoint. -/
structure Target where
  identity : Identity
  watch : Bool := false
  params : List (String × String) := []

def Target.address (client : Client) (catalog : Catalog) (endpoint : Endpoint) (target : Target) :
    Address where
  base := Text.trimEnd '/' client.base
  endpoint := some endpoint
  namespaceName := (client.namespaceIn catalog target.identity).bind Address.given
  name := target.identity.name.bind Address.given
  subresource := target.identity.subresource.bind Address.given
  watch := target.watch
  params := target.params

def Demand.target (demand : Demand) : Target where
  identity := { demand.identity with name := demand.name }

namespace Operation

/-- What an operation asks of the server, if it is not refused before. -/
def demand? : Operation → Option Demand
  | get identity => (Demand.named .get identity).toOption
  | list identity => (Demand.listing identity).toOption
  | create resource namespaceName => (Demand.creating resource namespaceName).toOption
  | update resource namespaceName => (Demand.updating resource namespaceName).toOption
  | delete identity => (Demand.named .delete identity).toOption
  | _ => none

/-- A watch takes no name and no sub-resource, and goes on where a list ended. -/
def watchTarget (identity : Identity) (since : Option ResourceList) : Target where
  identity := { identity with name := none, subresource := none }
  watch := true
  params := (since.bind (·.resourceVersion)).toList.map (("resourceVersion", ·))

/-- What an operation has an address for. -/
def target? : Operation → Option Target
  | watchUrl identity since =>
    if identity.kind = Kind.aggregate then none else some (watchTarget identity since)
  | operation => operation.demand?.map Demand.target

/-- The URL of what an operation is about, if that resolves. -/
def HasUrl (client : Client) (catalog : Catalog) (url : String) (operation : Operation) : Prop :=
  ∃ target endpoint, operation.target? = some target ∧
    catalog.resolve target.identity.version target.identity.kind = some endpoint ∧
    url = (target.address client catalog endpoint).urlAt endpoint

def Reaches (client : Client) (session : Session) (url : String) (operation : Operation) : Prop :=
  let ran := (operation.run client).run session
  Answer.Reached client.router.transport (operation.settled client session).sent url
    (ran.1, ran.2.sent)

end Operation

namespace Demand

variable {client : Client} {catalog : Catalog} {before : List Http.Request} {url : String}

theorem request_address (client : Client) (catalog : Catalog) (demand : Demand)
    (endpoint : Endpoint) :
    let request := demand.request client catalog
    (((Address.ofBase client.router.base).setEndpoint endpoint).setIdentity
        request.identity).addParams request.params
      = demand.target.address client catalog endpoint := by
  have place : client.namespaceIn catalog demand.target.identity
      = client.namespaceIn catalog demand.identity := rfl
  simp only [Address.addParams, Address.setIdentity, Address.setEndpoint, Address.ofBase,
    Request.identity, Demand.request, Target.address, place]
  cases client.namespaceIn catalog demand.identity <;> cases name : demand.name <;>
    cases sub : demand.identity.subresource <;> simp [target, Client.base, name, sub]

theorem request_prepare (client : Client) (catalog : Catalog) {demand : Demand}
    (plain : demand.identity.kind ≠ Kind.aggregate)
    (agrees : demand.identity.version.or (demand.payload.bind (·.apiVersion?))
      = demand.identity.version) :
    (demand.request client catalog).prepare client.router.base catalog =
      match catalog.resolve demand.identity.version demand.identity.kind with
      | none => .error (.unsupportedEndpoint demand.identity.kind demand.identity.version)
      | some endpoint => .ok {
          method := demand.verb.method
          url := (demand.target.address client catalog endpoint).urlAt endpoint
          body := (demand.request client catalog).body
          endpoint } := by
  have version : (demand.request client catalog).effectiveVersion = demand.identity.version := agrees
  have kind : (demand.request client catalog).kind = demand.identity.kind := rfl
  have verb : (demand.request client catalog).verb = demand.verb := rfl
  rw [Request.prepare, kind, if_neg plain, version]
  cases catalog.resolve demand.identity.version demand.identity.kind with
  | none => rfl
  | some endpoint => simp only [request_address, verb]

theorem carry_reached_iff {α : Type} {demanded : Except Error Demand} (proper : Proper demanded)
    {wrap : Except Error α → Answer} (fails : ∀ error, (wrap (.error error)).error? = some error)
    (apart : ∀ outcome, wrap outcome ≠ .url (.ok url)) (materialize : String → Except Error α) :
    Answer.Reached client.router.transport before url
        ((wrap <$> carry client catalog materialize demanded).run before) ↔
      ∃ demand endpoint, demanded.toOption = some demand ∧
        catalog.resolve demand.identity.version demand.identity.kind = some endpoint ∧
        url = (demand.target.address client catalog endpoint).urlAt endpoint := by
  have silent {error : Error} (other : error ≠ .transport url) :
      ¬ Answer.Reached client.router.transport before url
        ((pure (wrap (.error error)) : Wire Answer).run before) := by
    rw [Answer.reached_pure_iff (by rwa [fails, ne_eq, Option.some.injEq])]
    exact apart _
  cases demanded with
  | error error => exact iff_of_false (silent (proper url)) (by simp [Except.toOption])
  | ok demand =>
    rw [carry, request_prepare client catalog proper.1 proper.2]
    cases resolved : catalog.resolve demand.identity.version demand.identity.kind with
    | none =>
      refine iff_of_false (silent fun same => by cases same) ?_
      simp [Except.toOption, resolved]
    | some endpoint =>
      let place := (demand.target.address client catalog endpoint).urlAt endpoint
      let finish (response : Option Http.Response) : Answer :=
        wrap ((Transport.outcome place response).bind materialize)
      have finishes : ∀ response, finish response ≠ .url (.ok url) := fun _ => apart _
      have tells : (finish none).error? = some (.transport place) := fails _
      refine (Answer.reached_send_iff finishes tells demand.verb.method _).trans ?_
      simp [Except.toOption, resolved, place]

end Demand

namespace Operation

variable {client : Client} {catalog : Catalog} {session : Session} {snapshot : Snapshot}
  {url : String} {operation : Operation}

theorem watch_address_eq (client : Client) (catalog : Catalog) (identity : Identity)
    (since : Option ResourceList) :
    Watch.address client.base catalog identity.version identity.kind
        (client.namespaceIn catalog identity) since =
      match catalog.resolve identity.version identity.kind with
      | none => .error (.unsupportedEndpoint identity.kind identity.version)
      | some endpoint =>
        .ok (((watchTarget identity since).address client catalog endpoint).urlAt endpoint) := by
  have place : client.namespaceIn catalog (watchTarget identity since).identity
      = client.namespaceIn catalog identity := rfl
  unfold Watch.address Address.setKind
  cases catalog.resolve identity.version identity.kind with
  | none => rfl
  | some endpoint =>
    simp only [Target.address, place]
    cases client.namespaceIn catalog identity <;> rfl

theorem reached_demand_iff {α : Type} {demanded : Except Error Demand}
    (proper : Demand.Proper demanded) (about : operation.target? = demanded.toOption.map Demand.target)
    (wrap : Except Error α → Answer) (fails : ∀ error, (wrap (.error error)).error? = some error)
    (apart : ∀ outcome, wrap outcome ≠ .url (.ok url)) (materialize : String → Except Error α)
    (before : List Http.Request) :
    Answer.Reached client.router.transport before url
        ((wrap <$> Demand.carry client catalog materialize demanded).run before) ↔
      operation.HasUrl client catalog url := by
  rw [Demand.carry_reached_iff proper fails apart, HasUrl, about]
  cases demanded <;> simp [Except.toOption, Demand.target]

theorem reached_watch_iff (identity : Identity) (since : Option ResourceList)
    (before : List Http.Request) :
    Answer.Reached client.router.transport before url
        (((watchUrl identity since).given client snapshot).run before) ↔
      (watchUrl identity since).HasUrl client snapshot.catalog url := by
  have target : (watchUrl identity since).target? = if identity.kind = Kind.aggregate then none
      else some (watchTarget identity since) := rfl
  rw [given, HasUrl, target, watch_address_eq]
  by_cases aggregate : identity.kind = Kind.aggregate
  · rw [if_pos aggregate, if_pos aggregate]
    rw [Answer.reached_pure_iff fun same => by cases same]
    simp
  · rw [if_neg aggregate, if_neg aggregate]
    cases resolved : snapshot.catalog.resolve identity.version identity.kind with
    | none =>
      rw [Answer.reached_pure_iff fun same => by cases same]
      simp [watchTarget, resolved]
    | some endpoint =>
      rw [Answer.reached_pure_iff fun same => by cases same]
      simp [watchTarget, resolved, eq_comm]

theorem reaches_iff_hasUrl (other : operation.isSupports = false)
    (fits : snapshot.Fits (operation.settled client session)) :
    operation.Reaches client session url ↔ operation.HasUrl client snapshot.catalog url := by
  rw [Reaches, run_eq_onWire other fits]
  cases operation with
  | get identity =>
    exact reached_demand_iff (Demand.proper_named ..) rfl .resource (fun _ => rfl)
      (fun _ same => by cases same) _ _
  | list identity =>
    exact reached_demand_iff (Demand.proper_listing ..) rfl .list (fun _ => rfl)
      (fun _ same => by cases same) _ _
  | create resource namespaceName =>
    exact reached_demand_iff (Demand.proper_writing ..) rfl .resource (fun _ => rfl)
      (fun _ same => by cases same) _ _
  | update resource namespaceName =>
    exact reached_demand_iff (Demand.proper_updating ..) rfl .resource (fun _ => rfl)
      (fun _ same => by cases same) _ _
  | delete identity =>
    exact reached_demand_iff (Demand.proper_named ..) rfl .document (fun _ => rfl)
      (fun _ same => by cases same) _ _
  | watchUrl identity since => exact reached_watch_iff identity since _
  | supports => cases other
  | _ =>
    refine (Answer.reached_pure_iff fun same => by cases same).trans
      (iff_of_false (fun same => by cases same) ?_)
    rintro ⟨target, endpoint, about, -⟩
    cases about

theorem needs_of_target? {target : Target} (about : operation.target? = some target) :
    operation.needs = [.catalog] := by
  have demand {demanded : Except Error Demand}
      (about : demanded.toOption.map Demand.target = some target) :
      Demand.needs demanded = [.catalog] := by
    cases demanded with
    | error => cases about
    | ok => rfl
  cases operation with
  | get => exact demand about
  | list => exact demand about
  | create => exact demand about
  | update => exact demand about
  | delete => exact demand about
  | watchUrl identity since =>
    rw [target?] at about
    rw [needs]
    split at about
    · cases about
    · next plain => rw [if_neg plain]
  | _ => cases about

theorem settled_of_target? {target : Target} (about : operation.target? = some target) :
    client.router.catalog.run session =
      ((operation.settled client session).snapshot.catalog, operation.settled client session) := by
  have fits := (operation.settled client session).snapshot_fits
  have settles : operation.settled client session = Probe.settle client session .catalog := by
    rw [settled, needs_of_target? about]
    rfl
  rw [settles] at fits ⊢
  exact Probe.catalog_run fits

/-- An operation gets as far as the URL of what it is about, if that resolves, and no further. -/
theorem reaches_iff (other : operation.isSupports = false) :
    operation.Reaches client session url ↔
      operation.HasUrl client (client.router.catalog.run session).1 url := by
  rw [reaches_iff_hasUrl other (operation.settled client session).snapshot_fits]
  -- An operation that has a target needs the catalog and nothing else, so the catalog is the one
  -- that the session has or finds first.
  refine exists_congr fun target => exists_congr fun endpoint => and_congr_right fun about => ?_
  rw [settled_of_target? about]

end Operation

end ClusterClient
