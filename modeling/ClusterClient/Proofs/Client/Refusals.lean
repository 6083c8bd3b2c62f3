import ClusterClient.Proofs.Client.Execution
import ClusterClient.Proofs.Client.Sequences
import ClusterClient.Url.DomainName

namespace ClusterClient

/-- What a client can be asked to do with the resources of a kind. -/
inductive ResourceOperation : Type 1 where
  | get (identity : Identity)
  | list (identity : Identity)
  | create (resource : Resource) (namespaceName : Option String)
  | update (resource : Resource) (namespaceName : Option String)
  | delete (identity : Identity)
  | watchUrl (identity : Identity) (since : Option ResourceList)
  | watchChannel (identity : Identity) (since : Option ResourceList)
  | execute {α : Type} (request : Request) (materialize : String → Except Error α)

namespace ResourceOperation

def Result : ResourceOperation → Type
  | get _ => Resource
  | list _ => ResourceList
  | create _ _ => Resource
  | update _ _ => Resource
  | delete _ => Json
  | watchUrl _ _ => String
  | watchChannel _ _ => Watch.Channel
  | @execute α _ _ => α

def run (client : Client) :
    (operation : ResourceOperation) → StateM Session (Except Error operation.Result)
  | get identity => client.get identity
  | list identity => client.list identity
  | create resource namespaceName => client.create resource namespaceName
  | update resource namespaceName => client.update resource namespaceName
  | delete identity => client.delete identity
  | watchUrl identity since => client.watchUrl identity since
  | watchChannel identity since => client.watchChannel identity since
  | execute request materialize => client.router.execute request materialize

/-- The kind that an operation names. A resource may name none. -/
def kind? : ResourceOperation → Option String
  | get identity => some identity.kind
  | list identity => some identity.kind
  | create resource _ => resource.kind?
  | update resource _ => resource.kind?
  | delete identity => some identity.kind
  | watchUrl identity _ => some identity.kind
  | watchChannel identity _ => some identity.kind
  | execute request _ => some request.kind

/-- Why an operation on a kind is refused: there is nothing to ask of the aggregate kind. -/
def kindRefusal? (verb kind : String) : Option Error :=
  if kind = "List" then some (.unsupportedOperation verb kind) else none

def nameRefusal? (verb : String) (identity : Identity) : Option Error :=
  match identity.name with
  | none => some (.configuration (.nameRequired identity.kind))
  | some _ => kindRefusal? verb identity.kind

def writeRefusal? (verb : String) (resource : Resource) : Option Error :=
  match resource.kind? with
  | none => some (.configuration .resourceWithoutKind)
  | some kind => kindRefusal? verb kind

/-- Why an operation is refused before anything is asked of the server, if it is. -/
def refusal? : ResourceOperation → Option Error
  | get identity => nameRefusal? "get" identity
  | list identity => kindRefusal? "list" identity.kind
  | create resource _ => writeRefusal? "create" resource
  | update resource _ =>
    match resource.name? with
    | none => some (.configuration .updateWithoutName)
    | some _ => writeRefusal? "update" resource
  | delete identity => nameRefusal? "delete" identity
  | watchUrl identity _ => kindRefusal? "watch" identity.kind
  | watchChannel identity _ => kindRefusal? "watch" identity.kind
  | execute request _ => kindRefusal? request.verb.name request.kind

theorem kindRefusal?_eq_some_iff {verb kind : String} {error : Error} :
    kindRefusal? verb kind = some error ↔
      kind = Kind.aggregate ∧ .unsupportedOperation verb kind = error := by
  rw [kindRefusal?, Option.ite_none_right_eq_some, Option.some_inj]
  rfl

theorem kindRefusal?_eq_none_iff {verb kind : String} :
    kindRefusal? verb kind = none ↔ kind ≠ Kind.aggregate := by
  rw [kindRefusal?, ite_eq_right_iff]
  exact ⟨fun only same => (by cases only same), fun other same => absurd same other⟩

/-- An operation on the aggregate kind is refused for its kind, if not for a name that it lacks. -/
theorem exists_refusal {operation : ResourceOperation}
    (aggregate : operation.kind? = some Kind.aggregate) :
    ∃ error, operation.refusal? = some error := by
  have kind (verb : String) {kind : String} (same : some kind = some Kind.aggregate) :
      ∃ error, kindRefusal? verb kind = some error :=
    ⟨_, kindRefusal?_eq_some_iff.mpr ⟨Option.some.inj same, rfl⟩⟩
  have named (verb : String) {identity : Identity} (same : some identity.kind = some Kind.aggregate) :
      ∃ error, nameRefusal? verb identity = some error := by
    unfold nameRefusal?
    cases identity.name with
    | none => exact ⟨_, rfl⟩
    | some _ => exact kind verb same
  have written (verb : String) {resource : Resource} (same : resource.kind? = some Kind.aggregate) :
      ∃ error, writeRefusal? verb resource = some error := by
    rw [writeRefusal?, same]
    exact kind verb rfl
  cases operation with
  | get => exact named _ aggregate
  | list => exact kind _ aggregate
  | create => exact written _ aggregate
  | update resource =>
    rw [refusal?]
    cases resource.name? with
    | none => exact ⟨_, rfl⟩
    | some _ => exact written _ aggregate
  | delete => exact named _ aggregate
  | watchUrl => exact kind _ aggregate
  | watchChannel => exact kind _ aggregate
  | execute => exact kind _ aggregate

end ResourceOperation

namespace Client

open ResourceOperation (kindRefusal? nameRefusal? writeRefusal?)

variable {α : Type} {client : Client} {verb : Verb} {identity : Identity} {resource : Resource}
  {session : Session} {error : Error}

/-- A failure that is passed on is all that comes of what follows. -/
theorem bind_run_of_error {β : Type} {first : StateM Session (Except Error β)}
    {next : Except Error β → StateM Session (Except Error α)}
    (failed : first.run session = (.error error, session))
    (passed : next (.error error) = pure (.error error)) :
    (first >>= next).run session = (.error error, session) := by
  rw [StateT.run_bind, failed]
  exact congrArg (StateT.run · session) passed

theorem request_run_of_refusal (refused : kindRefusal? verb.name identity.kind = some error) :
    (client.request verb identity).run session = (.error error, session) := by
  obtain ⟨aggregate, rfl⟩ := ResourceOperation.kindRefusal?_eq_some_iff.mp refused
  simp only [request, aggregate, if_true]
  rfl

theorem onNamed_run_of_refusal (materialize : String → Except Error α)
    (refused : nameRefusal? verb.name identity = some error) :
    (client.onNamed verb identity materialize).run session = (.error error, session) := by
  unfold nameRefusal? at refused
  cases name : identity.name with
  | none =>
    simp only [name, Option.some.injEq] at refused
    simp only [onNamed, requiredName, name, refused]
    rfl
  | some text =>
    simp only [name] at refused
    simp only [onNamed, requiredName, name]
    exact bind_run_of_error (request_run_of_refusal refused) rfl

theorem writeRequest_run_of_refusal {namespaceName : Option String}
    (refused : writeRefusal? verb.name resource = some error) :
    (client.writeRequest verb resource namespaceName).run session = (.error error, session) := by
  unfold writeRefusal? at refused
  cases kind : resource.kind? with
  | none =>
    simp only [kind, Option.some.injEq] at refused
    simp only [writeRequest, kind, refused]
    rfl
  | some text =>
    simp only [kind] at refused
    simp only [writeRequest, kind]
    exact bind_run_of_error (request_run_of_refusal refused) rfl

theorem watchUrl_run_of_refusal {since : Option ResourceList}
    (refused : kindRefusal? "watch" identity.kind = some error) :
    (client.watchUrl identity since).run session = (.error error, session) := by
  obtain ⟨aggregate, rfl⟩ := ResourceOperation.kindRefusal?_eq_some_iff.mp refused
  simp only [watchUrl, aggregate, if_true]
  rfl

theorem update_run_of_refusal {namespaceName : Option String}
    (refused : (ResourceOperation.update resource namespaceName).refusal? = some error) :
    (client.update resource namespaceName).run session = (.error error, session) := by
  rw [ResourceOperation.refusal?] at refused
  cases name : resource.name? with
  | none =>
    simp only [name, Option.some.injEq] at refused
    simp only [update, name, refused]
    rfl
  | some text =>
    simp only [name] at refused
    simp only [update, name]
    exact bind_run_of_error (writeRequest_run_of_refusal refused) rfl

/-- What is refused comes to its error, and leaves the session as it was. -/
theorem run_of_refusal {operation : ResourceOperation}
    (refused : operation.refusal? = some error) :
    (operation.run client).run session = (.error error, session) := by
  cases operation with
  | get => exact onNamed_run_of_refusal _ refused
  | list => exact bind_run_of_error (request_run_of_refusal refused) rfl
  | create => exact bind_run_of_error (writeRequest_run_of_refusal refused) rfl
  | update => exact update_run_of_refusal refused
  | delete => exact onNamed_run_of_refusal _ refused
  | watchUrl => exact watchUrl_run_of_refusal refused
  | watchChannel => exact bind_run_of_error (watchUrl_run_of_refusal refused) rfl
  | execute request materialize =>
    obtain ⟨aggregate, rfl⟩ := ResourceOperation.kindRefusal?_eq_some_iff.mp refused
    have prepared : (client.router.prepare request).run session
        = (.error request.aggregateError, session) := by
      simp only [Router.prepare, aggregate, if_true]
      rfl
    exact bind_run_of_error prepared rfl

/-- The session after some operations, one after the other. -/
def sessionAfter (client : Client) (operations : List ResourceOperation) (session : Session) :
    Session :=
  operations.foldl (fun session operation => ((operation.run client).run session).2) session

theorem sessionAfter_of_refusals (client : Client) (session : Session)
    {operations : List ResourceOperation}
    (refused : ∀ operation ∈ operations, ∃ error, operation.refusal? = some error) :
    client.sessionAfter operations session = session := by
  induction operations with
  | nil => rfl
  | cons operation rest ih =>
    obtain ⟨⟨error, first⟩, others⟩ := List.forall_mem_cons.mp refused
    rw [sessionAfter, List.foldl_cons, run_of_refusal first]
    exact ih others

theorem needs_named (accepted : nameRefusal? verb.name identity = none) :
    Demand.needs (Demand.named verb identity) = [.catalog] := by
  unfold nameRefusal? at accepted
  unfold Demand.named
  cases name : identity.name with
  | none => simp [name] at accepted
  | some text =>
    simp only [name] at accepted
    have plain := ResourceOperation.kindRefusal?_eq_none_iff.mp accepted
    simp only [Demand.accept, plain, if_false]
    rfl

theorem needs_writing {namespaceName name : Option String}
    (accepted : writeRefusal? verb.name resource = none) :
    Demand.needs (Demand.writing verb resource namespaceName name) = [.catalog] := by
  unfold writeRefusal? at accepted
  unfold Demand.writing
  cases kind : resource.kind? with
  | none => simp [kind] at accepted
  | some text =>
    simp only [kind] at accepted
    have plain := ResourceOperation.kindRefusal?_eq_none_iff.mp accepted
    simp only [Demand.accept, writeIdentity, plain, if_false]
    rfl

theorem isDiscovered_of_needs (operation : Operation) (needs : operation.needs = [.catalog]) :
    ((operation.run client).run {}).2.isDiscovered = true := by
  have known := operation.run_isKnown client.negotiated_empty .catalog
  rw [needs] at known
  exact known

theorem isDiscovered_watchUrl (since : Option ResourceList)
    (accepted : kindRefusal? "watch" identity.kind = none) :
    ((client.watchUrl identity since).run {}).2.isDiscovered = true :=
  isDiscovered_of_needs (.watchUrl identity since)
    (if_neg (ResourceOperation.kindRefusal?_eq_none_iff.mp accepted))

theorem isDiscovered_execute {request : Request} (materialize : String → Except Error α)
    (accepted : kindRefusal? request.verb.name request.kind = none) :
    ((client.router.execute request materialize).run {}).2.isDiscovered = true := by
  have plain := ResourceOperation.kindRefusal?_eq_none_iff.mp accepted
  have start : (client.router.prepared request {}).isDiscovered = true := by
    rw [Router.prepared, if_neg plain, Session.isDiscovered, Router.catalog_run_catalog,
      Option.isSome_some]
  rw [Router.execute_run_prepared]
  split
  · exact start
  · exact start

/-- What is not refused needs the catalog, and so has it discovered. -/
theorem isDiscovered_of_accepted {operation : ResourceOperation}
    (accepted : operation.refusal? = none) :
    ((operation.run client).run {}).2.isDiscovered = true := by
  cases operation with
  | get identity => exact isDiscovered_of_needs (.get identity) (needs_named accepted)
  | list identity =>
    have plain := ResourceOperation.kindRefusal?_eq_none_iff.mp accepted
    refine isDiscovered_of_needs (.list identity) ?_
    simp only [Operation.needs, Demand.listing, Demand.accept, plain, if_false]
    rfl
  | create resource namespaceName =>
    exact isDiscovered_of_needs (.create resource namespaceName) (needs_writing accepted)
  | update resource namespaceName =>
    refine isDiscovered_of_needs (.update resource namespaceName) ?_
    rw [ResourceOperation.refusal?] at accepted
    rw [Operation.needs, Demand.updating]
    cases name : resource.name? with
    | none => simp [name] at accepted
    | some text =>
      simp only [name] at accepted
      exact needs_writing accepted
  | delete identity =>
    exact isDiscovered_of_needs (.delete identity) (needs_named accepted)
  | watchUrl identity since => exact isDiscovered_watchUrl since accepted
  | watchChannel identity since => exact isDiscovered_watchUrl since accepted
  | execute request materialize => exact isDiscovered_execute materialize accepted

/-- However often a new client is asked for the aggregate kind, it answers with errors and asks its
server for nothing. It is the operations that are not refused, and only those, that have the catalog
discovered. -/
theorem aggregate_asks_nothing (client : Client) {operations : List ResourceOperation}
    (aggregate : ∀ operation ∈ operations, operation.kind? = some "List") :
    let start : Session := {}
    (∀ before operation after, operations = before ++ operation :: after →
      ∃ error, operation.refusal? = some error ∧
        (operation.run client).run (client.sessionAfter before start) = (.error error, start)) ∧
    (client.sessionAfter operations start).sent = [] ∧
    (client.sessionAfter operations start).isDiscovered = false ∧
    ∀ operation : ResourceOperation,
      ((operation.run client).run start).2.isDiscovered = true ↔ operation.refusal? = none := by
  intro start
  have refused : ∀ operation ∈ operations, ∃ error, operation.refusal? = some error :=
    fun operation member => ResourceOperation.exists_refusal (aggregate operation member)
  have unchanged := client.sessionAfter_of_refusals start refused
  refine ⟨?_, by rw [unchanged], by rw [unchanged]; rfl, fun operation => ⟨fun discovered => ?_,
    isDiscovered_of_accepted⟩⟩
  · rintro before operation after rfl
    obtain ⟨error, refusal⟩ := refused operation (List.mem_append_right _ List.mem_cons_self)
    have earlier := client.sessionAfter_of_refusals start
      fun operation member => refused operation (List.mem_append_left _ member)
    exact ⟨error, refusal, by rw [earlier, run_of_refusal refusal]⟩
  · cases refusal : operation.refusal? with
    | none => rfl
    | some error =>
      rw [run_of_refusal refusal] at discovered
      cases discovered

/-- A deletion without a name is refused for that, and everything else for the kind. -/
theorem aggregate_asks_nothing_lists :
    let client : Client := {
      config := {}, router := .ofBase "https://c.example" ⟨.ofTable fun _ => none, "", none⟩ [] }
    let patch : ResourceOperation :=
      .execute { verb := .patch, kind := "List", payload := some (.raw []) } Except.ok
    let before : List ResourceOperation := [
      .get { kind := "List", name := some "x" }, .delete { kind := "List" },
      .watchChannel { kind := "List", version := some "v1" } none]
    let after : List ResourceOperation := [
      .update ((Resource.ofType "v1" "List").setName "x") (some "ns1"), .list { kind := "List" }]
    (∀ operation ∈ before ++ patch :: after, operation.kind? = some "List") ∧
      (∃ error, patch.refusal? = some error ∧
        (patch.run client).run (client.sessionAfter before {}) = (.error error, {})) ∧
      (client.sessionAfter (before ++ patch :: after) {}).sent = [] ∧
      (client.sessionAfter (before ++ patch :: after) {}).isDiscovered = false ∧
      ((client.list { kind := "Pod" }).run {}).2.isDiscovered = true := by
  intro client patch before after
  have aggregate : ∀ operation ∈ before ++ patch :: after, operation.kind? = some "List" := by
    simp only [before, after, patch, List.cons_append, List.nil_append, List.forall_mem_cons,
      ResourceOperation.kind?, List.not_mem_nil, false_implies, implies_true, and_true, true_and]
    decide
  obtain ⟨refused, sent, undiscovered, discovered⟩ := aggregate_asks_nothing client aggregate
  exact ⟨aggregate, refused before patch after rfl, sent, undiscovered,
    (discovered (.list { kind := "Pod" })).mpr (by decide)⟩

end Client

end ClusterClient
