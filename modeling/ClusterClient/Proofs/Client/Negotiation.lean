import ClusterClient.Proofs.Capability.Standard
import ClusterClient.Proofs.Client.Destinations

namespace ClusterClient

namespace Client

/-- What a write of a resource is about. -/
def writeTarget (resource : Resource) (kind : String) (namespaceName name : Option String) : Target where
  identity := { writeIdentity resource kind namespaceName with name }

/-- The URL of a resource on an endpoint, as a write of the resource has it. -/
def writeUrl (client : Client) (catalog : Catalog) (resource : Resource) (kind : String)
    (namespaceName name : Option String) (endpoint : Endpoint) : String :=
  ((writeTarget resource kind namespaceName name).address client catalog endpoint).urlAt endpoint

end Client

namespace Operation

variable {client : Client} {start : Session} {catalog : Catalog} {resource : Resource}
  {namespaceName name : Option String} {kind text url : String} {operation : Operation}

theorem writing_of_kind (kinded : resource.kind? = some kind) (plain : kind ≠ Kind.aggregate)
    (verb : Verb) : Demand.writing verb resource namespaceName name = .ok {
      verb
      identity := Client.writeIdentity resource kind namespaceName
      name
      payload := some (.resource resource) } := by
  rw [Demand.writing, kinded]
  exact if_neg plain

theorem target?_create (kinded : resource.kind? = some kind) (plain : kind ≠ Kind.aggregate) :
    (create resource namespaceName).target? =
      some (Client.writeTarget resource kind namespaceName none) := by
  change (Demand.writing .create resource namespaceName none).toOption.map Demand.target = _
  rw [writing_of_kind kinded plain]
  rfl

theorem target?_update (kinded : resource.kind? = some kind) (plain : kind ≠ Kind.aggregate)
    (named : resource.name? = some text) :
    (update resource namespaceName).target? =
      some (Client.writeTarget resource kind namespaceName text) := by
  have demanded : Demand.updating resource namespaceName
      = Demand.writing .update resource namespaceName text := by
    simp only [Demand.updating, named]
  change (Demand.updating resource namespaceName).toOption.map Demand.target = _
  rw [demanded, writing_of_kind kinded plain]
  rfl

/-- A write gets as far as the endpoint that a registry of the resource is made for. -/
theorem reaches_iff_writeUrl (ran : (client.router.catalog.run start).1 = catalog)
    (kinded : resource.kind? = some kind) (other : operation.isSupports = false)
    (about : operation.target? = some (Client.writeTarget resource kind namespaceName name)) :
    operation.Reaches client start url ↔
      ∃ endpoint, resource.kind?.bind (catalog.resolve resource.apiVersion?) = some endpoint ∧
        url = client.writeUrl catalog resource kind namespaceName name endpoint := by
  have written : operation.HasUrl client catalog url ↔
      ∃ endpoint, catalog.resolve resource.apiVersion? kind = some endpoint ∧
        url = client.writeUrl catalog resource kind namespaceName name endpoint := by
    simp only [HasUrl, about, Option.some.injEq, exists_and_left, exists_eq_left']
    rfl
  rw [reaches_iff other, ran, written, kinded, Option.bind_some]

end Operation

namespace Client

/-- To make a registry is to know the catalog and the server's version from then on. -/
theorem registryOf_knows (client : Client) (session : Session) (resource : Resource) :
    let catalog := (client.router.catalog.run session).1
    ∃ version after, (client.router.registryOf resource).run session
        = (.ofFactories client.router.factories (.ofResource resource
            (resource.kind?.bind (catalog.resolve resource.apiVersion?)) version (some catalog)),
          after) ∧
      after.serverVersion = some version ∧ after.catalog = some catalog ∧ session.Grows after := by
  intro catalog
  let after := Operation.settled client session (.capabilitiesFor resource)
  have fits : after.snapshot.Fits after := after.snapshot_fits
  have found : catalog = after.snapshot.catalog := congrArg Prod.fst
    (Probe.catalog_run ((Probe.settle_grows client _ .version).fits fits))
  have known (probe : Probe) : probe.isKnown after = true := by
    refine (Probe.isKnown_foldl_settle client probe _ session).trans ?_
    cases probe <;> simp [Operation.needs]
  refine ⟨after.snapshot.serverVersion, after, ?_, Session.serverVersion_eq_snapshot (known .version),
    ?_, Probe.foldl_settle_grows client _ session⟩
  · rw [found]
    exact Operation.registryOf_run fits
  · rw [found]
    exact Session.catalog_eq_snapshot (known .catalog)

/-- With the rules of this library, the capabilities of a resource are negotiated for the endpoint
that a write of the resource goes to. They are what the context offers and nothing else, and what
goes through a sub-resource goes through one that the endpoint lists. -/
theorem registryOf_standard (client : Client) (session : Session) (resource : Resource)
    (standard : client.router.factories = Capability.Factory.standard) :
    let catalog := (client.router.catalog.run session).1
    let negotiated := (client.router.registryOf resource).run session
    let context := negotiated.1.context
    (∃ version, negotiated.2.serverVersion = some version ∧ negotiated.2.catalog = some catalog ∧
      session.Grows negotiated.2 ∧
      context = .ofResource resource (resource.kind?.bind (catalog.resolve resource.apiVersion?))
        version (some catalog)) ∧
    (∀ start kind, (client.router.catalog.run start).1 = catalog → resource.kind? = some kind →
      kind ≠ Kind.aggregate → ∀ namespaceName url,
        ((Operation.create resource namespaceName).Reaches client start url ↔
          ∃ endpoint, context.endpoint = some endpoint ∧
            url = client.writeUrl catalog resource kind namespaceName none endpoint) ∧
        ∀ name, resource.name? = some name →
          ((Operation.update resource namespaceName).Reaches client start url ↔
            ∃ endpoint, context.endpoint = some endpoint ∧
              url = client.writeUrl catalog resource kind namespaceName name endpoint)) ∧
    (∀ kind capability, (negotiated.1.get? kind).1 = some capability ↔
      capability.kind = kind ∧ context.Offers capability) ∧
    (∀ kind capability subresource, (negotiated.1.get? kind).1 = some capability →
      capability.subresource? = some subresource → context.Lists subresource) ∧
    ((∀ fields, resource.metadata? "annotations" = some (.object fields) →
        (fields.map (·.1)).Nodup) →
      ∀ name, context.annotations.lookup name = resource.annotation? name) := by
  intro catalog negotiated context
  obtain ⟨version, after, ran, versionKnown, catalogKnown, grows⟩ :=
    client.registryOf_knows session resource
  have negotiates : negotiated = _ := ran
  have registered : context = _ := congrArg (·.1.context) ran
  have held {kind : CapabilityKind} {capability : Capability} :
      (negotiated.1.get? kind).1 = some capability ↔
        capability.kind = kind ∧ context.Offers capability := by
    rw [registered, negotiates, standard]
    exact Capability.get?_standard
  have annotated : context.annotations = resource.annotations := by rw [registered]; rfl
  have owner : context.endpoint = resource.kind?.bind (catalog.resolve resource.apiVersion?) := by
    rw [registered]
    rfl
  refine ⟨⟨version, ?_, ?_, ?_, registered⟩, fun start kind finds kinded plain namespaceName url => ⟨?_, ?_⟩,
    fun kind capability => held, ?_, fun distinct name => ?_⟩
  · rw [negotiates]
    exact versionKnown
  · rw [negotiates]
    exact catalogKnown
  · rw [negotiates]
    exact grows
  · rw [owner]
    exact Operation.reaches_iff_writeUrl finds kinded rfl (Operation.target?_create kinded plain)
  · intro name named
    rw [owner]
    exact Operation.reaches_iff_writeUrl finds kinded rfl
      (Operation.target?_update kinded plain named)
  · intro kind capability subresource holds through
    exact (held.mp holds).2.lists through
  · rw [annotated]
    exact Resource.lookup_annotations distinct name

def standardClient : Client :=
  { podClient with router := { podClient.router with factories := Capability.Factory.standard } }

/-- A session that knows deployments which can be scaled, on a server that is too old to start them
again by itself. -/
def oldDeploymentSession : Session :=
  .pinned (Catalog.addListing {} ⟨"apis", some "apps.openshift.io", "v1"⟩ { resources := [
    { name := "deploymentconfigs", kind := "DeploymentConfig", namespaced := true, verbs := ["create"] },
    { name := "deploymentconfigs/scale", kind := "Scale", namespaced := true, verbs := ["get"] }] })
    (some (.ofNumbers 1 4))

theorem registryOf_standard_deployments :
    let annotations : Json.Fields := [("openshift.io/generated-by", .text "ui")]
    let resource : Resource := ⟨[("apiVersion", .text "apps.openshift.io/v1"),
      ("kind", .text "DeploymentConfig"), ("metadata", .object [("annotations", .object annotations),
        ("name", .text "web")])]⟩
    let registry := ((standardClient.router.registryOf resource).run oldDeploymentSession).1
    ((Operation.create resource none).Reaches standardClient oldDeploymentSession
      "https://c.example/apis/apps.openshift.io/v1/namespaces/default/deploymentconfigs") ∧
    ((Operation.update resource none).Reaches standardClient oldDeploymentSession
      "https://c.example/apis/apps.openshift.io/v1/namespaces/default/deploymentconfigs/web") ∧
    registry.kinds.1 = [.scale, .deploymentTrigger, .traceability] ∧
    registry.context.Offers (.deploymentTrigger .latestVersionBump) ∧
    registry.context.Lists "scale" ∧
    registry.context.annotations.lookup "openshift.io/generated-by" = some "ui" := by
  intro annotations resource registry
  obtain ⟨-, writes, held, lists, texts⟩ :=
    registryOf_standard standardClient oldDeploymentSession resource rfl
  have written := writes oldDeploymentSession "DeploymentConfig" rfl (by decide) (by decide) none
  have endpoint : registry.context.endpoint = some ⟨"apis", some "apps.openshift.io", "v1",
      "deploymentconfigs", "DeploymentConfig", true, ["create"], ["scale"]⟩ := by decide +kernel
  refine ⟨?_, ?_, by decide +kernel, ?_, ?_, ?_⟩
  · exact (written _).1.mpr ⟨_, endpoint, by decide +kernel⟩
  · exact ((written _).2 "web" (by decide)).mpr ⟨_, endpoint, by decide +kernel⟩
  · exact ((held .deploymentTrigger _).mp (by decide +kernel)).2
  · exact lists .scale (.subresource .scale "scale") "scale" (by decide +kernel) rfl
  · refine (texts (fun fields same => ?_) _).trans (by decide)
    cases same
    decide

end Client

end ClusterClient
