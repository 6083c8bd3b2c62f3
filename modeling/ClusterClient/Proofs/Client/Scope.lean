import ClusterClient.Proofs.Address.Scope
import ClusterClient.Proofs.Client.Destinations

namespace ClusterClient

namespace Client

variable {client : Client} {catalog : Catalog} {identity : Identity} {endpoint : Endpoint}

theorem namespaceIn_default (unplaced : identity.namespaceName = none)
    (resolved : catalog.resolve identity.version identity.kind = some endpoint) :
    client.namespaceIn catalog identity =
      if endpoint.namespaced ∧ ¬ (identity.kind = "Project" ∨ identity.kind = "Namespace") then
        some client.config.effectiveNamespace
      else none := by
  have root : Kind.isNamespaceRoot identity.kind = true ↔
      identity.kind = "Project" ∨ identity.kind = "Namespace" := by simp [Kind.isNamespaceRoot]
  simp only [namespaceIn, unplaced, resolved, Option.bind_some, root]
  by_cases rooted : identity.kind = "Project" ∨ identity.kind = "Namespace" <;> simp [rooted]

end Client

namespace Operation

variable {client : Client} {catalog : Catalog} {session : Session} {operation : Operation}
  {target : Target} {endpoint : Endpoint}

theorem hasUrl_iff {url : String} (about : operation.target? = some target)
    (resolved : catalog.resolve target.identity.version target.identity.kind = some endpoint) :
    operation.HasUrl client catalog url ↔
      url = (target.address client catalog endpoint).urlAt endpoint := by
  simp [HasUrl, about, resolved]

theorem scopedNamespace_default (unplaced : target.identity.namespaceName = none)
    (written : client.config.effectiveNamespace ≠ "")
    (resolved : catalog.resolve target.identity.version target.identity.kind = some endpoint) :
    (target.address client catalog endpoint).scopedNamespace endpoint =
      if (endpoint.namespaced ∧ endpoint.kind ≠ "Project" ∧ endpoint.kind ≠ "Namespace") ∧
          ¬ (target.identity.kind = "Project" ∨ target.identity.kind = "Namespace") then
        some client.config.effectiveNamespace
      else none := by
  have place := client.namespaceIn_default unplaced resolved
  -- The address goes by the kind of the endpoint, the client by the kind as it is written.
  rw [Address.scopedNamespace_eq, Target.address, place]
  by_cases root : target.identity.kind = "Project" ∨ target.identity.kind = "Namespace"
  · simp [root]
  · by_cases namespaced : endpoint.namespaced
    · simp [root, namespaced, Address.given_eq_some written]
    · simp [namespaced]

/-- Without a namespace of its own an operation is in the configured one exactly if its endpoint has
namespaces, unless the kind that is asked for is written as one that holds namespaces: then it is in
none. So the rule of the endpoint alone decides for all but these. -/
theorem default_namespace_iff (about : operation.target? = some target)
    (unplaced : target.identity.namespaceName = none)
    (written : client.config.effectiveNamespace ≠ "")
    (resolved : (client.router.catalog.run session).1.resolve target.identity.version
      target.identity.kind = some endpoint) :
    let inNamespace := endpoint.namespaced ∧ endpoint.kind ≠ "Project" ∧ endpoint.kind ≠ "Namespace"
    let root := target.identity.kind = "Project" ∨ target.identity.kind = "Namespace"
    let text := (target.address client (client.router.catalog.run session).1 endpoint).textIn endpoint
    ∃ url, (∀ other, operation.Reaches client session other ↔ other = url) ∧
      ((url = text (some client.config.effectiveNamespace) ↔ inNamespace) ∧
        (¬ inNamespace → url = text none) ↔ ¬ (inNamespace ∧ root)) ∧
      (inNamespace ∧ root → url = text none) := by
  intro inNamespace root text
  have apart : Function.Injective text := Address.textIn_injective _ endpoint
  have plain : operation.isSupports = false := by
    cases operation with
    | supports => cases about
    | _ => rfl
  refine ⟨text (if inNamespace ∧ ¬ root then some client.config.effectiveNamespace else none),
    fun other => ?_, ?_, ?_⟩
  · rw [reaches_iff plain, hasUrl_iff about resolved, Address.urlAt_eq_textIn,
      scopedNamespace_default unplaced written resolved]
  · -- The text tells the namespace from none, so the rule breaks where the two go apart.
    by_cases inside : inNamespace
    · by_cases rooted : root
      · simp [inside, rooted, apart.eq_iff]
      · simp [inside, rooted]
    · simp [inside, apart.eq_iff]
  · rintro ⟨inside, rooted⟩
    simp [rooted]

/-- A session that knows a collection of tenants under the plural of namespaces. -/
def tenantSession : Session := .pinned (Catalog.addListing {} ⟨"apis", some "tenancy.example", "v1"⟩ {
  resources := [{ name := "namespaces", kind := "Tenant", namespaced := true, verbs := ["list"] }] })
  none

theorem default_namespace_iff_tenants :
    let list : Operation := .list { kind := "Tenant" }
    let target : Target := { identity := { kind := "Tenant" } }
    let endpoint : Endpoint :=
      ⟨"apis", some "tenancy.example", "v1", "namespaces", "Tenant", true, ["list"], []⟩
    list.target? = some target ∧ target.identity.namespaceName = none ∧
      Client.podClient.config.effectiveNamespace ≠ "" ∧
      (Client.podClient.router.catalog.run tenantSession).1.resolve none "Tenant" = some endpoint ∧
      list.Reaches Client.podClient tenantSession
        "https://c.example/apis/tenancy.example/v1/namespaces/default/namespaces" := by
  intro list target endpoint
  have written : Client.podClient.config.effectiveNamespace ≠ "" := by decide
  have resolved : (Client.podClient.router.catalog.run tenantSession).1.resolve none "Tenant"
      = some endpoint := by decide +kernel
  have about : list.target? = some target := rfl
  obtain ⟨url, reached, rule, -⟩ := default_namespace_iff about rfl written resolved
  refine ⟨rfl, rfl, written, resolved, ?_⟩
  have ruled := rule.mpr (by decide)
  rw [reached, ruled.1.mpr (by decide)]
  decide +kernel

/-- The tenants are watched in the configured namespace if they are asked for by their kind, and in
all namespaces if they are asked for by the kind that their plural is usual for, though a namespace
that is asked for is heeded then too. They are listed likewise. -/
theorem watch_tenants_of_all_namespaces :
    let catalog := (Client.podClient.router.catalog.run tenantSession).1
    let watched (identity : Identity) :=
      ((Client.podClient.watchUrl identity none).run tenantSession).1.toOption
    catalog.resolve none "Namespace" = catalog.resolve none "Tenant" ∧
      (catalog.resolve none "Namespace").map (fun endpoint => (endpoint.namespaced, endpoint.kind))
        = some (true, "Tenant") ∧
      Client.podClient.config.effectiveNamespace = "default" ∧
      watched { kind := "Tenant" } =
        some "https://c.example/apis/tenancy.example/v1/watch/namespaces/default/namespaces" ∧
      watched { kind := "Namespace", namespaceName := "other" } =
        some "https://c.example/apis/tenancy.example/v1/watch/namespaces/other/namespaces" ∧
      watched { kind := "Namespace" } =
        some "https://c.example/apis/tenancy.example/v1/watch/namespaces" ∧
      ((Client.podClient.list { kind := "Namespace" }).run tenantSession).2.sent.map (·.url) =
        ["https://c.example/apis/tenancy.example/v1/namespaces"] := by
  decide +kernel

end Operation

end ClusterClient
