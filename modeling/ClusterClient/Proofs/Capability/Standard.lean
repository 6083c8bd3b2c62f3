import ClusterClient.Proofs.Capability.Precedence

namespace ClusterClient

theorem Json.Fields.lookup_texts {fields : Json.Fields} (distinct : (fields.map (·.1)).Nodup)
    (name : String) :
    (fields.filterMap fun field => field.2.text?.map (field.1, ·)).lookup name
      = (fields.get? name).bind (·.text?) := by
  induction fields with
  | nil => rfl
  | cons field rest ih =>
    obtain ⟨other, value⟩ := field
    rw [List.map_cons, List.nodup_cons] at distinct
    obtain ⟨fresh, distinct⟩ := distinct
    have below := ih distinct
    rw [get?_cons, List.filterMap_cons]
    by_cases same : name = other
    · subst same
      -- The name does not come again, so what is no text hides nothing.
      have once : get? rest name = none := by
        rw [get?, List.lookup_eq_none_iff]
        intro field member
        simpa using fun same : name = field.1 => fresh (List.mem_map.mpr ⟨field, member, same.symm⟩)
      rw [once] at below
      cases text : value.text? with
      | none => simpa [text] using below
      | some text' => simp [text]
    · have unequal : (name == other) = false := by simpa using same
      rw [if_neg same, ← below]
      cases text : value.text? with
      | none => simp
      | some text' => simp [List.lookup_cons, unequal]

namespace Resource

/-- An annotation, if it is a text. -/
def annotation? (resource : Resource) (name : String) : Option String :=
  ((resource.metadata? "annotations").bind (·.field? name)).bind (·.text?)

theorem lookup_annotations {resource : Resource}
    (distinct : ∀ fields, resource.metadata? "annotations" = some (.object fields) →
      (fields.map (·.1)).Nodup) (name : String) :
    resource.annotations.lookup name = resource.annotation? name := by
  rw [annotations, annotation?]
  cases written : resource.metadata? "annotations" with
  | none => rfl
  | some value =>
    cases value with
    | object fields => exact Json.Fields.lookup_texts (distinct fields written) name
    | _ => rfl

end Resource

namespace ServerVersion

/-- The numbers of a version are known, and below those of another. -/
def IsBefore (version : ServerVersion) (major minor : Nat) : Prop :=
  ∃ ownMajor ownMinor, version.numbers? = some (ownMajor, ownMinor) ∧
    (ownMajor < major ∨ ownMajor = major ∧ ownMinor < minor)

theorem isBefore_iff {version : ServerVersion} {major minor : Nat} :
    version.IsBefore major minor ↔
      version.numbers?.isSome = true ∧ version.atLeast major minor = false := by
  unfold IsBefore atLeast
  cases version.numbers? with
  | none => simp
  | some numbers =>
    obtain ⟨ownMajor, ownMinor⟩ := numbers
    simp only [Option.some.injEq, Prod.mk.injEq, Option.isSome_some, true_and, Bool.or_eq_false_iff,
      decide_eq_false_iff_not, Bool.and_eq_false_iff, beq_eq_false_iff_ne]
    constructor
    · rintro ⟨_, _, ⟨rfl, rfl⟩, below⟩
      omega
    · intro below
      exact ⟨ownMajor, ownMinor, ⟨rfl, rfl⟩, by omega⟩

end ServerVersion

namespace Capability

namespace Context

/-- The owner has an endpoint, and discovery listed a sub-resource for it. -/
def Lists (context : Context) (subresource : String) : Prop :=
  ∃ endpoint, context.endpoint = some endpoint ∧ subresource ∈ endpoint.capabilities

theorem lists_iff {context : Context} {subresource : String} :
    context.lists subresource = true ↔ context.Lists subresource := by
  simp [lists, Lists, Endpoint.isSupported, Option.any_eq_true]

/-- The capabilities that there are for an owner, each with what has to be there for it. -/
inductive Offers (context : Context) : Capability → Prop where
  | podLogs (owner : context.kind = some "Pod" ∨ context.kind = some "BuildConfig")
      (listed : context.Lists "log") : Offers context (.subresource .podLogs "log")
  | podExec (owner : context.kind = some "Pod") (listed : context.Lists "exec") :
      Offers context (.subresource .podExec "exec")
  | portForward (owner : context.kind = some "Pod") (listed : context.Lists "portforward") :
      Offers context (.subresource .portForward "portforward")
  | scale (listed : context.Lists "scale") : Offers context (.subresource .scale "scale")
  | buildTrigger (owner : context.kind = some "BuildConfig") (listed : context.Lists "instantiate") :
      Offers context (.subresource .buildTrigger "instantiate")
  | binaryBuild (owner : context.kind = some "BuildConfig")
      (listed : context.Lists "instantiatebinary") :
      Offers context (.subresource .binaryBuild "instantiatebinary")
  | deploymentInstantiate (owner : context.kind = some "DeploymentConfig")
      (listed : context.Lists "instantiate") : Offers context (.deploymentTrigger .instantiate)
  | deploymentBump (owner : context.kind = some "DeploymentConfig")
      (unlisted : ¬ context.Lists "instantiate") (version : ServerVersion)
      (known : context.serverVersion = some version) (old : version.IsBefore 1 5) :
      Offers context (.deploymentTrigger .latestVersionBump)
  | projectRequest (catalog : Catalog) (endpoint : Endpoint) (known : context.catalog = some catalog)
      (resolved : catalog.resolve none "ProjectRequest" = some endpoint) :
      Offers context (.projectRequest endpoint.apiVersion)
  | traceability
      (annotated : (context.annotations.lookup "openshift.io/generated-by").isSome ∨
        (context.annotations.lookup "openshift.io/template.name").isSome) :
      Offers context (.traceability (context.annotations.lookup "openshift.io/generated-by")
        (context.annotations.lookup "openshift.io/template.name"))

variable {context : Context} {capability other : Capability}

theorem Offers.lists {subresource : String} (offered : context.Offers capability)
    (through : capability.subresource? = some subresource) : context.Lists subresource := by
  cases offered <;> cases through <;> assumption

/-- There is at most one capability of a kind. -/
theorem Offers.unique (first : context.Offers capability) (second : context.Offers other)
    (same : capability.kind = other.kind) : capability = other := by
  cases first <;> cases second <;> try (first | rfl | cases same)
  case deploymentInstantiate.deploymentBump listed _ unlisted _ _ _ => exact absurd listed unlisted
  case deploymentBump.deploymentInstantiate unlisted _ _ _ _ listed => exact absurd listed unlisted
  case projectRequest.projectRequest catalog endpoint known resolved catalog' endpoint' known' resolved' =>
    cases known.symm.trans known'
    rw [Option.some.inj (resolved.symm.trans resolved')]

end Context

namespace Factory

variable {context : Context} {capability : Capability}

theorem predatesInstantiate_iff {version : ServerVersion} :
    predatesInstantiate version = true ↔ version.IsBefore 1 5 := by
  rw [predatesInstantiate, Bool.and_eq_true, Bool.not_eq_true', ServerVersion.isBefore_iff]

theorem ofSubresource_create {kind : CapabilityKind} {name : String} {owner : Option String} :
    (ofSubresource kind name owner).create context = some capability ↔
      (owner = none ∨ context.kind = owner) ∧ context.Lists name ∧
        .subresource kind name = capability := by
  simp [ofSubresource, Context.lists_iff, and_assoc]

theorem ofDeploymentTrigger_create : ofDeploymentTrigger.create context = some capability ↔
    context.kind = some "DeploymentConfig" ∧
      (context.Lists "instantiate" ∧ .deploymentTrigger .instantiate = capability ∨
        ¬ context.Lists "instantiate" ∧
          (∃ version, context.serverVersion = some version ∧ version.IsBefore 1 5) ∧
          .deploymentTrigger .latestVersionBump = capability) := by
  have old : context.serverVersion.any predatesInstantiate = true ↔
      ∃ version, context.serverVersion = some version ∧ version.IsBefore 1 5 := by
    simp [Option.any_eq_true, predatesInstantiate_iff]
  by_cases owner : context.kind = some "DeploymentConfig"
  · by_cases listed : context.Lists "instantiate"
    · simp [ofDeploymentTrigger, Context.lists_iff, owner, listed]
    · simp [ofDeploymentTrigger, Context.lists_iff, old, owner, listed]
  · simp [ofDeploymentTrigger, owner]

theorem ofProjectRequest_create : ofProjectRequest.create context = some capability ↔
    ∃ catalog endpoint, context.catalog = some catalog ∧
      catalog.resolve none "ProjectRequest" = some endpoint ∧
      .projectRequest endpoint.apiVersion = capability := by
  simp [ofProjectRequest, Option.bind_eq_some_iff]

theorem ofTraceability_create : ofTraceability.create context = some capability ↔
    ((context.annotations.lookup "openshift.io/generated-by").isSome ∨
      (context.annotations.lookup "openshift.io/template.name").isSome) ∧
    .traceability (context.annotations.lookup "openshift.io/generated-by")
      (context.annotations.lookup "openshift.io/template.name") = capability := by
  simp only [ofTraceability]
  generalize context.annotations.lookup "openshift.io/generated-by" = generatedBy
  generalize context.annotations.lookup "openshift.io/template.name" = template
  cases generatedBy <;> cases template <;> simp

theorem isHonest_ofSubresource (kind : CapabilityKind) (name : String) (owner : Option String) :
    (ofSubresource kind name owner).IsHonest := by
  intro context capability created
  obtain ⟨-, -, rfl⟩ := ofSubresource_create.mp created
  rfl

theorem isHonest_ofDeploymentTrigger : ofDeploymentTrigger.IsHonest := by
  intro context capability created
  obtain ⟨-, ⟨-, rfl⟩ | ⟨-, -, rfl⟩⟩ := ofDeploymentTrigger_create.mp created <;> rfl

theorem isHonest_ofProjectRequest : ofProjectRequest.IsHonest := by
  intro context capability created
  obtain ⟨catalog, endpoint, -, -, rfl⟩ := ofProjectRequest_create.mp created
  rfl

theorem isHonest_ofTraceability : ofTraceability.IsHonest := by
  intro context capability created
  obtain ⟨-, rfl⟩ := ofTraceability_create.mp created
  rfl

theorem isHonest_standard : ∀ factory ∈ standard, factory.IsHonest := by
  simp [standard, isHonest_ofSubresource, isHonest_ofDeploymentTrigger, isHonest_ofProjectRequest,
    isHonest_ofTraceability]

/-- Between them the rules of this library create what the context offers. -/
theorem exists_standard_create_iff :
    (∃ factory ∈ standard, factory.create context = some capability) ↔ context.Offers capability := by
  simp only [standard, List.exists_mem_cons_iff, ofSubresource_create, ofDeploymentTrigger_create,
    ofProjectRequest_create, ofTraceability_create, reduceCtorEq, false_or, true_or, true_and,
    List.not_mem_nil, false_and, exists_false, or_false]
  constructor
  · rintro (⟨owner, listed, rfl⟩ | ⟨owner, listed, rfl⟩ | ⟨owner, listed, rfl⟩ | ⟨owner, listed, rfl⟩ |
      ⟨listed, rfl⟩ | ⟨owner, listed, rfl⟩ | ⟨owner, listed, rfl⟩ |
      ⟨owner, ⟨listed, rfl⟩ | ⟨unlisted, ⟨version, known, old⟩, rfl⟩⟩ |
      ⟨catalog, endpoint, known, resolved, rfl⟩ | ⟨annotated, rfl⟩)
    · exact .podLogs (.inl owner) listed
    · exact .podLogs (.inr owner) listed
    · exact .podExec owner listed
    · exact .portForward owner listed
    · exact .scale listed
    · exact .buildTrigger owner listed
    · exact .binaryBuild owner listed
    · exact .deploymentInstantiate owner listed
    · exact .deploymentBump owner unlisted version known old
    · exact .projectRequest catalog endpoint known resolved
    · exact .traceability annotated
  · intro offered
    cases offered with
    | podLogs owner listed => rcases owner with owner | owner <;> simp [owner, listed]
    | podExec owner listed => simp [owner, listed]
    | portForward owner listed => simp [owner, listed]
    | scale listed => simp [listed]
    | buildTrigger owner listed => simp [owner, listed]
    | binaryBuild owner listed => simp [owner, listed]
    | deploymentInstantiate owner listed => simp [owner, listed]
    | deploymentBump owner unlisted version known old => simp [owner, unlisted, known, old]
    | projectRequest catalog endpoint known resolved => simp [known, resolved]
    | traceability annotated =>
      simp only [reduceCtorEq, and_false, exists_false, or_self, false_or]
      exact ⟨annotated, trivial⟩

end Factory

/-- The registry of the rules of this library holds what the context offers, and nothing else. -/
theorem get?_standard {context : Context} {kind : CapabilityKind} {capability : Capability} :
    ((Registry.ofFactories Factory.standard context).get? kind).1 = some capability ↔
      capability.kind = kind ∧ context.Offers capability := by
  have agree : KindsAgree context Factory.standard :=
    kindsAgree_of_isHonest Factory.isHonest_standard
  rw [(firstWins_of_kindsAgree agree).held]
  constructor
  · intro first
    obtain ⟨factory, member, created, same⟩ := exists_of_firstOf first
    exact ⟨same, Factory.exists_standard_create_iff.mp ⟨factory, member, created⟩⟩
  · rintro ⟨rfl, offered⟩
    obtain ⟨factory, member, created⟩ := Factory.exists_standard_create_iff.mpr offered
    -- Some capability of the kind is returned first, and there is only the one.
    obtain ⟨first, found⟩ := Option.ne_none_iff_exists'.mp
      (firstOf_ne_none_iff.mpr ⟨factory, member, capability, created, rfl⟩)
    obtain ⟨other, member', created', same⟩ := exists_of_firstOf found
    have offered' := Factory.exists_standard_create_iff.mp ⟨other, member', created'⟩
    rw [found, offered'.unique offered same]

end Capability

end ClusterClient
