import ClusterClient.Catalog
import ClusterClient.Resource
import ClusterClient.ServerVersion

namespace ClusterClient

/-- The optional behaviours that a client negotiates. -/
inductive CapabilityKind where
  | podLogs
  | podExec
  | portForward
  | scale
  | buildTrigger
  | binaryBuild
  | deploymentTrigger
  | projectRequest
  | traceability
  deriving DecidableEq, Repr

/-- Every kind, in the order of declaration. -/
def CapabilityKind.all : List CapabilityKind :=
  [podLogs, podExec, portForward, scale, buildTrigger, binaryBuild, deploymentTrigger,
    projectRequest, traceability]

/-- How a deployment is started again. -/
inductive TriggerMode where
  /-- Through a sub-resource. -/
  | instantiate
  /-- By counting up the latest version in the object. -/
  | latestVersionBump
  deriving DecidableEq, Repr

/-- A negotiated behaviour. -/
inductive Capability where
  /-- Through a sub-resource of the owner's endpoint. -/
  | subresource (kind : CapabilityKind) (name : String)
  | deploymentTrigger (mode : TriggerMode)
  /-- Users may ask for projects of their own. -/
  | projectRequest (apiVersion : String)
  /-- The owner tells where it comes from. -/
  | traceability (generatedBy template : Option String)
  deriving DecidableEq, Repr

namespace Capability

def kind : Capability → CapabilityKind
  | subresource kind _ => kind
  | deploymentTrigger _ => .deploymentTrigger
  | projectRequest _ => .projectRequest
  | traceability _ _ => .traceability

/-- The sub-resource to address, if there is one. -/
def subresource? : Capability → Option String
  | subresource _ name => some name
  | deploymentTrigger .instantiate => some "instantiate"
  | _ => none

/-- What a factory may look at. -/
structure Context where
  /-- The owner's kind; a client as a whole has none. -/
  kind : Option String := none
  endpoint : Option Endpoint := none
  annotations : List (String × String) := []
  serverVersion : Option ServerVersion := none
  catalog : Option Catalog := none

namespace Context

def ofResource (resource : Resource) (endpoint : Option Endpoint)
    (serverVersion : Option ServerVersion) (catalog : Option Catalog) : Context :=
  { kind := resource.kind?
    endpoint
    annotations := resource.annotations
    serverVersion
    catalog }

/-- Whether the owner's endpoint lists a sub-resource. -/
def lists (context : Context) (subresource : String) : Bool :=
  context.endpoint.any (·.isSupported subresource)

end Context

/-- A rule that decides whether a behaviour applies. -/
structure Factory where
  /-- The kind that the rule is announced for. -/
  kind : CapabilityKind
  create : Context → Option Capability

namespace Factory

/-- Applies where the owner's endpoint lists a sub-resource; to one kind of owner only, if given. -/
def ofSubresource (kind : CapabilityKind) (name : String) (owner : Option String) : Factory where
  kind := kind
  create context :=
    if (owner.isNone || context.kind == owner) && context.lists name then
      some (.subresource kind name)
    else none

/-- Whether a server is too old to start deployments through a sub-resource. -/
def predatesInstantiate (version : ServerVersion) : Bool :=
  version.numbers?.isSome && !version.atLeast 1 5

def ofDeploymentTrigger : Factory where
  kind := .deploymentTrigger
  create context :=
    if context.kind != some "DeploymentConfig" then none
    else if context.lists "instantiate" then some (.deploymentTrigger .instantiate)
    else if context.serverVersion.any predatesInstantiate then
      some (.deploymentTrigger .latestVersionBump)
    else none

/-- Applies where the catalog serves project requests at any version. -/
def ofProjectRequest : Factory where
  kind := .projectRequest
  create context := do
    let endpoint ← (← context.catalog).resolve none "ProjectRequest"
    some (.projectRequest endpoint.apiVersion)

/-- Applies where one of the two annotations is there. -/
def ofTraceability : Factory where
  kind := .traceability
  create context :=
    let generatedBy := context.annotations.lookup "openshift.io/generated-by"
    let template := context.annotations.lookup "openshift.io/template.name"
    if generatedBy.isNone && template.isNone then none
    else some (.traceability generatedBy template)

/-- The rules of this library in the order in which they are tried. -/
def standard : List Factory := [
  ofSubresource .podLogs "log" (some "Pod"),
  ofSubresource .podLogs "log" (some "BuildConfig"),
  ofSubresource .podExec "exec" (some "Pod"),
  ofSubresource .portForward "portforward" (some "Pod"),
  ofSubresource .scale "scale" none,
  ofSubresource .buildTrigger "instantiate" (some "BuildConfig"),
  ofSubresource .binaryBuild "instantiatebinary" (some "BuildConfig"),
  ofDeploymentTrigger,
  ofProjectRequest,
  ofTraceability]

end Factory

end Capability

end ClusterClient
