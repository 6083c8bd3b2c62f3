import ClusterClient.Json.Printer
import ClusterClient.Address
import ClusterClient.Materializer

namespace ClusterClient.Watch

inductive Change where
  | added
  | modified
  | deleted
  deriving DecidableEq, Repr

/-- What a message says it is: a change, or a failure of the watch. -/
inductive MessageType where
  | change (change : Change)
  | failure
  deriving DecidableEq, Repr

def MessageType.ofName? : String → Option MessageType
  | "ADDED" => some (.change .added)
  | "Added" => some (.change .added)
  | "MODIFIED" => some (.change .modified)
  | "Modified" => some (.change .modified)
  | "DELETED" => some (.change .deleted)
  | "Deleted" => some (.change .deleted)
  | "ERROR" => some .failure
  | "Error" => some .failure
  | _ => none

/-- A type is written as its name, or as an object whose only member is its name with null. -/
def MessageType.ofTree? : Json.Tree → Option MessageType
  | .text (some name) => ofName? name
  | .object [(some name, .null)] => ofName? name
  | _ => none

structure Message where
  type : MessageType
  object : Json

/-- A message document. Without an object it is about null. The object stands one level down. -/
def Message.ofText? (text : String) : Option Message := do
  match ← (← Json.Tree.ofText? text).record? ["type", "object"] with
  | [type, object] =>
    let type ← type.bind MessageType.ofTree?
    let object ← Json.Tree.readOr .null (·.document? (Json.depthLimit - 1)) object
    some { type, object }
  | _ => none

/-- A change of a resource. -/
structure Event where
  change : Change
  resource : Resource
  deriving Repr

/-- What a listener may hear. -/
inductive Notice where
  | connected
  | disconnected
  | event (event : Event)
  | failed (error : Error)
  deriving Repr

/-- A listener hears some notices and is deaf to others. -/
structure Listener where
  hears : Notice → Bool

namespace Listener

def attentive : Listener := ⟨fun _ => true⟩

/-- Hears of changes alone. -/
def ofEvents : Listener := ⟨fun notice => match notice with
  | .event _ => true
  | _ => false⟩

end Listener

/-- The address of a watch on a collection, which goes on where a list ended. -/
def address (base : String) (catalog : Catalog) (version : Option String) (kind : String)
    (namespaceName : Option String) (list : Option ResourceList) : Except Error String := do
  let unscoped := (← (Address.ofBase base).setKind catalog version kind).setWatch true
  let placed := namespaceName.elim unscoped fun name => unscoped.setNamespace name
  let cursor := (list.bind (·.resourceVersion)).toList.map (("resourceVersion", ·))
  (placed.addParams cursor).url

/-- One watch. The transport tells it what happens to the connection. -/
structure Channel where
  url : String
  materializer : Materializer
  isConnected : Bool := false

/-- What happens to a watch. -/
inductive Step where
  | connected
  /-- The connection ended, for a reason. -/
  | closed (code : Nat) (reason : String)
  | message (text : String)
  deriving DecidableEq, Repr

namespace Channel

/-- The error of a message that reports a failure. Its object says which, if it is a status. -/
def failure (url : String) (object : Json) : Error :=
  let status := (Status.ofTree? (.ofDocument object)).getD {}
  Error.ofResponse url status.code status.toJson.compact

/-- What a message tells. -/
def decode (channel : Channel) (text : String) : Except Error Event :=
  match Message.ofText? text with
  | none => .error .materialization
  | some ⟨.failure, object⟩ => .error (failure channel.url object)
  | some ⟨.change change, object⟩ =>
    (channel.materializer.materialize object).map fun resource => ⟨change, resource⟩

/-- Whether a connection that ends with a code has come to a regular end. -/
def isRegularEnd (code : Nat) : Bool := (200 ≤ code && code < 300) || code == 1000

/-- The channel after a step, and what is heard of the step. -/
def step (channel : Channel) : Step → Channel × List Notice
  | .connected => ({ channel with isConnected := true }, [.connected])
  | .closed code reason =>
    let failed : List Notice :=
      if isRegularEnd code then [] else [.failed (Error.ofResponse channel.url code reason)]
    let ended : List Notice := if channel.isConnected then [.disconnected] else []
    ({ channel with isConnected := false }, failed ++ ended)
  | .message text =>
    (channel, [match channel.decode text with
      | .ok event => .event event
      | .error error => .failed error])

/-- The notices of a run, step by step, and the channel after each step. -/
def run (channel : Channel) : List Step → List (Channel × List Notice)
  | [] => []
  | step :: rest =>
    let (next, notices) := channel.step step
    (next, notices) :: next.run rest

end Channel

end ClusterClient.Watch
