import ClusterClient.Address
import ClusterClient.Http
import ClusterClient.Json.Printer
import ClusterClient.Materializer

namespace ClusterClient

/-- What an operation does to a resource or a collection. -/
inductive Verb where
  | get
  | list
  | create
  | update
  | patch
  | delete
  deriving DecidableEq, Repr

namespace Verb

def name : Verb → String
  | get => "get"
  | list => "list"
  | create => "create"
  | update => "update"
  | patch => "patch"
  | delete => "delete"

def method : Verb → Http.Method
  | get => .get
  | list => .get
  | create => .post
  | update => .put
  | patch => .patch
  | delete => .delete

/-- A verb that only reads never has a body. -/
def isReadOnly : Verb → Bool
  | get => true
  | list => true
  | _ => false

end Verb

/-- What a request carries. -/
inductive Payload where
  | resource (object : Resource)
  | json (document : Json)
  | raw (content : List UInt8)
  deriving Repr

namespace Payload

/-- The version that a payload claims for itself. -/
def apiVersion? : Payload → Option String
  | .resource object => object.apiVersion?
  | .json document => (document.field? "apiVersion").bind (·.text?)
  | .raw _ => none

def bytes : Payload → List UInt8
  | .resource object => Text.utf8 object.toJson.compact
  | .json document => Text.utf8 document.compact
  | .raw content => content

end Payload

/-- One operation on a server, before its address is known. -/
structure Request where
  verb : Verb
  kind : String
  version : Option String := none
  namespaceName : Option String := none
  name : Option String := none
  subresource : Option String := none
  payload : Option Payload := none
  params : List (String × String) := []
  deriving Repr

/-- An operation whose address and body are known. -/
structure PreparedRequest where
  method : Http.Method
  url : String
  body : Option (List UInt8)
  endpoint : Endpoint
  deriving Repr

namespace Request

/-- The version to resolve: the one asked for, or else that of the payload. -/
def effectiveVersion (request : Request) : Option String :=
  request.version.or (request.payload.bind (·.apiVersion?))

def identity (request : Request) : Identity :=
  { kind := request.kind
    version := request.effectiveVersion
    namespaceName := request.namespaceName
    name := request.name
    subresource := request.subresource }

/-- What to send: nothing with a verb that only reads, the payload or an empty body otherwise. -/
def body (request : Request) : Option (List UInt8) :=
  if request.verb.isReadOnly then none else some (request.payload.elim [] Payload.bytes)

/-- The error of a request for the aggregate kind, which no server has. -/
def aggregateError (request : Request) : Error :=
  .unsupportedOperation request.verb.name request.kind

/-- Find the address of a request. -/
def prepare (base : String) (catalog : Catalog) (request : Request) :
    Except Error PreparedRequest :=
  if request.kind = Kind.aggregate then .error request.aggregateError
  else match catalog.resolve request.effectiveVersion request.kind with
    | none => .error (.unsupportedEndpoint request.kind request.effectiveVersion)
    | some endpoint =>
      let address := (((Address.ofBase base).setEndpoint endpoint).setIdentity
        request.identity).addParams request.params
      .ok {
        method := request.verb.method
        url := address.urlAt endpoint
        body := request.body
        endpoint }

end Request

end ClusterClient
