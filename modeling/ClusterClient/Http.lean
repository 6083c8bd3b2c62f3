import ClusterClient.Error
import ClusterClient.Json.Reader
import ClusterClient.Json.Record
import ClusterClient.Url

namespace ClusterClient

inductive Http.Method where
  | get
  | post
  | put
  | patch
  | delete
  deriving DecidableEq, Repr

def Http.Method.name : Http.Method → String
  | get => "GET"
  | post => "POST"
  | put => "PUT"
  | patch => "PATCH"
  | delete => "DELETE"

/-- A request as it leaves the client. -/
structure Http.Request where
  method : Http.Method
  /-- The URL that was asked for. -/
  url : String
  /-- The path and query that the request names. -/
  target : String
  accept : String
  userAgent : String
  authorization : Option String
  contentType : Option String
  body : Option (List UInt8)
  deriving DecidableEq, Repr

structure Http.Response where
  status : Nat
  body : String
  deriving DecidableEq, Repr

/-- Codes from 200 to 299 are successes. -/
def Http.isSuccess (status : Nat) : Bool := 200 ≤ status && status < 300

/-- The other end of the wire. -/
structure Server where
  /-- Whether a request to a URL arrives at all. -/
  receives : Url → Bool
  /-- The answer to a request after some others. There is none if the connection is dropped. -/
  answer : List Http.Request → Http.Request → Option Http.Response

/-- A server that no request arrives at. -/
def Server.unreachable : Server where
  receives _ := false
  answer _ _ := none

/-- A state in which the requests sent so far are kept. -/
abbrev Wire := StateM (List Http.Request)

/-- How a client sends requests. -/
structure Transport where
  server : Server
  userAgent : String
  token : Option String
  [names : HostNames]

namespace Transport

/-- Whether a text can stand in a header. -/
def isHeaderText (text : String) : Bool :=
  text.toList.all fun c => c == '\t' || (0x20 ≤ c.toNat && c.toNat != 0x7F)

/-- The transport of a client with a name for itself. -/
def ofUserAgent [HostNames] (server : Server) (userAgent : String) (token : Option String) :
    Except Error Transport :=
  if isHeaderText userAgent then .ok { server, userAgent, token }
  else .error (.configuration .invalidUserAgent)

/-- The request to send, and where; none if the token fits no header or the URL names no server. -/
def request? (transport : Transport) (method : Http.Method) (url : String)
    (body : Option (List UInt8)) : Option (Url × Http.Request) := do
  if !(transport.token.getD "" |> isHeaderText) then none
  let destination ← @Url.ofText? transport.names url
  some (destination, {
    method
    url
    target := destination.target
    accept := "application/json"
    userAgent := transport.userAgent
    authorization := transport.token.map ("Bearer " ++ ·)
    contentType := body.map fun _ => "application/json"
    body })

/-- Send a request once. There may be no response. -/
def send (transport : Transport) (method : Http.Method) (url : String)
    (body : Option (List UInt8)) : Wire (Option Http.Response) := do
  match transport.request? method url body with
  | none => return none
  | some (destination, request) =>
    let earlier ← get
    set (earlier ++ [request])
    if transport.server.receives destination then return transport.server.answer earlier request
    else return none

/-- The outcome of a request whose response is text. -/
def outcome (url : String) : Option Http.Response → Except Error String
  | none => .error (.transport url)
  | some response =>
    if Http.isSuccess response.status then .ok response.body
    else .error (Error.ofResponse url response.status response.body)

/-- Get a document and read it. -/
def fetch {α : Type} (transport : Transport) (read : Json.Tree → Option α) (url : String) :
    Wire (Except Error α) := do
  let response ← transport.send .get url none
  return (outcome url response).bind fun body =>
    match (Json.Tree.ofText? body).bind read with
    | some value => .ok value
    | none => .error .materialization

end Transport

end ClusterClient
