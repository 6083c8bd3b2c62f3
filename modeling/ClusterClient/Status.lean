import ClusterClient.Json.Reader
import ClusterClient.Json.Record

namespace ClusterClient

/-- What a server says about a request it did not carry out. -/
structure Status where
  code : Nat := 0
  message : String := ""
  reason : String := ""
  deriving DecidableEq, Repr

namespace Status

/-- A status document: code, message and reason, of which each may be missing. -/
def ofTree? (tree : Json.Tree) : Option Status := do
  match ← tree.record? ["code", "message", "reason"] with
  | [code, message, reason] =>
    let code ← Json.Tree.readOr 0 (Json.Tree.readNat 65536) code
    let message ← Json.Tree.readOr "" Json.Tree.readText message
    let reason ← Json.Tree.readOr "" Json.Tree.readText reason
    some { code, message, reason }
  | _ => none

/-- Whether a status says anything beside its code. -/
def isTelling (status : Status) : Bool :=
  status.message != "" || status.reason != ""

/-- The status of an answer: the one in its body, or else one whose message is the body. A code of
zero gives way to that of the answer. -/
def ofBody (code : Nat) (body : String) : Status :=
  match (Json.Tree.ofText? body).bind ofTree? with
  | some status =>
    if status.isTelling then { status with code := if status.code = 0 then code else status.code }
    else { code, message := body }
  | none => { code, message := body }

/-- The status as a document. -/
def toJson (status : Status) : Json :=
  .object [("code", .number (.integer status.code)), ("message", .text status.message),
    ("reason", .text status.reason)]

def text (status : Status) : String :=
  toString status.code ++ " " ++ status.message
    ++ (if status.reason = "" then "" else " (" ++ status.reason ++ ")")

end Status

end ClusterClient
