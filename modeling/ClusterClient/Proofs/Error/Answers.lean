import ClusterClient.Proofs.Error.Bodies
import Mathlib

namespace ClusterClient

/-- The status in a body, if it says anything beside a code. -/
def Status.told? (body : String) : Option Status :=
  ((Json.Tree.ofText? body).bind ofTree?).filter (·.isTelling)

theorem Status.told?_eq_some_iff {body : String} {status : Status} :
    told? body = some status ↔ (Json.Tree.ofText? body).bind ofTree? = some status ∧
      (status.message ≠ "" ∨ status.reason ≠ "") := by
  rw [told?, Option.filter_eq_some_iff]
  simp [isTelling]

/-- A body that tells a status gives that status, with the answer's code in place of a missing one;
any other body is the message itself. -/
theorem Status.ofBody_eq (code : Nat) (body : String) :
    ofBody code body = match told? body with
      | some status => { status with code := if status.code = 0 then code else status.code }
      | none => { code, message := body } := by
  rw [ofBody, told?]
  cases (Json.Tree.ofText? body).bind ofTree? with
  | none => rfl
  | some status =>
    dsimp only
    cases telling : status.isTelling <;> simp [Option.filter, telling]

namespace Error

/-- What the server says in its answer. -/
def serverMessage? : Error → Option String
  | unauthorized _ message => some message
  | forbidden _ message => some message
  | serverRejection _ status => some status.message
  | _ => none

section Kinds

variable {url : String} {code : Nat} {body : String}

theorem ofResponse_eq_unauthorized_iff :
    (∃ message, ofResponse url code body = unauthorized url message) ↔ code = 401 := by
  rw [ofResponse]
  by_cases decides : code = 401
  · simp [decides]
  · by_cases other : code = 403 <;> simp [decides, other]

theorem ofResponse_eq_forbidden_iff :
    (∃ message, ofResponse url code body = forbidden url message) ↔ code = 403 := by
  rw [ofResponse]
  by_cases other : code = 401
  · simp [other]
  · by_cases decides : code = 403 <;> simp [decides, other]

theorem ofResponse_eq_serverRejection_iff :
    (∃ status, ofResponse url code body = serverRejection url status) ↔
      code ≠ 401 ∧ code ≠ 403 := by
  rw [ofResponse]
  by_cases unauthorized : code = 401
  · simp [unauthorized]
  · by_cases forbidden : code = 403 <;> simp [unauthorized, forbidden]

end Kinds

/-- The code that an error reports is that of the answer for the two kinds which it decides, and
otherwise that of the status. -/
theorem statusCode?_ofResponse (url : String) (code : Nat) (body : String) :
    (ofResponse url code body).statusCode? = some (if code = 401 ∨ code = 403 then code
      else (Status.ofBody code body).code) := by
  rw [ofResponse]
  by_cases unauthorized : code = 401
  · simp [unauthorized, statusCode?]
  · by_cases forbidden : code = 403
    · simp [forbidden, statusCode?]
    · simp [unauthorized, forbidden, statusCode?]

theorem serverMessage?_ofResponse (url : String) (code : Nat) (body : String) :
    (ofResponse url code body).serverMessage? = some (Status.ofBody code body).message := by
  rw [ofResponse]
  split
  · rfl
  · split <;> rfl

/-- For every answer the code decides the kind of the error, and the message is that of the status
which the body tells, or else the body. The error reports the code, and so is that of a missing
object for 404 alone, unless the body tells a status with another code of its own. -/
theorem ofResponse_decided (url : String) (code : Nat) (body : String) :
    ((∃ message, ofResponse url code body = unauthorized url message) ↔ code = 401) ∧
    ((∃ message, ofResponse url code body = forbidden url message) ↔ code = 403) ∧
    ((∃ status, ofResponse url code body = serverRejection url status) ↔
      code ≠ 401 ∧ code ≠ 403) ∧
    (ofResponse url code body).serverMessage? =
      some ((Status.told? body).elim body (·.message)) ∧
    ((ofResponse url code body).statusCode? = some code ↔ code = 401 ∨ code = 403 ∨
      ∀ status, Status.told? body = some status → status.code = 0 ∨ status.code = code) ∧
    ((ofResponse url code body).isNotFound = true ↔ code ≠ 401 ∧ code ≠ 403 ∧
      match Status.told? body with
      | some status => if status.code = 0 then code = 404 else status.code = 404
      | none => code = 404) := by
  have reported := statusCode?_ofResponse url code body
  have told := serverMessage?_ofResponse url code body
  rw [Status.ofBody_eq] at reported told
  refine ⟨ofResponse_eq_unauthorized_iff, ofResponse_eq_forbidden_iff,
    ofResponse_eq_serverRejection_iff, ?_, ?_, ?_⟩
  · rw [told]
    cases Status.told? body <;> rfl
  · rw [reported]
    cases Status.told? body with
    | none => simp
    | some status => grind
  · rw [isNotFound, reported]
    cases Status.told? body with
    | none => grind
    | some status => grind

/-- A proxy's answer 502, which hands on the status of another server. -/
def forwardedBody : String := "\x7b\"code\":404,\"message\":\"no such route\"\x7d"

/-- The code in a body goes before the code of the answer. -/
theorem statusCode?_forwarded :
    Status.told? forwardedBody = some { code := 404, message := "no such route" } ∧
      (ofResponse "https://c.example/api/v1/pods" 502 forwardedBody).statusCode? = some 404 ∧
      (ofResponse "https://c.example/api/v1/pods" 502 forwardedBody).isNotFound = true := by
  have told : Status.told? forwardedBody = some { code := 404, message := "no such route" } := by
    cbv
  refine ⟨told, ?_, ?_⟩
  · rw [statusCode?_ofResponse, Status.ofBody_eq, told]
    rfl
  · rw [isNotFound, statusCode?_ofResponse, Status.ofBody_eq, told]
    rfl

end Error

end ClusterClient
