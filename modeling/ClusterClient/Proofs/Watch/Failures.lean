import ClusterClient.Proofs.Error.Bodies
import ClusterClient.Proofs.Watch.Traces
import Mathlib

namespace ClusterClient.Watch

/-- A message that reports a failure with a status. -/
def Message.failing (status : Status) : Json :=
  .object [("object", status.toJson), ("type", .text "ERROR")]

variable {status : Status}

theorem Message.isIntegral_failing (fits : status.code < 65536) :
    (Message.failing status).IsIntegral := by
  refine .object (List.forall_mem_cons.mpr ⟨Status.isIntegral_toJson fits, ?_⟩)
  exact List.forall_mem_singleton.mpr (.text _)

/-- Every status can be told. -/
theorem Message.ofText?_failing (fits : status.code < 65536) :
    Message.ofText? (Message.failing status).compact = some ⟨.failure, status.toJson⟩ := by
  have recorded : (Json.Tree.ofDocument (failing status)).record? ["type", "object"] =
      some [some (.text (some "ERROR")), some (.ofDocument status.toJson)] := by rfl
  have object : (Json.Tree.ofDocument status.toJson).document? (Json.depthLimit - 1) =
      some status.toJson := status.document?_toJson 125
  rw [Message.ofText?, (isIntegral_failing fits).ofText?_compact, Option.bind_eq_bind,
    Option.bind_some, Option.bind_eq_bind, recorded, Option.bind_some]
  dsimp only [Json.Tree.readOr]
  rw [object]
  rfl

namespace Channel

/-- A failure that a message reports is heard once, and as what its status says: nothing of the
status is lost when it is written down as a body and read again. Every status may be reported. -/
theorem step_failure (channel : Channel) :
    (∀ text object status, Message.ofText? text = some ⟨.failure, object⟩ →
      Status.ofTree? (.ofDocument object) = some status →
      status.message ≠ "" ∨ status.reason ≠ "" →
      (Json.Tree.ofText? status.toJson.compact).bind Status.ofTree? = some status ∧
      channel.step (.message text) = (channel, [.failed (
        if status.code = 401 then .unauthorized channel.url status.message
        else if status.code = 403 then .forbidden channel.url status.message
        else .serverRejection channel.url status)])) ∧
    ∀ status : Status, status.code < 65536 →
      ∃ text object, Message.ofText? text = some ⟨.failure, object⟩ ∧
        Status.ofTree? (.ofDocument object) = some status := by
  constructor
  · intro text object status read said telling
    have fits := Status.code_lt_of_ofTree? said
    have telling : status.isTelling = true := by simpa [Status.isTelling] using telling
    refine ⟨Status.ofTree?_compact fits, ?_⟩
    rw [step_message, told, read]
    simp only [failure, said, Option.getD_some, Error.ofResponse_compact fits telling]
  · intro status fits
    exact ⟨_, _, Message.ofText?_failing fits, Status.ofTree?_toJson fits⟩

/-- A failure without a code, whose message holds what has to be escaped. -/
def escapedMessage : String :=
  "\x7b\"type\":\"Error\",\"object\":\x7b\"message\":\"\\\"a\\\\b\\\"\\u0001\\t\u00fc\"\x7d\x7d"

def escapedObject : Json :=
  .object [("message", .text "\"a\\b\"\x01\t\u00fc")]

theorem step_failure_escaped :
    let channel : Channel := { url := "https://c.example/api/v1/watch/pods", materializer := {} }
    let status : Status := { message := "\"a\\b\"\x01\t\u00fc" }
    Message.ofText? escapedMessage = some ⟨.failure, escapedObject⟩ ∧
      Status.ofTree? (.ofDocument escapedObject) = some status ∧
      status.message ≠ "" ∧
      channel.step (.message escapedMessage) =
        (channel, [.failed (.serverRejection channel.url status)]) ∧
      ∃ text object, Message.ofText? text = some ⟨.failure, object⟩ ∧
        Status.ofTree? (.ofDocument object) = some { status with code := 65535 } := by
  intro channel status
  have read : Message.ofText? escapedMessage = some ⟨.failure, escapedObject⟩ := by cbv
  have said : Status.ofTree? (.ofDocument escapedObject) = some status := by decide +kernel
  have telling : status.message ≠ "" := by decide
  obtain ⟨heard, told⟩ := step_failure channel
  exact ⟨read, said, telling, (heard escapedMessage escapedObject status read said (.inl telling)).2,
    told { status with code := 65535 } (by decide)⟩

end Channel

end ClusterClient.Watch
