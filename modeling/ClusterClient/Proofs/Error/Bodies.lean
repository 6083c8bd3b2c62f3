import ClusterClient.Error
import ClusterClient.Proofs.Json.RoundTrip

namespace ClusterClient

namespace Json.Tree

variable {bound n : Nat} {tree : Tree}

theorem lt_of_readNat (read : readNat bound tree = some n) : n < bound := by
  unfold readNat at read
  split at read
  · obtain ⟨inside, same⟩ := Option.ite_none_right_eq_some.mp read
    rw [Bool.and_eq_true, decide_eq_true_iff, decide_eq_true_iff] at inside
    cases same
    omega
  · cases read

theorem readNat_natural (small : n < bound) :
    readNat bound (.number (some (.integer n))) = some n := by
  simp [readNat, small]

end Json.Tree

namespace Status

variable {status : Status} {tree : Json.Tree}

theorem ofTree?_eq_some_iff : ofTree? tree = some status ↔ ∃ code message reason,
    tree.record? ["code", "message", "reason"] = some [code, message, reason] ∧
      Json.Tree.readOr 0 (Json.Tree.readNat 65536) code = some status.code ∧
      Json.Tree.readOr "" Json.Tree.readText message = some status.message ∧
      Json.Tree.readOr "" Json.Tree.readText reason = some status.reason := by
  constructor
  · intro said
    obtain ⟨fields, recorded, said⟩ := Option.bind_eq_some_iff.mp said
    split at said
    · next code message reason =>
      obtain ⟨_, coded, said⟩ := Option.bind_eq_some_iff.mp said
      obtain ⟨_, worded, said⟩ := Option.bind_eq_some_iff.mp said
      obtain ⟨_, reasoned, same⟩ := Option.bind_eq_some_iff.mp said
      cases same
      exact ⟨code, message, reason, recorded, coded, worded, reasoned⟩
    · cases said
  · rintro ⟨code, message, reason, recorded, coded, worded, reasoned⟩
    rw [ofTree?, recorded, Option.bind_eq_bind, Option.bind_some]
    dsimp only
    rw [coded, worded, reasoned]
    rfl

/-- The code of a status fits into 16 bits. -/
theorem code_lt_of_ofTree? (said : ofTree? tree = some status) : status.code < 65536 := by
  obtain ⟨code, -, -, -, coded, -⟩ := ofTree?_eq_some_iff.mp said
  cases code with
  | none =>
    rw [← Option.some.inj coded]
    decide
  | some tree => exact Json.Tree.lt_of_readNat coded

theorem ofTree?_toJson (fits : status.code < 65536) :
    ofTree? (.ofDocument status.toJson) = some status := by
  refine ofTree?_eq_some_iff.mpr ⟨some (.number (some (.integer status.code))),
    some (.text (some status.message)), some (.text (some status.reason)), rfl, ?_, rfl, rfl⟩
  rw [Json.Tree.readOr, Json.Tree.readNat_natural fits]

theorem isIntegral_toJson (fits : status.code < 65536) : status.toJson.IsIntegral := by
  refine .object (List.forall_mem_cons.mpr ⟨.number ⟨by omega, by omega⟩, ?_⟩)
  exact List.forall_mem_cons.mpr ⟨.text _, List.forall_mem_singleton.mpr (.text _)⟩

theorem document?_toJson (status : Status) (depth : Nat) :
    (Json.Tree.ofDocument status.toJson).document? (depth + 1) = some status.toJson := by
  apply Json.Tree.document?_ofDocument
  · exact .object (by simp [Json.NestsWithin.number, Json.NestsWithin.text])
  · have ordered : Json.Fields.IsOrdered [("code", .number (.integer status.code)),
        ("message", .text status.message), ("reason", .text status.reason)] := by
      have code : "code" < "message" ∧ "code" < "reason" := by decide
      have message : "message" < "reason" := by decide
      refine List.pairwise_cons.mpr ⟨?_, List.pairwise_cons.mpr ⟨?_, List.pairwise_singleton ..⟩⟩
      · exact List.forall_mem_cons.mpr ⟨code.1, List.forall_mem_singleton.mpr code.2⟩
      · exact List.forall_mem_singleton.mpr message
    exact .object ordered (by simp [Json.IsOrdered.number, Json.IsOrdered.text])

/-- The body that is written of a status says nothing else. -/
theorem ofTree?_compact (fits : status.code < 65536) :
    (Json.Tree.ofText? status.toJson.compact).bind ofTree? = some status := by
  rw [(isIntegral_toJson fits).ofText?_compact, Option.bind_some, ofTree?_toJson fits]

theorem ofBody_compact (fits : status.code < 65536) (telling : status.isTelling = true) :
    ofBody status.code status.toJson.compact = status := by
  rw [ofBody, ofTree?_compact fits]
  simp only [telling, if_true]
  obtain ⟨code, message, reason⟩ := status
  simp

end Status

/-- An answer that has its code and its body from a status fails with that status. -/
theorem Error.ofResponse_compact {status : Status} (fits : status.code < 65536)
    (telling : status.isTelling = true) (url : String) :
    ofResponse url status.code status.toJson.compact =
      if status.code = 401 then .unauthorized url status.message
      else if status.code = 403 then .forbidden url status.message
      else .serverRejection url status := by
  simp only [ofResponse, Status.ofBody_compact fits telling]

end ClusterClient
