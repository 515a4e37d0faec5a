import PropertyGate.Proofs.Property.Documents
import PropertyGate.Service.Refusal

/-!
# Proofs/Api/Answering — what is answered to a request that fails

An error is answered with its document under its status.  The status is one of an error, that of a
refusal is the one that the handler chose just if that tells of an error
(`ApiError.status_denied_eq_iff`).  The document is decoded as the error that clients see
(`ErrorBody.takes`), and whoever reads it as any document finds its members filed by their names
(`ErrorBody.decode_value`), that of the offending id just if there is one.  So **a failure is answered
as what it is** (`ApiError.answered_as_failure`).
-/

namespace PropertyGate

open Json

/-! ## Statuses -/

theorem PatchError.isErrorStatus_iff {status : UInt16} :
    isErrorStatus status = true ↔ 400 ≤ status ∧ status < 600 := by
  rw [isErrorStatus, Bool.and_eq_true, decide_eq_true_eq, decide_eq_true_eq]

namespace ApiError

theorem status_denied (groupName : String) (rejection : Rejection) :
    (patch (.permissionDenied groupName rejection)).status =
      if PatchError.isErrorStatus rejection.status then rejection.status else 500 := by
  rw [status_patch, PatchError.status]

/-- **A handler chooses the status just if it chooses that of an error.** -/
theorem status_denied_eq_iff {groupName : String} {rejection : Rejection} :
    (patch (.permissionDenied groupName rejection)).status = rejection.status ↔
      400 ≤ rejection.status ∧ rejection.status < 600 := by
  rw [← PatchError.isErrorStatus_iff]
  constructor
  · intro same
    rw [← same]
    exact isErrorStatus_status _
  · intro told
    rw [status_denied, if_pos told]

end ApiError

/-! ## Documents -/

namespace ErrorBody

variable {depth : Nat}

/-- The members of the document, in the order of their names. -/
def filed (body : ErrorBody) : List (String × Value) :=
  [("kind", .text body.kind), ("message", .text body.message)]
    ++ (optionalMember "offending_id" body.offendingId
      ++ [("status", .number (.integer body.status.toNat))])

theorem ascending_filed (body : ErrorBody) : Entries.Ascending body.filed := by
  refine List.pairwise_map.1 (?_ : (body.filed.map Prod.fst).Pairwise (· < ·))
  obtain ⟨kind, message, status, _ | offendingId⟩ := body
  · exact (by decide : ["kind", "message", "status"].Pairwise (· < ·))
  · exact (by decide : ["kind", "message", "offending_id", "status"].Pairwise (· < ·))

theorem plain_filed (body : ErrorBody) : Plain (depth + 1) (.object body.filed) := by
  have small : body.status.toNat < 65536 := body.status.toNat_lt
  have offending : ∀ member ∈ optionalMember "offending_id" body.offendingId,
      Plain depth member.2 := by
    cases body.offendingId with
    | none => exact nofun
    | some offendingId => exact List.forall_mem_singleton.2 (.text offendingId)
  refine .object body.ascending_filed ?_
  simp only [filed, List.forall_mem_append, List.forall_mem_cons]
  exact ⟨⟨.text _, .text _, nofun⟩, offending, .integer ⟨by omega, by omega⟩, nofun⟩

theorem filed_reordered (body : ErrorBody) : Value.Reordered (.object body.filed) body.toJson :=
  .of_perm (List.perm_append_comm.append_left _)

/-- **Whoever reads the document finds its members by their names.** -/
theorem decode_value (body : ErrorBody) :
    Json.decode Decoder.value body.toJson.bytes = .ok (.object body.filed) :=
  (takes_value body.plain_filed).decode body.filed_reordered

theorem get?_offendingId_filed (body : ErrorBody) :
    Entries.get? "offending_id" body.filed = body.offendingId.map .text := by
  obtain ⟨kind, message, status, _ | offendingId⟩ := body <;> rfl

theorem get?_status_filed (body : ErrorBody) :
    Entries.get? "status" body.filed = some (.number (.integer body.status.toNat)) := by
  obtain ⟨kind, message, status, _ | offendingId⟩ := body <;> rfl

end ErrorBody

/-! ## Answers -/

/-- **A failure is answered as what it is.**

* The status of the answer is one of an error.  That of a refusal is the status that the handler
  chose just if that is one of an error, and it tells of a failure of the service otherwise.
* The text of the answer is decoded as the error that clients see, which has the status of the answer,
  and the message and the offending id of the error as they are.
* Whoever reads the text as any document finds the same status and message in it, and a member for the
  offending id just if there is one. -/
theorem ApiError.answered_as_failure :
    (∀ error : ApiError,
      let response := (Refusal.api error).response
      let text := Utf8.encode response.body
      (400 ≤ response.status ∧ response.status < 600) ∧
      (Json.decode ErrorBody.decoder text = .ok error.body ∧ error.body.status = response.status ∧
        error.body.message = error.message ∧ error.body.offendingId = error.offendingId?) ∧
      ∃ members, Json.decode Decoder.value text = .ok (.object members) ∧
        Entries.get? "status" members = some (.number (.integer response.status.toNat)) ∧
        Entries.get? "message" members = some (.text error.message) ∧
        Entries.get? "offending_id" members = error.offendingId?.map .text) ∧
    ∀ groupName rejection,
      let response := (Refusal.api (.patch (.permissionDenied groupName rejection))).response
      (response.status = rejection.status ↔ 400 ≤ rejection.status ∧ rejection.status < 600) ∧
      (¬(400 ≤ rejection.status ∧ rejection.status < 600) → response.status = 500) := by
  refine ⟨fun error => ⟨PatchError.isErrorStatus_iff.1 error.isErrorStatus_status,
    ⟨error.body.takes.decode (.refl _), rfl, rfl, rfl⟩, error.body.filed, error.body.decode_value,
    error.body.get?_status_filed, rfl, error.body.get?_offendingId_filed⟩,
    fun groupName rejection => ⟨status_denied_eq_iff, fun other => ?_⟩⟩
  rw [← PatchError.isErrorStatus_iff] at other
  exact (status_denied groupName rejection).trans (if_neg other)

end PropertyGate
