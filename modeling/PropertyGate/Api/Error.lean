import PropertyGate.Patch.Error
import PropertyGate.Property.Document

/-!
# Api/Error — what clients are told when a request fails

Every refusal of an API request is an `ApiError`: what the service refuses itself, or the error of a
patch. Clients see it as an `ErrorBody`, whose status is the status of the answer.
-/

namespace PropertyGate

open Json (Value Shape Member Decoder)

/-- **Why an API request fails.** -/
inductive ApiError where
  | invalidTarget (target : String)
  | invalidBody (message : String)
  | missingRequester (header : String)
  | storeFailed (cause : Failure)
  | patch (error : PatchError)
deriving DecidableEq, Repr

/-- An error as clients see it. -/
structure ErrorBody where
  kind : String
  message : String
  status : UInt16
  offendingId : Option String := none
deriving DecidableEq, Repr, Inhabited

namespace ApiError

/-- The name of the kind of error. -/
def kind : ApiError → String
  | .invalidTarget _ => "invalid_target_id"
  | .invalidBody _ => "invalid_body"
  | .missingRequester _ => "missing_requester"
  | .storeFailed _ => "store_failed"
  | .patch error => error.kind

/-- The status that an answer can bear: one of three digits stands, any other gives way to that of a
failure of the service itself. -/
def bearable (status : UInt16) : UInt16 := if 100 ≤ status && status < 1000 then status else 500

/-- The status of the answer. -/
def status : ApiError → UInt16
  | .invalidTarget _ => 400
  | .invalidBody _ => 400
  | .missingRequester _ => 401
  | .storeFailed _ => 500
  | .patch error => bearable error.status

/-- The wording; of a cause, only its outermost message shows. -/
def message : ApiError → String
  | .invalidTarget target => "invalid post id: " ++ target
  | .invalidBody message => "invalid request body: " ++ message
  | .missingRequester header => "missing requester identity header " ++ header
  | .storeFailed cause => "failed to store property values: " ++ cause.message
  | .patch error => error.message

/-- What the error is about, where it is about one thing. -/
def offendingId? : ApiError → Option String
  | .invalidTarget target => some target
  | .patch error => error.offendingId?
  | .invalidBody _ => none
  | .missingRequester _ => none
  | .storeFailed _ => none

/-- The causes, outermost first. -/
def chain : ApiError → List String
  | .storeFailed cause => cause.chain
  | .patch error => error.chain
  | _ => []

/-- The error as clients see it. -/
def body (error : ApiError) : ErrorBody :=
  ⟨error.kind, error.message, error.status, error.offendingId?⟩

/-- A status of an error can be borne as it is. -/
theorem bearable_of_isErrorStatus {status : UInt16}
    (h : PatchError.isErrorStatus status = true) : bearable status = status := by
  simp only [PatchError.isErrorStatus, Bool.and_eq_true, decide_eq_true_eq] at h
  refine if_pos (Bool.and_eq_true_iff.2 ⟨decide_eq_true ?_, decide_eq_true ?_⟩)
  · exact UInt16.le_trans (by decide) h.1
  · exact UInt16.lt_trans h.2 (by decide)

/-- The status of a patch error is that of its answer. -/
@[simp] theorem status_patch (error : PatchError) : (ApiError.patch error).status = error.status :=
  bearable_of_isErrorStatus error.isErrorStatus_status

/-- **No refusal reads as success.** -/
theorem isErrorStatus_status (error : ApiError) :
    PatchError.isErrorStatus error.status = true := by
  cases error with
  | patch error => exact (status_patch error).symm ▸ error.isErrorStatus_status
  | _ => rfl

end ApiError

namespace ErrorBody

/-- The document of an error; without an offending id there is no member for it. -/
def toJson (body : ErrorBody) : Value :=
  .object ([("kind", .text body.kind), ("message", .text body.message),
    ("status", .number (.integer body.status.toNat))]
    ++ Json.optionalMember "offending_id" body.offendingId)

def shape : Shape ErrorBody where
  title := "ErrorBody"
  blank := ⟨"", "", 0, none⟩
  members := [
    Member.needed "kind" Decoder.text fun kind body => { body with kind },
    Member.needed "message" Decoder.text fun message body => { body with message },
    Member.needed "status" Decoder.uint16 fun status body => { body with status },
    Member.defaulted "offending_id" (Decoder.optional Decoder.text) fun offendingId body =>
      { body with offendingId }]

def decoder : Decoder ErrorBody := shape.decoder

end ErrorBody

end PropertyGate
