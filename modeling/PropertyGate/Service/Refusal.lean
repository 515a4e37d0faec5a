import PropertyGate.Api.Error
import PropertyGate.Http.Message

/-!
# Service/Refusal — why a request is turned away

Before the API looks at a request, the service may turn it away: because it is shutting down, or
because the path or the body cannot be read. Those answers are plain text; errors of the API are
documents.
-/

namespace PropertyGate

open Http (Response)

/-- **Why a request is turned away.** -/
inductive Refusal where
  | shuttingDown
  /-- The segment that stands for the parameter does not decode to text. -/
  | unreadableSegment (parameter : String)
  /-- The body is longer than it may be. -/
  | bodyTooLong
  | api (error : ApiError)
deriving DecidableEq, Repr

/-- What answers about lengths say. -/
def lengthLimitText : String := "length limit exceeded"

namespace Refusal

/-- The answer. -/
def response : Refusal → Response
  | .shuttingDown => .text 503 "server is shutting down"
  | .unreadableSegment parameter =>
    .text 400 ("Invalid URL: Invalid UTF-8 in `" ++ parameter ++ "`")
  | .bodyTooLong => .text 413 ("Failed to buffer the request body: " ++ lengthLimitText)
  | .api error => .json error.status error.body.toJson

/-- **No refusal reads as success.** -/
theorem isErrorStatus_response (refusal : Refusal) :
    PatchError.isErrorStatus refusal.response.status = true := by
  cases refusal with
  | api error => exact error.isErrorStatus_status
  | _ => rfl

end Refusal

end PropertyGate
