import PropertyGate.Failure
import PropertyGate.Policy.Handler
import PropertyGate.Text.Quoted

/-!
# Patch/Error — why a patch is refused

Every error refuses the whole patch. An error has a kind, a wording, a status in the sense of HTTP
(always from 400 to 599) and, for some kinds, the id it is about.
-/

namespace PropertyGate

/-- **Why a patch is refused.** -/
inductive PatchError where
  | unknownField (fieldId : String)
  | fieldResolutionFailed (cause : Failure)
  | groupResolutionFailed (groupId : String) (cause : Failure)
  | unknownPermissionGroup (groupName : String)
  | permissionDenied (groupName : String) (rejection : Rejection)
  | tooLarge (count max : Nat)
  | internal (text : String)
deriving DecidableEq, Repr

namespace PatchError

/-- The name of the kind of error. -/
def kind : PatchError → String
  | .unknownField _ => "unknown_field"
  | .fieldResolutionFailed _ => "field_resolution_failed"
  | .groupResolutionFailed _ _ => "group_resolution_failed"
  | .unknownPermissionGroup _ => "unknown_permission_group"
  | .permissionDenied _ _ => "permission_denied"
  | .tooLarge _ _ => "patch_too_large"
  | .internal _ => "internal"

/-- Whether a status tells of an error. -/
def isErrorStatus (status : UInt16) : Bool := 400 ≤ status && status < 600

/-- The status of the answer. A handler chooses the status of its refusal, unless that does not tell
of an error. -/
def status : PatchError → UInt16
  | .unknownField _ => 404
  | .unknownPermissionGroup _ => 400
  | .tooLarge _ _ => 400
  | .permissionDenied _ rejection => if isErrorStatus rejection.status then rejection.status else 500
  | .fieldResolutionFailed _ => 500
  | .groupResolutionFailed _ _ => 500
  | .internal _ => 500

/-- The field, group or group name that the error is about. -/
def offendingId? : PatchError → Option String
  | .unknownField fieldId => some fieldId
  | .groupResolutionFailed groupId _ => some groupId
  | .unknownPermissionGroup groupName => some groupName
  | .permissionDenied groupName _ => some groupName
  | .fieldResolutionFailed _ => none
  | .tooLarge _ _ => none
  | .internal _ => none

/-- The wording; of a cause, only its outermost message shows. -/
def message : PatchError → String
  | .unknownField fieldId => "unknown property field: " ++ fieldId
  | .fieldResolutionFailed cause => "failed to resolve property fields: " ++ cause.message
  | .groupResolutionFailed groupId cause =>
    "failed to resolve property group " ++ groupId ++ ": " ++ cause.message
  | .unknownPermissionGroup groupName =>
    "no permission handler registered for property group " ++ groupName
  | .permissionDenied groupName rejection =>
    "permission denied for property group " ++ groupName ++ ": " ++ rejection.describe
  | .tooLarge count max =>
    "patch has " ++ count.repr ++ " fields, at most " ++ max.repr ++ " allowed"
  | .internal text => "internal error: " ++ text

/-- The causes, outermost first. -/
def chain : PatchError → List String
  | .fieldResolutionFailed cause => cause.chain
  | .groupResolutionFailed _ cause => cause.chain
  | .permissionDenied _ rejection => [rejection.describe]
  | _ => []

/-- The error of a handler that crashed. The number of the task it ran in shows as `N`. -/
def ofCrash (text : Option String) : PatchError :=
  .internal ("permission handler task failed: task N panicked" ++
    match text with
    | some text => " with message " ++ Text.quoted text
    | none => "")

/-- **No error reads as success.** -/
theorem isErrorStatus_status (error : PatchError) : isErrorStatus error.status = true := by
  cases error with
  | permissionDenied _ rejection =>
    simp only [status]
    split
    · assumption
    · rfl
  | _ => rfl

end PatchError

end PropertyGate
