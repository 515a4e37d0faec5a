import PropertyGate.Property.Basic

/-!
# Policy/Handler — who decides about the values of a group

A handler is asked about the pending values of one group, on behalf of one requester and for one
post, and gives its verdict after some time. Approving, it returns the values it approves: it may
drop, change and add fields. Handlers are any functions; the ones of `Policy/Rule` are examples.
-/

namespace PropertyGate

/-- On whose behalf, and for which post, values are changed. -/
structure Context where
  target : String
  requester : String
deriving DecidableEq, Repr, Inhabited

/-- A refusal: a status in the sense of HTTP, and a reason. -/
structure Rejection where
  status : UInt16
  message : String
deriving DecidableEq, Repr, Inhabited

namespace Rejection

/-- The refusal that the requester has no right. -/
def forbidden (message : String) : Rejection := ⟨403, message⟩

def describe (rejection : Rejection) : String :=
  rejection.message ++ " (status " ++ rejection.status.toNat.repr ++ ")"

end Rejection

/-- What a handler comes to: values, a refusal, or a crash, which may leave a text. -/
inductive Verdict where
  | approved (values : Values)
  | rejected (rejection : Rejection)
  | crashed (text : Option String)

instance : Inhabited Verdict := ⟨.crashed none⟩

/-- A verdict, and the time in milliseconds that it takes. -/
structure Reply where
  delay : Nat
  verdict : Verdict

/-- **A permission handler**: asked in a context, for the group of a name, about values. -/
abbrev Handler := Context → String → Values → Reply

namespace Handler

/-- Approves every value unchanged, at once. -/
def identity : Handler := fun _ _ values => ⟨0, .approved values⟩

end Handler

end PropertyGate
