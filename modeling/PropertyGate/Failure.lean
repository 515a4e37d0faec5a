/-!
# Failure — a failure and what caused it

Collaborators fail with a message and a chain of causes, outermost first. Messages about such a
failure quote the outermost message only.
-/

namespace PropertyGate

/-- A failure: its message, and the messages of its causes, outermost first. -/
structure Failure where
  message : String
  causes : List String := []
deriving DecidableEq, Repr, Inhabited

namespace Failure

/-- The message and the causes in one list. -/
def chain (failure : Failure) : List String := failure.message :: failure.causes

/-- The failure with the given chain. -/
def ofChain : List String → Failure
  | [] => ⟨"", []⟩
  | message :: causes => ⟨message, causes⟩

/-- The same failure under a message of its own. -/
def context (failure : Failure) (message : String) : Failure := ⟨message, failure.chain⟩

@[simp] theorem chain_ofChain (message : String) (causes : List String) :
    (ofChain (message :: causes)).chain = message :: causes := rfl

end Failure

end PropertyGate
