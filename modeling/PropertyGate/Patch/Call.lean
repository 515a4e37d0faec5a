import PropertyGate.Property.PatchResult
import PropertyGate.Policy.Handler

/-!
# Patch/Call — what a request asks of others

While it is worked on, a request asks registries, handlers and the store. `Call` names these
questions; a `Traced` computation lists them, in order, beside its result, up to the question at
which it failed. Handlers take their time, so a call is made at some moment (`TimedCall`).
-/

namespace PropertyGate

/-- A question put to a registry, a handler or the store. -/
inductive Call where
  | lookupFields (target : String) (fieldIds : List String)
  | lookupGroup (groupId : String)
  | authorize (context : Context) (groupName : String) (values : Values)
  | readValues (target : String)
  | commit (target : String) (patch : PatchResult)

/-- A call and the moment at which it is made, in milliseconds since the request came in. -/
structure TimedCall where
  moment : Nat
  call : Call

/-- Calls that are made at once. -/
def atOnce (calls : List Call) : List TimedCall := calls.map (⟨0, ·⟩)

/-- A result, or an error, and the calls that were made for it. -/
structure Traced (ε α : Type) where
  calls : List Call
  result : Except ε α

namespace Traced

variable {ε α β : Type}

/-- A result that took no call. -/
def pure (value : α) : Traced ε α := ⟨[], .ok value⟩

/-- A computation without calls. -/
def ofExcept (result : Except ε α) : Traced ε α := ⟨[], result⟩

/-- One call and its answer. -/
def call (made : Call) (answer : Except ε α) : Traced ε α := ⟨[made], answer⟩

/-- Goes on with the result, unless there was an error. -/
def bind (first : Traced ε α) (next : α → Traced ε β) : Traced ε β :=
  match first.result with
  | .error error => ⟨first.calls, .error error⟩
  | .ok value => ⟨first.calls ++ (next value).calls, (next value).result⟩

instance : Monad (Traced ε) where
  pure := Traced.pure
  bind := Traced.bind

end Traced

end PropertyGate
