import PropertyGate.Policy.Registry
import PropertyGate.TextMap.Lemmas

/-!
# Policy/Lemmas — which handler a registry finds
-/

namespace PropertyGate.HandlerRegistry

@[simp] theorem get?_empty (name : String) : empty.get? name = none := rfl

/-- Under a name the handler that was registered last is found. -/
theorem get?_register (registry : HandlerRegistry) (name probe : String) (handler : Handler) :
    (registry.register name handler).get? probe =
      if name = probe then some handler else registry.get? probe :=
  TextMap.get?_insert _ _ _ _

end PropertyGate.HandlerRegistry
