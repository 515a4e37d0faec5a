import PropertyGate.Policy.Handler
import PropertyGate.Text.Quoted
import PropertyGate.TextMap.Basic

/-!
# Policy/Registry — handlers by group name

A registry is put together once and looked up by the name of a group. Registering a name again
replaces its handler.
-/

namespace PropertyGate

/-- The name of the group that holds the fields of content flagging. -/
def contentFlaggingGroup : String := "content_flagging"

/-- **The handlers**, by the name of the group they guard. -/
structure HandlerRegistry where
  handlers : TextMap Handler

namespace HandlerRegistry

def empty : HandlerRegistry := ⟨.empty⟩

instance : Inhabited HandlerRegistry := ⟨empty⟩

/-- Registers a handler, in place of any handler already there. -/
def register (registry : HandlerRegistry) (name : String) (handler : Handler) : HandlerRegistry :=
  ⟨registry.handlers.insert name handler⟩

/-- The handlers registered one after the other. -/
def ofList (handlers : List (String × Handler)) : HandlerRegistry :=
  handlers.foldl (fun registry entry => registry.register entry.1 entry.2) empty

/-- The registry of the service: content flagging approves everything. -/
def standard : HandlerRegistry := empty.register contentFlaggingGroup Handler.identity

def get? (registry : HandlerRegistry) (name : String) : Option Handler := registry.handlers.get? name

def contains (registry : HandlerRegistry) (name : String) : Bool := registry.handlers.contains name

def size (registry : HandlerRegistry) : Nat := registry.handlers.size

def isEmpty (registry : HandlerRegistry) : Bool := registry.handlers.isEmpty

/-- The registered names, ascending. -/
def names (registry : HandlerRegistry) : List String := registry.handlers.keys

/-- The registry as messages show it. -/
def describe (registry : HandlerRegistry) : String :=
  "HandlerRegistry \x7b groups: [" ++ ", ".intercalate (registry.names.map Text.quoted) ++ "] \x7d"

end HandlerRegistry

end PropertyGate
