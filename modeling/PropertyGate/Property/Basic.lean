import PropertyGate.Json.Value

/-!
# Property/Basic — fields, groups and values

Posts carry properties. Every property is declared as a field, every field belongs to one group, and
the name of a group says which policy guards its fields.
-/

namespace PropertyGate

/-- A named set of fields under one policy; the name is what the policy is registered under. -/
structure Group where
  id : String
  name : String
deriving DecidableEq, Repr, Inhabited

/-- A declared property, owned by one group. The name is for display only. -/
structure Field where
  id : String
  groupId : String
  name : Option String := none
deriving DecidableEq, Repr, Inhabited

/-- Property values by field id: what a client submits, what a policy approves, what is stored. -/
abbrev Values := TextMap Json.Value

/-- The values of one group. -/
structure GroupPatch where
  group : Group
  values : Values

instance : Inhabited GroupPatch := ⟨⟨default, .empty⟩⟩

end PropertyGate
