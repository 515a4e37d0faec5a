import PropertyGate.Property.Basic

/-!
# Property/PatchResult — patches by group

A resolved patch holds one `GroupPatch` for each group that it touches, filed under a key. Results
that are built by `insert` and `collect` file every group under its own id (`KeyedById`); a result
that was read from a document has the keys of the document.
-/

namespace PropertyGate

/-- **A resolved patch**: the patches of its groups, by key. -/
structure PatchResult where
  groups : TextMap GroupPatch

namespace PatchResult

/-- Every patch is filed under the id of its group. -/
def KeyedById (result : PatchResult) : Prop :=
  ∀ entry ∈ result.groups.entries, entry.1 = entry.2.group.id

def empty : PatchResult := ⟨.empty⟩

instance : Inhabited PatchResult := ⟨empty⟩

/-- Files a patch under the id of its group, in place of any patch already there. -/
def insert (result : PatchResult) (patch : GroupPatch) : PatchResult :=
  ⟨result.groups.insert patch.group.id patch⟩

def get? (result : PatchResult) (groupId : String) : Option GroupPatch := result.groups.get? groupId

/-- The patches filed one after the other. -/
def collect (patches : List GroupPatch) : PatchResult := patches.foldl insert empty

def size (result : PatchResult) : Nat := result.groups.size

def isEmpty (result : PatchResult) : Bool := result.groups.isEmpty

/-- The patches with their keys, in ascending key order. -/
def toList (result : PatchResult) : List (String × GroupPatch) := result.groups.entries

/-- The number of values over all groups. -/
def fieldCount (result : PatchResult) : Nat :=
  result.groups.values.foldr (fun patch count => patch.values.size + count) 0

/-- **The values of all groups in one map.** A field that several groups hold takes the value of the
last. -/
def flatten (result : PatchResult) : Values :=
  TextMap.ofList (result.groups.values.flatMap fun patch => patch.values.entries)

/-! ## Change after change -/

/-- What is done to a result. -/
inductive Change where
  | insert (patch : GroupPatch)
  /-- The result gives way to the patches collected. -/
  | collect (patches : List GroupPatch)
  /-- All patches are taken out. -/
  | drain

/-- What a change gives back. -/
inductive Returned where
  /-- The patch that was filed under the id before, if there was one. -/
  | replaced (previous : Option GroupPatch)
  | nothing
  /-- The patches that were taken out, with their keys. -/
  | drained (entries : List (String × GroupPatch))

/-- **Changes a result**, and gives back what it no longer holds. -/
def change (result : PatchResult) : Change → PatchResult × Returned
  | .insert patch => (result.insert patch, .replaced (result.get? patch.group.id))
  | .collect patches => (collect patches, .nothing)
  | .drain => (empty, .drained result.toList)

end PatchResult

end PropertyGate
