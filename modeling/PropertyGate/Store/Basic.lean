import PropertyGate.Definitions.Basic
import PropertyGate.Property.PatchResult

/-!
# Store/Basic — the values that posts hold

A commit is checked in full before anything is written: every field must be declared, and declared
for the group under whose key it stands in the patch. What passes is laid over the values that the
post has. A patch without values writes nothing, so a post has an entry only once it holds a value.
-/

namespace PropertyGate

/-- Why a patch cannot be stored: its first field, in the order of the patch, that is not declared
or belongs to another group. -/
inductive StoreError where
  | undeclared (fieldId : String)
  | misfiled (fieldId owner key : String)
deriving DecidableEq, Repr

def StoreError.message : StoreError → String
  | .undeclared fieldId => "cannot store undeclared property field " ++ fieldId
  | .misfiled fieldId owner key =>
    "property field " ++ fieldId ++ " belongs to group " ++ owner ++ ", not " ++ key

def StoreError.failure (error : StoreError) : Failure := ⟨error.message, []⟩

/-- **The stored values**, by post. -/
structure Store where
  targets : TextMap Values

namespace Store

def empty : Store := ⟨.empty⟩

instance : Inhabited Store := ⟨empty⟩

/-- The values of a post; none are stored for a post that has no entry. -/
def values (store : Store) (target : String) : Values := (store.targets.get? target).getD .empty

/-- The number of posts with stored values. -/
def targetCount (store : Store) : Nat := store.targets.size

/-- What keeps a field from being stored under the key of a group. -/
def fieldError? (definitions : Definitions) (key fieldId : String) : Option StoreError :=
  match definitions.field? fieldId with
  | none => some (.undeclared fieldId)
  | some field => if field.groupId = key then none else some (.misfiled fieldId field.groupId key)

/-- The first field of a patch that cannot be stored, by key and then by field id. -/
def patchError? (definitions : Definitions) (patch : PatchResult) : Option StoreError :=
  patch.toList.findSome? fun entry =>
    entry.2.values.keys.findSome? fun fieldId => fieldError? definitions entry.1 fieldId

/-- Lays values over those of a post. -/
def write (store : Store) (target : String) (values : Values) : Store :=
  ⟨store.targets.insert target ((store.values target).overlay values)⟩

/-- **Stores a patch whole or not at all.** -/
def commit (definitions : Definitions) (store : Store) (target : String) (patch : PatchResult) :
    Except StoreError Store :=
  match patchError? definitions patch with
  | some error => .error error
  | none => if patch.fieldCount = 0 then .ok store else .ok (store.write target patch.flatten)

end Store

end PropertyGate
