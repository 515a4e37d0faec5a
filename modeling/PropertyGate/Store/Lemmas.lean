import PropertyGate.Store.Basic
import PropertyGate.TextMap.Lemmas

/-!
# Store/Lemmas — what writing does to the values of posts

Writing changes the values of one post, laying the written ones over them. **A commit that fails
leaves no trace**, because it gives no store at all; one that succeeds has checked every field.
-/

namespace PropertyGate.Store

theorem values_write (store : Store) (target probe : String) (values : Values) :
    (store.write target values).values probe =
      if target = probe then (store.values target).overlay values else store.values probe := by
  simp only [Store.values, write, TextMap.get?_insert]
  split <;> rfl

@[simp] theorem values_write_self (store : Store) (target : String) (values : Values) :
    (store.write target values).values target = (store.values target).overlay values := by
  rw [values_write, if_pos rfl]

/-- A field can be stored under a key if it is declared for the group of that key. -/
theorem fieldError?_eq_none_iff {definitions : Definitions} {key fieldId : String} :
    fieldError? definitions key fieldId = none ↔
      ∃ field, definitions.field? fieldId = some field ∧ field.groupId = key := by
  rw [fieldError?]
  cases definitions.field? fieldId with
  | none => simp
  | some field => by_cases h : field.groupId = key <;> simp [h]

/-- A patch can be stored if every field of it can. -/
theorem patchError?_eq_none_iff {definitions : Definitions} {patch : PatchResult} :
    patchError? definitions patch = none ↔
      ∀ entry ∈ patch.toList, ∀ fieldId ∈ entry.2.values.keys,
        fieldError? definitions entry.1 fieldId = none := by
  simp only [patchError?, List.findSome?_eq_none_iff]

/-- **A commit succeeds if and only if every field of the patch can be stored.** -/
theorem commit_eq_ok_iff {definitions : Definitions} {store stored : Store} {target : String}
    {patch : PatchResult} :
    commit definitions store target patch = .ok stored ↔
      patchError? definitions patch = none ∧
        stored = if patch.fieldCount = 0 then store else store.write target patch.flatten := by
  rw [commit]
  cases patchError? definitions patch with
  | some error => simp
  | none =>
    by_cases h : patch.fieldCount = 0 <;> simp [h, eq_comm]

end PropertyGate.Store
