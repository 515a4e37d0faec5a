import PropertyGate.Property.PatchResult
import PropertyGate.TextMap.Lemmas

/-!
# Property/Lemmas — what filing patches does

**Results that are built by `insert` and `collect` keep every group under its own id**
(`keyedById_collect`); what is found under an id is the patch that was filed last.
-/

namespace PropertyGate.PatchResult

@[simp] theorem get?_empty (id : String) : empty.get? id = none := rfl

/-- Under its id a patch is found in place of the one that was filed before. -/
theorem get?_insert (result : PatchResult) (patch : GroupPatch) (id : String) :
    (result.insert patch).get? id = if patch.group.id = id then some patch else result.get? id :=
  TextMap.get?_insert _ _ _ _

theorem keyedById_empty : empty.KeyedById := fun _ h => nomatch h

/-- A result is keyed by ids if whatever it finds has the id that it was looked up by. -/
theorem keyedById_iff {result : PatchResult} :
    result.KeyedById ↔ ∀ id patch, result.get? id = some patch → patch.group.id = id := by
  constructor
  · intro h id patch found
    exact (h (id, patch) (TextMap.mem_entries_iff.2 found)).symm
  · rintro h ⟨id, patch⟩ hmem
    exact (h id patch (TextMap.mem_entries_iff.1 hmem)).symm

/-- A patch is filed under its own id. -/
theorem KeyedById.insert {result : PatchResult} (h : result.KeyedById) (patch : GroupPatch) :
    (result.insert patch).KeyedById := by
  rw [keyedById_iff] at h ⊢
  intro id found
  rw [get?_insert]
  split
  · rintro ⟨⟩
    assumption
  · exact h id found

theorem KeyedById.foldl_insert {result : PatchResult} (h : result.KeyedById)
    (patches : List GroupPatch) : (patches.foldl PatchResult.insert result).KeyedById := by
  induction patches generalizing result with
  | nil => exact h
  | cons patch rest ih => exact ih (h.insert patch)

/-- One patch more is collected as it is filed. -/
theorem collect_concat (patches : List GroupPatch) (patch : GroupPatch) :
    collect (patches ++ [patch]) = (collect patches).insert patch :=
  List.foldl_append ..

/-- **Collected patches are filed under their own ids.** -/
theorem keyedById_collect (patches : List GroupPatch) : (collect patches).KeyedById :=
  keyedById_empty.foldl_insert patches

end PropertyGate.PatchResult
