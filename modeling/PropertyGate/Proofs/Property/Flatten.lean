import PropertyGate.Property.Lemmas

/-!
# Proofs/Property/Flatten — the values of all groups in one map

A resolved patch counts no values exactly when its flattened map is empty
(`fieldCount_eq_zero_iff`), and what the flattened map holds comes from one of its groups
(`exists_of_get?_flatten`).
-/

namespace PropertyGate

/-- What is found was listed. -/
theorem Entries.mem_of_get? {β : Type} {key : String} {value : β} {entries : List (String × β)}
    (h : Entries.get? key entries = some value) : (key, value) ∈ entries := by
  induction entries with
  | nil => cases h
  | cons entry rest ih =>
    obtain ⟨k, v⟩ := entry
    rw [Entries.get?] at h
    by_cases hk : k = key
    · rw [if_pos hk] at h
      cases h
      exact hk ▸ List.mem_cons_self
    · rw [if_neg hk] at h
      exact List.mem_cons_of_mem _ (ih h)

/-- Something is found under every key that is listed. -/
theorem Entries.exists_get?_of_mem {β : Type} {entry : String × β} {entries : List (String × β)}
    (h : entry ∈ entries) : ∃ value, Entries.get? entry.1 entries = some value := by
  induction entries with
  | nil => cases h
  | cons head rest ih =>
    rw [Entries.get?]
    by_cases hk : head.1 = entry.1
    · exact ⟨head.2, if_pos hk⟩
    · rw [if_neg hk]
      refine ih ((List.mem_cons.1 h).resolve_left ?_)
      rintro rfl
      exact hk rfl

namespace PatchResult

variable {result : PatchResult}

/-- The values of all groups, one after the other. -/
def allEntries (result : PatchResult) : List (String × Json.Value) :=
  result.groups.values.flatMap fun patch => patch.values.entries

theorem get?_flatten (fieldId : String) :
    result.flatten.get? fieldId = Entries.get? fieldId result.allEntries.reverse :=
  TextMap.get?_ofList _ _

/-- What the flattened map holds, a group of the result holds. -/
theorem exists_of_get?_flatten {fieldId : String} {value : Json.Value}
    (h : result.flatten.get? fieldId = some value) :
    ∃ entry ∈ result.toList, entry.2.values.get? fieldId = some value := by
  rw [get?_flatten] at h
  obtain ⟨patch, hpatch, hvalue⟩ :=
    List.mem_flatMap.1 (List.mem_reverse.1 (Entries.mem_of_get? h))
  obtain ⟨entry, hentry, rfl⟩ := List.mem_map.1 hpatch
  exact ⟨entry, hentry, TextMap.mem_entries_iff.1 hvalue⟩

theorem fieldCount_eq_length (result : PatchResult) :
    result.fieldCount = result.allEntries.length := by
  rw [fieldCount, allEntries]
  induction result.groups.values with
  | nil => rfl
  | cons patch rest ih =>
    rw [List.foldr_cons, ih, List.flatMap_cons, List.length_append]
    rfl

/-- **A result counts no values exactly when its flattened map is empty.** -/
theorem fieldCount_eq_zero_iff : result.fieldCount = 0 ↔ result.flatten = .empty := by
  rw [fieldCount_eq_length, List.length_eq_zero_iff]
  constructor
  · intro none
    refine TextMap.ext_get? fun fieldId => ?_
    rw [get?_flatten, none]
    rfl
  · intro flat
    refine List.eq_nil_iff_forall_not_mem.2 fun entry hmem => ?_
    obtain ⟨value, found⟩ := Entries.exists_get?_of_mem (List.mem_reverse.2 hmem)
    rw [← get?_flatten, flat] at found
    cases found

end PatchResult

end PropertyGate
