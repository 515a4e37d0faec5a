import Mathlib.Data.List.Dedup
import Mathlib.Data.List.Nodup
import PropertyGate.Proofs.Property.Flatten

/-!
# Proofs/TextMap/Distinct — maps of listings in which no key is repeated

Where no key is repeated, a listing is filed whole: **the entries of its map are those of the
listing, in another order** (`TextMap.entries_ofList_perm`).  So the map has as many entries as were
listed, finds each of them, and does not depend on the order of the listing.
-/

namespace PropertyGate

variable {β : Type} {key : String} {value : β} {entries entries' : List (String × β)}

/-- Where no key is repeated, an entry is found wherever it stands. -/
theorem Entries.get?_eq_some_iff_mem_of_nodup (distinct : (entries.map Prod.fst).Nodup) :
    Entries.get? key entries = some value ↔ (key, value) ∈ entries := by
  induction entries with
  | nil => simp [Entries.get?]
  | cons head rest ih =>
    obtain ⟨k, v⟩ := head
    obtain ⟨new, distinct⟩ := List.nodup_cons.1 (List.map_cons ▸ distinct)
    rw [Entries.get?, List.mem_cons, Prod.mk.injEq]
    by_cases same : k = key
    · subst same
      have absent : (k, value) ∉ rest := fun mem =>
        new (List.mem_map.2 ⟨_, mem, rfl⟩)
      rw [if_pos rfl, Option.some.injEq]
      simp [absent, eq_comm]
    · rw [if_neg same, ih distinct]
      simp [Ne.symm same]

namespace TextMap

theorem nodup_entries (map : TextMap β) : map.entries.Nodup :=
  .of_map Prod.fst map.nodup_keys

theorem get?_eq_none_iff {map : TextMap β} : map.get? key = none ↔ ¬ map.contains key = true := by
  rw [contains, Option.not_isSome_iff_eq_none]

/-- What is filed last is laid over what was filed before. -/
theorem ofList_concat (entries : List (String × β)) (key : String) (value : β) :
    ofList (entries ++ [(key, value)]) = (ofList entries).insert key value := by
  refine ext_get? fun probe => ?_
  rw [get?_ofList, get?_insert, get?_ofList, List.reverse_concat, Entries.get?]

/-- Something is filed under the keys that were listed. -/
theorem contains_ofList (entries : List (String × β)) (key : String) :
    (ofList entries).contains key = true ↔ key ∈ entries.map Prod.fst := by
  rw [contains, get?_ofList, Option.isSome_iff_exists]
  constructor
  · rintro ⟨value, found⟩
    exact List.mem_map.2 ⟨(key, value), List.mem_reverse.1 (Entries.mem_of_get? found), rfl⟩
  · intro listed
    obtain ⟨entry, mem, rfl⟩ := List.mem_map.1 listed
    exact Entries.exists_get?_of_mem (List.mem_reverse.2 mem)

/-- **What is found is what was listed.** -/
theorem get?_ofList_eq_some_iff (distinct : (entries.map Prod.fst).Nodup) :
    (ofList entries).get? key = some value ↔ (key, value) ∈ entries := by
  have reversed : (entries.reverse.map Prod.fst).Nodup := by
    rw [List.map_reverse]
    exact List.nodup_reverse.2 distinct
  rw [get?_ofList, Entries.get?_eq_some_iff_mem_of_nodup reversed, List.mem_reverse]

/-- **A listing without repeated keys is filed whole.** -/
theorem entries_ofList_perm (distinct : (entries.map Prod.fst).Nodup) :
    (ofList entries).entries.Perm entries :=
  (List.perm_ext_iff_of_nodup (nodup_entries _) (.of_map _ distinct)).2 fun _ =>
    mem_entries_iff.trans (get?_ofList_eq_some_iff distinct)

/-- **The keys are those that were listed**, each of them once. -/
theorem keys_ofList_perm (entries : List (String × β)) :
    (ofList entries).keys.Perm (entries.map Prod.fst).dedup := by
  refine (List.perm_ext_iff_of_nodup (nodup_keys _) (List.nodup_dedup _)).2 fun key => ?_
  rw [← contains_iff_mem_keys, contains_ofList, List.mem_dedup]

theorem size_ofList_eq (entries : List (String × β)) :
    (ofList entries).size = (entries.map Prod.fst).dedup.length := by
  rw [← (keys_ofList_perm entries).length_eq, keys, List.length_map, size]

/-- No more is filed than was listed. -/
theorem size_ofList_le (entries : List (String × β)) : (ofList entries).size ≤ entries.length := by
  rw [size_ofList_eq, ← List.length_map Prod.fst]
  exact (List.dedup_sublist _).length_le

/-- **As much is filed as was listed just if no key is repeated.** -/
theorem size_ofList_eq_iff :
    (ofList entries).size = entries.length ↔ (entries.map Prod.fst).Nodup := by
  rw [size_ofList_eq, ← List.length_map Prod.fst, ← List.dedup_eq_self]
  exact ⟨(List.dedup_sublist _).eq_of_length, congrArg List.length⟩

theorem size_ofList (distinct : (entries.map Prod.fst).Nodup) :
    (ofList entries).size = entries.length :=
  size_ofList_eq_iff.2 distinct

/-- The order of the listing does not matter. -/
theorem ofList_congr (distinct : (entries.map Prod.fst).Nodup) (order : entries'.Perm entries) :
    ofList entries' = ofList entries := by
  refine ext_get? fun key => Option.ext fun value => ?_
  have distinct' : (entries'.map Prod.fst).Nodup := (order.map Prod.fst).nodup_iff.2 distinct
  rw [get?_ofList_eq_some_iff distinct', get?_ofList_eq_some_iff distinct, order.mem_iff]

end TextMap

end PropertyGate
