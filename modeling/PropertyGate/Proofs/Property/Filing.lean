import Mathlib.Data.List.Induction
import PropertyGate.Proofs.FirstFailure
import PropertyGate.Proofs.TextMap.Distinct
import PropertyGate.Proofs.Text.Bytes

/-!
# Proofs/Property/Filing — what a result holds after some changes

Whatever is done to a result, it is what is collected of the patches that were filed since it was last
emptied or made anew (`ofChanges_eq_collect`), and of several patches of one group the last stays
(`get?_collect`).  Its flattened map looks from the last group to the first
(`get?_flatten_eq_findSome?`): it has every field of a group, with the value of the greatest group that
has the field, and as many as the groups have together just if no two of them share one.  So **a result
is described by the changes that led to it** (`described_by_changes`).
-/

namespace PropertyGate.PatchResult

variable {result : PatchResult} {patches : List GroupPatch} {changes : List Change}
  {fieldId id : String} {value : Json.Value}

/-! ## Flattening -/

/-- The fields of all groups, one group after the other. -/
theorem fields_allEntries (result : PatchResult) :
    result.allEntries.map Prod.fst = result.toList.flatMap fun entry => entry.2.values.keys := by
  rw [allEntries, TextMap.values, List.flatMap_map, List.map_flatMap]
  rfl

/-- No field is listed twice just if no two groups share one. -/
theorem nodup_fields_iff :
    (result.allEntries.map Prod.fst).Nodup ↔
      result.toList.Pairwise fun entry other =>
        entry.2.values.keys.Disjoint other.2.values.keys := by
  rw [fields_allEntries, List.nodup_flatMap]
  exact and_iff_right fun entry _ => TextMap.nodup_keys _

/-- **Flattening looks from the last group to the first.** -/
theorem get?_flatten_eq_findSome? (fieldId : String) :
    result.flatten.get? fieldId =
      result.toList.reverse.findSome? fun entry => entry.2.values.get? fieldId := by
  rw [get?_flatten, allEntries, TextMap.values, toList]
  induction result.groups.entries with
  | nil => rfl
  | cons entry rest ih =>
    rw [List.map_cons, List.flatMap_cons, List.reverse_append, Entries.get?_append, ih,
      Entries.get?_reverse entry.2.values.ascending, List.reverse_cons, List.findSome?_append,
      List.findSome?_singleton]
    rfl

/-- **The flattened map has the value of the greatest group that has the field.** -/
theorem get?_flatten_eq_some_iff_greatest :
    result.flatten.get? fieldId = some value ↔
      ∃ entry ∈ result.toList, entry.2.values.get? fieldId = some value ∧
        ∀ other ∈ result.toList, fieldId ∈ other.2.values.keys → other.1 ≤ entry.1 := by
  have ascending : result.toList.Pairwise fun entry other => entry.1 < other.1 :=
    result.groups.ascending
  rw [get?_flatten_eq_findSome?, findSome?_reverse_eq_some_iff_greatest Prod.fst ascending]
  refine exists_congr fun entry => and_congr_right fun _ => and_congr_right fun _ => ?_
  refine forall₂_congr fun other _ => ?_
  rw [TextMap.get?_eq_none_iff, TextMap.contains_iff_mem_keys, ← String.not_lt]
  exact imp_not_comm

theorem mem_keys_flatten_iff :
    fieldId ∈ result.flatten.keys ↔ ∃ entry ∈ result.toList, fieldId ∈ entry.2.values.keys := by
  rw [← TextMap.contains_iff_mem_keys, flatten, TextMap.contains_ofList, ← allEntries,
    fields_allEntries, List.mem_flatMap]

theorem size_flatten_le (result : PatchResult) : result.flatten.size ≤ result.fieldCount := by
  rw [fieldCount_eq_length]
  exact TextMap.size_ofList_le _

/-- **Flattening takes nothing together just if no two groups share a field.** -/
theorem size_flatten_eq_iff :
    result.flatten.size = result.fieldCount ↔
      result.toList.Pairwise fun entry other =>
        entry.2.values.keys.Disjoint other.2.values.keys := by
  rw [fieldCount_eq_length, ← nodup_fields_iff]
  exact TextMap.size_ofList_eq_iff

/-! ## Changes -/

/-- The result of some changes, from an empty one on. -/
def ofChanges (changes : List Change) : PatchResult :=
  changes.foldl (fun result change => (result.change change).1) empty

/-- What is filed after a change, given what was filed before. -/
def Change.filed (patches : List GroupPatch) : Change → List GroupPatch
  | .insert patch => patches ++ [patch]
  | .collect collected => collected
  | .drain => []

/-- **The patches filed since the result was last emptied or made anew**, one after the other. -/
def filed (changes : List Change) : List GroupPatch := changes.foldl Change.filed []

/-- **The patch of a group that was filed last.** -/
def lastFiled? (changes : List Change) (id : String) : Option GroupPatch :=
  ((filed changes).filter (·.group.id = id)).getLast?

theorem ofChanges_concat (changes : List Change) (change : Change) :
    ofChanges (changes ++ [change]) = ((ofChanges changes).change change).1 :=
  List.foldl_concat ..

theorem filed_concat (changes : List Change) (change : Change) :
    filed (changes ++ [change]) = change.filed (filed changes) :=
  List.foldl_concat ..

/-- What is inserted is filed behind what was filed before. -/
theorem filed_append_inserts (changes : List Change) (patches : List GroupPatch) :
    filed (changes ++ patches.map .insert) = filed changes ++ patches := by
  induction patches using List.reverseRecOn with
  | nil => simp
  | append_singleton patches patch ih =>
    rw [List.map_append, ← List.append_assoc, List.map_singleton, filed_concat, ih,
      ← List.append_assoc]
    rfl

/-- **Of the patches of one group that are collected, the last stays.** -/
theorem get?_collect (patches : List GroupPatch) (id : String) :
    (collect patches).get? id = (patches.filter (·.group.id = id)).getLast? := by
  induction patches using List.reverseRecOn with
  | nil => rfl
  | append_singleton patches patch ih =>
    rw [collect_concat, get?_insert, ih, List.filter_append]
    by_cases same : patch.group.id = id <;> simp [same]

/-- **A result is what is collected of what was filed.** -/
theorem ofChanges_eq_collect (changes : List Change) : ofChanges changes = collect (filed changes) := by
  induction changes using List.reverseRecOn with
  | nil => rfl
  | append_singleton changes change ih =>
    rw [ofChanges_concat, filed_concat, ih]
    cases change with
    | insert patch => exact (collect_concat ..).symm
    | collect | drain => rfl

theorem get?_ofChanges (changes : List Change) (id : String) :
    (ofChanges changes).get? id = lastFiled? changes id := by
  rw [ofChanges_eq_collect, get?_collect, lastFiled?]

/-- Collecting is inserting one by one into what was emptied. -/
theorem collect_eq_ofChanges (changes : List Change) (patches : List GroupPatch) :
    collect patches = ofChanges (changes ++ .drain :: patches.map .insert) := by
  rw [ofChanges_eq_collect, List.append_cons, filed_append_inserts, filed_concat]
  rfl

/-- **A result is described by the changes that led to it.**

* Every patch is filed under the id of its group, and the one that is found there is the one that was
  filed last since the result was emptied or made anew.
* To insert a patch gives back the one that is found until then; to collect patches is to insert them
  one by one; to drain the result gives back what is listed.
* Every patch is listed once, in the order of the bytes of the ids, and counted.
* The flattened map has the fields of all groups, each with the value of the greatest group that has
  it; it is no larger than the groups together, and as large just if no two of them share a field. -/
theorem described_by_changes (changes : List Change) :
    let result := ofChanges changes
    (result.KeyedById ∧ ∀ id, result.get? id = lastFiled? changes id) ∧
    ((∀ patch, result.change (.insert patch) =
        (ofChanges (changes ++ [.insert patch]), .replaced (lastFiled? changes patch.group.id))) ∧
      (∀ patches, result.change (.collect patches) =
        (ofChanges (changes ++ .drain :: patches.map .insert), .nothing)) ∧
      result.change .drain = (ofChanges (changes ++ [.drain]), .drained result.toList)) ∧
    (result.toList.Pairwise (fun entry other => Utf8.encode entry.1 < Utf8.encode other.1) ∧
      (∀ id patch, (id, patch) ∈ result.toList ↔ lastFiled? changes id = some patch) ∧
      result.size = result.toList.length) ∧
    (∀ fieldId, fieldId ∈ result.flatten.keys ↔
        ∃ entry ∈ result.toList, fieldId ∈ entry.2.values.keys) ∧
      (∀ fieldId value, result.flatten.get? fieldId = some value ↔
        ∃ entry ∈ result.toList, entry.2.values.get? fieldId = some value ∧
          ∀ other ∈ result.toList, fieldId ∈ other.2.values.keys → other.1 ≤ entry.1) ∧
      result.flatten.size ≤ result.fieldCount ∧
      (result.flatten.size = result.fieldCount ↔
        result.toList.Pairwise fun entry other =>
          entry.2.values.keys.Disjoint other.2.values.keys) := by
  intro result
  have found := get?_ofChanges changes
  have keyed : (ofChanges changes).KeyedById := by
    rw [ofChanges_eq_collect]
    exact keyedById_collect _
  have ordered : result.toList.Pairwise fun entry other =>
      Utf8.encode entry.1 < Utf8.encode other.1 :=
    result.groups.ascending.imp Utf8.encode_lt_encode_iff.2
  refine ⟨⟨keyed, found⟩, ⟨fun patch => ?_, fun patches => ?_, ?_⟩,
    ⟨ordered, fun id patch => ?_, rfl⟩, fun _ => mem_keys_flatten_iff,
    fun _ _ => get?_flatten_eq_some_iff_greatest, size_flatten_le result, size_flatten_eq_iff⟩
  · rw [ofChanges_concat, ← found]
    rfl
  · rw [← collect_eq_ofChanges]
    rfl
  · rw [ofChanges_concat]
    rfl
  · rw [← found]
    exact TextMap.mem_entries_iff

end PropertyGate.PatchResult
