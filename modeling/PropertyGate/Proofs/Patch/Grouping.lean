import Mathlib.Data.List.Dedup
import PropertyGate.Patch.Grouping
import PropertyGate.Proofs.FirstFailure
import PropertyGate.TextMap.Lemmas

/-!
# Proofs/Patch/Grouping — every group gets the fields it owns

A field has an owner as far as its declaration is its own (`ownerOf`).  If every field of a patch
has one, grouping files under each owner, in ascending order, its **share** of the patch and nothing
else (`groupByOwner_of_owned`); otherwise the smallest field without an owner decides the error
(`groupByOwner_of_stopsAt`).
-/

namespace PropertyGate

/-- **The group that owns a field**, as its own declaration says, or why it has no owner. -/
def ownerOf (fields : TextMap Field) (fieldId : String) : Except PatchError String :=
  match fields.get? fieldId with
  | none => .error (.unknownField fieldId)
  | some field =>
    if field.id = fieldId then .ok field.groupId
    else
      .error (.fieldResolutionFailed
        ⟨"registry answered field " ++ fieldId ++ " with declaration " ++ field.id, []⟩)

/-- Whether a group owns a field. -/
def owns (fields : TextMap Field) (groupId fieldId : String) : Bool :=
  (ownerOf fields fieldId).toOption == some groupId

/-- The part of a patch that a group owns. -/
def share (fields : TextMap Field) (patch : Values) (groupId : String) : Values :=
  patch.filterKeys (owns fields groupId)

/-- The groups that own fields of a patch, each once, ascending. -/
def owners (fields : TextMap Field) (patch : Values) : List String :=
  (patch.keys.filterMap fun fieldId => (ownerOf fields fieldId).toOption).dedup.mergeSort (· ≤ ·)

/-- **A patch split by owner**: every owner with its share, owners ascending. -/
def shares (fields : TextMap Field) (patch : Values) : List (String × Values) :=
  (owners fields patch).map fun groupId => (groupId, share fields patch groupId)

variable {fields : TextMap Field} {patch : Values} {groupId fieldId : String}

theorem owns_iff : owns fields groupId fieldId = true ↔ ownerOf fields fieldId = .ok groupId := by
  rw [owns]
  cases ownerOf fields fieldId with
  | error _ => simp [Except.toOption]
  | ok owner => simp [Except.toOption]

theorem ownerOf_eq_ok_iff :
    ownerOf fields fieldId = .ok groupId ↔
      ∃ field, fields.get? fieldId = some field ∧ field.id = fieldId ∧ field.groupId = groupId := by
  rw [ownerOf]
  cases fields.get? fieldId with
  | none => simp
  | some field => by_cases h : field.id = fieldId <;> simp [h]

/-! ## Shares -/

theorem get?_share (probe : String) :
    (share fields patch groupId).get? probe =
      if owns fields groupId probe then patch.get? probe else none :=
  TextMap.get?_filterKeys _ _ _

/-- A share holds the values of the patch for the fields that the group owns. -/
theorem get?_share_eq_some_iff {value : Json.Value} :
    (share fields patch groupId).get? fieldId = some value ↔
      patch.get? fieldId = some value ∧ ownerOf fields fieldId = .ok groupId := by
  rw [get?_share, ← owns_iff]
  by_cases h : owns fields groupId fieldId <;> simp [h]

/-! ## Owners -/

theorem mem_owners_iff :
    groupId ∈ owners fields patch ↔
      ∃ fieldId ∈ patch.keys, ownerOf fields fieldId = .ok groupId := by
  rw [owners, (List.mergeSort_perm ..).mem_iff, List.mem_dedup, List.mem_filterMap]
  refine exists_congr fun fieldId => and_congr_right fun _ => ?_
  rw [← owns_iff, owns, beq_iff_eq]

theorem nodup_owners (fields : TextMap Field) (patch : Values) : (owners fields patch).Nodup :=
  (List.mergeSort_perm ..).nodup_iff.2 (List.nodup_dedup _)

theorem pairwise_mergeSort_le (texts : List String) :
    (texts.mergeSort (· ≤ ·)).Pairwise fun a b => decide (a ≤ b) = true := by
  refine List.pairwise_mergeSort (fun a b c hab hbc => ?_) (fun a b => ?_) texts
  · exact decide_eq_true (String.le_trans (of_decide_eq_true hab) (of_decide_eq_true hbc))
  · rcases String.le_total a b with h | h
    · rw [decide_eq_true h, Bool.true_or]
    · rw [decide_eq_true h, Bool.or_true]

/-- Owners ascend strictly. -/
theorem pairwise_owners (fields : TextMap Field) (patch : Values) :
    (owners fields patch).Pairwise (· < ·) := by
  refine ((pairwise_mergeSort_le _).and (nodup_owners fields patch)).imp fun {a b} h => ?_
  exact Entries.lt_of_not_lt_of_ne (String.not_lt.2 (of_decide_eq_true h.1)) h.2.symm

/-! ## Buckets -/

namespace GroupedValues

/-- The values filed under a group. -/
def bucket (grouped : GroupedValues) (groupId : String) : Values :=
  (grouped.get? groupId).getD .empty

theorem fileOwned_eq (fields : TextMap Field) (grouped : GroupedValues)
    (entry : String × Json.Value) :
    grouped.fileOwned fields entry =
      (ownerOf fields entry.1).map fun owner => grouped.file owner entry.1 entry.2 := by
  rw [fileOwned, ownerOf]
  cases fields.get? entry.1 with
  | none => rfl
  | some field => by_cases h : field.id = entry.1 <;> simp [h, Except.map]

theorem get?_file (grouped : GroupedValues) (owner : String) (value : Json.Value) :
    (grouped.file owner fieldId value).get? groupId =
      if owner = groupId then some ((grouped.bucket groupId).insert fieldId value)
      else grouped.get? groupId := by
  rw [file, TextMap.get?_insert]
  by_cases h : owner = groupId
  · subst h
    rfl
  · rw [if_neg h, if_neg h]

/-- Filing values one after the other lays, for every group, the values that it owns over those
already there; a group that owns none of them is left as it is. -/
theorem get?_foldl_file {entries : List (String × Json.Value)} {owners : List String}
    (h : Passes (fun entry => ownerOf fields entry.1) entries owners) (grouped : GroupedValues) :
    ((entries.zip owners).foldl (fun grouped pair => grouped.file pair.2 pair.1.1 pair.1.2)
        grouped).get? groupId =
      if (entries.filter fun entry => owns fields groupId entry.1).isEmpty then grouped.get? groupId
      else
        some ((entries.filter fun entry => owns fields groupId entry.1).foldl
          (fun filed entry => filed.insert entry.1 entry.2) (grouped.bucket groupId)) := by
  induction h generalizing grouped with
  | nil => rfl
  | @cons entry rest owner _ hentry _ ih =>
    rw [List.zip_cons_cons, List.foldl_cons, ih, bucket, get?_file]
    by_cases howner : owner = groupId
    · have howns : owns fields groupId entry.1 = true := owns_iff.2 (howner ▸ hentry)
      rw [List.filter_cons_of_pos (by exact howns), if_pos howner]
      cases rest.filter fun entry => owns fields groupId entry.1 <;> rfl
    · have howns : ¬ owns fields groupId entry.1 = true := fun howns =>
        howner (Except.ok.inj (hentry.symm.trans (owns_iff.1 howns)))
      rw [List.filter_cons_of_neg (by exact howns), if_neg howner]
      rfl

end GroupedValues

/-! ## Grouping -/

/-- A group owns a field of a patch if its share is not empty. -/
theorem isEmpty_share_eq_false_iff :
    (share fields patch groupId).isEmpty = false ↔ groupId ∈ owners fields patch := by
  rw [mem_owners_iff, TextMap.isEmpty, List.isEmpty_eq_false_iff_exists_mem]
  constructor
  · rintro ⟨⟨fieldId, value⟩, hmem⟩
    obtain ⟨hvalue, howner⟩ := get?_share_eq_some_iff.1 (TextMap.mem_entries_iff.1 hmem)
    exact ⟨fieldId, List.mem_map.2 ⟨_, TextMap.mem_entries_iff.2 hvalue, rfl⟩, howner⟩
  · rintro ⟨fieldId, hmem, howner⟩
    obtain ⟨⟨_, value⟩, hentry, rfl⟩ := List.mem_map.1 hmem
    exact ⟨(_, value), TextMap.mem_entries_iff.2
      (get?_share_eq_some_iff.2 ⟨TextMap.mem_entries_iff.1 hentry, howner⟩)⟩

/-- Laid over nothing, a map stays as it is. -/
theorem TextMap.overlay_empty {β : Type} (map : TextMap β) : TextMap.empty.overlay map = map :=
  TextMap.ext_get? fun key => by rw [TextMap.get?_overlay, TextMap.get?_empty, Option.or_none]

/-- Looking up what ids are paired with. -/
theorem get?_map_pair {β : Type} (f : String → β) (ids : List String) (probe : String) :
    Entries.get? probe (ids.map fun id => (id, f id)) =
      if probe ∈ ids then some (f probe) else none := by
  induction ids with
  | nil => rfl
  | cons id rest ih =>
    rw [List.map_cons, Entries.get?, ih]
    by_cases h : id = probe
    · simp [h]
    · simp [h, Ne.symm h]

/-- **Where every field has an owner, every owner gets its share**, owners ascending. -/
theorem groupByOwner_of_owned
    (owned : ∀ fieldId ∈ patch.keys, ∃ owner, ownerOf fields fieldId = .ok owner) :
    ∃ grouped, groupByOwner patch fields = .ok grouped ∧
      grouped.entries = shares fields patch := by
  obtain ⟨found, hfound⟩ := exists_passes owned
  have h := passes_map_iff.1 hfound
  refine ⟨(patch.entries.zip found).foldl
    (fun grouped pair => grouped.file pair.2 pair.1.1 pair.1.2) .empty, ?_, ?_⟩
  · rw [groupByOwner, funext₂ (GroupedValues.fileOwned_eq fields)]
    exact foldlM_of_passes h _
  · refine Entries.eq_of_get?_eq (TextMap.ascending _) ?_ fun probe => ?_
    · exact List.pairwise_map.2 (pairwise_owners fields patch)
    · refine (GroupedValues.get?_foldl_file h .empty).trans ?_
      have split : (patch.entries.filter fun entry => owns fields probe entry.1).isEmpty = true ↔
          ¬ probe ∈ owners fields patch := by
        rw [← isEmpty_share_eq_false_iff, Bool.not_eq_false]
        rfl
      rw [shares, get?_map_pair]
      by_cases hmem : probe ∈ owners fields patch
      · rw [if_pos hmem, if_neg fun hempty => split.1 hempty hmem]
        exact congrArg some (TextMap.overlay_empty (share fields patch probe))
      · rw [if_neg hmem, if_pos (split.2 hmem)]
        rfl

/-- **The smallest field without an owner decides the error.** -/
theorem groupByOwner_of_stopsAt {passed : List String} {error : PatchError}
    (h : StopsAt (ownerOf fields) patch.keys passed fieldId error) :
    groupByOwner patch fields = .error error := by
  obtain ⟨_, _, -, -, h⟩ := h.exists_of_map
  rw [groupByOwner, funext₂ (GroupedValues.fileOwned_eq fields)]
  exact foldlM_of_stopsAt h _

/-- What a patch was split into. -/
theorem owned_of_groupByOwner {grouped : GroupedValues}
    (h : groupByOwner patch fields = .ok grouped) :
    (∀ fieldId ∈ patch.keys, ∃ owner, ownerOf fields fieldId = .ok owner) ∧
      grouped.entries = shares fields patch := by
  rcases passes_or_stopsAt (ownerOf fields) patch.keys with ⟨_, pass⟩ | ⟨_, _, _, stop⟩
  · have owned : ∀ fieldId ∈ patch.keys, ∃ owner, ownerOf fields fieldId = .ok owner :=
      fun fieldId hmem => (pass.exists_of_mem hmem).imp fun _ found => found.2
    obtain ⟨grouped', split, entries⟩ := groupByOwner_of_owned owned
    obtain rfl := Except.ok.inj (split.symm.trans h)
    exact ⟨owned, entries⟩
  · exact nomatch h.symm.trans (groupByOwner_of_stopsAt stop)

end PropertyGate
