import PropertyGate.Proofs.Property.Filing
import PropertyGate.Proofs.Store.History

/-!
# Proofs/Store/Committing — which patches are stored, and what becomes of the others

A patch is stored if every field stands under the key of the group that owns it, whatever the groups
under the keys are.  Then no field stands under two keys, so that flattening takes nothing together
(`size_flatten`).  Otherwise **the first field that stands in the wrong place decides**, by key and
then by field (`FirstMisplaced`), and nothing is stored (`commit_just_if_well_placed`).
-/

namespace PropertyGate

/-- **The patch has a value for a field under a key.** -/
def PatchResult.Places (patch : PatchResult) (key fieldId : String) : Prop :=
  ∃ part, patch.get? key = some part ∧ fieldId ∈ part.values.keys

/-- A field is declared, and its owner is the group of the id. -/
def Definitions.OwnedBy (definitions : Definitions) (fieldId groupId : String) : Prop :=
  ∃ field, definitions.field? fieldId = some field ∧ field.groupId = groupId

/-- **The first field in the wrong place**, by key and then by field: whatever stands before it
stands under the key of its owner. -/
structure FirstMisplaced (definitions : Definitions) (patch : PatchResult) (key fieldId : String) :
    Prop where
  placed : patch.Places key fieldId
  misplaced : ¬ definitions.OwnedBy fieldId key
  first : ∀ {key' fieldId'}, patch.Places key' fieldId' →
    key' < key ∨ key' = key ∧ fieldId' < fieldId → definitions.OwnedBy fieldId' key'

namespace Store

variable {definitions : Definitions} {store stored : Store} {patch : PatchResult}
  {target key key' fieldId : String} {error : StoreError}

/-! ## What keeps a patch from being stored -/

/-- What keeps a field from being stored under a key: it is not declared, or it has another owner.
-/
theorem fieldError?_eq_some_iff :
    fieldError? definitions key fieldId = some error ↔
      ¬ definitions.OwnedBy fieldId key ∧
        (definitions.field? fieldId = none ∧ error = .undeclared fieldId ∨
          ∃ field, definitions.field? fieldId = some field ∧
            error = .misfiled fieldId field.groupId key) := by
  rw [fieldError?, Definitions.OwnedBy]
  cases definitions.field? fieldId with
  | none => simpa using eq_comm
  | some field =>
    by_cases owner : field.groupId = key
    · simp [owner]
    · simpa [owner] using eq_comm

theorem patchError?_eq_none_iff_ownedBy :
    patchError? definitions patch = none ↔
      ∀ key fieldId, patch.Places key fieldId → definitions.OwnedBy fieldId key := by
  rw [patchError?_eq_none_iff]
  constructor
  · rintro storable key fieldId ⟨part, found, mem⟩
    exact fieldError?_eq_none_iff.1
      (storable (key, part) (TextMap.mem_entries_iff.2 found) fieldId mem)
  · rintro owned ⟨key, part⟩ listed fieldId mem
    have places : patch.Places key fieldId := ⟨part, TextMap.mem_entries_iff.1 listed, mem⟩
    exact fieldError?_eq_none_iff.2 (owned key fieldId places)

/-- **The first field in the wrong place keeps a patch from being stored.** -/
theorem patchError?_eq_some_iff :
    patchError? definitions patch = some error ↔
      ∃ key fieldId, FirstMisplaced definitions patch key fieldId ∧
        fieldError? definitions key fieldId = some error := by
  -- Keys ascend, and so do the fields under each: either search finds the smallest that fails.
  have first_entry : patchError? definitions patch = some error ↔
      ∃ entry ∈ patch.toList,
        entry.2.values.keys.findSome? (fieldError? definitions entry.1) = some error ∧
          ∀ other ∈ patch.toList, other.1 < entry.1 →
            other.2.values.keys.findSome? (fieldError? definitions other.1) = none :=
    findSome?_eq_some_iff_smallest Prod.fst patch.groups.ascending
  have first_field (entry : String × GroupPatch) :
      entry.2.values.keys.findSome? (fieldError? definitions entry.1) = some error ↔
        ∃ fieldId ∈ entry.2.values.keys, fieldError? definitions entry.1 fieldId = some error ∧
          ∀ other ∈ entry.2.values.keys, other < fieldId →
            fieldError? definitions entry.1 other = none :=
    findSome?_eq_some_iff_smallest id (TextMap.pairwise_keys _)
  rw [first_entry]
  simp only [first_field, List.findSome?_eq_none_iff]
  constructor
  · rintro ⟨⟨key, part⟩, listed, ⟨fieldId, mem, refused, below⟩, earlier⟩
    have found : patch.get? key = some part := TextMap.mem_entries_iff.1 listed
    refine ⟨key, fieldId, ⟨⟨part, found, mem⟩, (fieldError?_eq_some_iff.1 refused).1, ?_⟩, refused⟩
    rintro key' fieldId' ⟨part', found', mem'⟩ (less | ⟨rfl, less⟩)
    · exact fieldError?_eq_none_iff.1
        (earlier (key', part') (TextMap.mem_entries_iff.2 found') less fieldId' mem')
    · obtain rfl : part = part' := Option.some.inj (found.symm.trans found')
      exact fieldError?_eq_none_iff.1 (below fieldId' mem' less)
  · rintro ⟨key, fieldId, ⟨⟨part, found, mem⟩, -, first⟩, refused⟩
    refine ⟨(key, part), TextMap.mem_entries_iff.2 found, ⟨fieldId, mem, refused, ?_⟩, ?_⟩
    · exact fun other mem' less =>
        fieldError?_eq_none_iff.2 (first ⟨part, found, mem'⟩ (.inr ⟨rfl, less⟩))
    · rintro ⟨key', part'⟩ listed' less other mem'
      exact fieldError?_eq_none_iff.2
        (first ⟨part', TextMap.mem_entries_iff.1 listed', mem'⟩ (.inl less))

/-- A commit fails just for what keeps the patch from being stored. -/
theorem commit_eq_error_iff_patchError? :
    commit definitions store target patch = .error error ↔
      patchError? definitions patch = some error := by
  rw [commit]
  cases patchError? definitions patch with
  | some error => simp
  | none => by_cases nothing : patch.fieldCount = 0 <;> simp [nothing]

/-! ## Patches that can be stored -/

/-- **Where every field stands under the key of its owner, it stands under one key only.** -/
theorem eq_of_places (storable : patchError? definitions patch = none)
    (places : patch.Places key fieldId) (places' : patch.Places key' fieldId) : key = key' := by
  have owned := patchError?_eq_none_iff_ownedBy.1 storable
  obtain ⟨field, declared, rfl⟩ := owned _ _ places
  obtain ⟨field', declared', rfl⟩ := owned _ _ places'
  rw [Option.some.inj (declared.symm.trans declared')]

/-- No two keys share a field. -/
theorem pairwise_disjoint (storable : patchError? definitions patch = none) :
    patch.toList.Pairwise fun entry other =>
      entry.2.values.keys.Disjoint other.2.values.keys := by
  refine patch.groups.ascending.imp_of_mem ?_
  rintro ⟨key, part⟩ ⟨key', part'⟩ listed listed' less fieldId mem mem'
  have same : key = key' := eq_of_places storable ⟨part, TextMap.mem_entries_iff.1 listed, mem⟩
    ⟨part', TextMap.mem_entries_iff.1 listed', mem'⟩
  exact String.lt_irrefl key (same ▸ less)

/-- **Flattening takes nothing together.** -/
theorem size_flatten (storable : patchError? definitions patch = none) :
    patch.flatten.size = patch.fieldCount :=
  PatchResult.size_flatten_eq_iff.2 (pairwise_disjoint storable)

/-- A post has an entry if it had one, or if something is laid over its values. -/
theorem contains_targets_lay_iff (store : Store) (target : String) (values : Values) :
    (store.lay target values).targets.contains target ↔
      store.targets.contains target ∨ values ≠ .empty := by
  rw [lay]
  split
  · rename_i nothing
    simp [isEmpty_iff_eq_empty.1 nothing]
  · rename_i something
    rw [isEmpty_iff_eq_empty] at something
    simp [write, TextMap.contains, something]

/-! ## Just the well-placed patches are stored -/

/-- **A patch is stored just if every field stands under the key of its owner**, and then whole:

* otherwise the first field in the wrong place decides the error, as one that is not declared or as
  one of its true owner, and nothing is stored;
* what is stored has every field under one key, so that the flattened patch holds each of its values
  and no other, and has as many as were counted;
* they are laid over the values of the post; other posts stay as they are, and the post has an entry
  only if it had one or there is a value to store. -/
theorem commit_just_if_well_placed (definitions : Definitions) (store : Store) (target : String)
    (patch : PatchResult) :
    ((∃ stored, commit definitions store target patch = .ok stored) ↔
      ∀ key fieldId, patch.Places key fieldId → definitions.OwnedBy fieldId key) ∧
    (∀ error, commit definitions store target patch = .error error ↔
      ∃ key fieldId, FirstMisplaced definitions patch key fieldId ∧
        (definitions.field? fieldId = none ∧ error = .undeclared fieldId ∨
          ∃ field, definitions.field? fieldId = some field ∧
            error = .misfiled fieldId field.groupId key)) ∧
    (∀ error, commit definitions store target patch = .error error →
      Archive.step ⟨definitions, store⟩ (.commit target patch) = ⟨definitions, store⟩) ∧
    ∀ stored, commit definitions store target patch = .ok stored →
      Archive.step ⟨definitions, store⟩ (.commit target patch) = ⟨definitions, stored⟩ ∧
      (∀ key key' fieldId, patch.Places key fieldId → patch.Places key' fieldId → key = key') ∧
      patch.flatten.size = patch.fieldCount ∧
      (∀ fieldId value, patch.flatten.get? fieldId = some value ↔ patch.Holds fieldId value) ∧
      stored.values target = (store.values target).overlay patch.flatten ∧
      (∀ other, other ≠ target → stored.targets.get? other = store.targets.get? other) ∧
      (stored.targets.contains target ↔
        store.targets.contains target ∨ patch.flatten ≠ .empty) := by
  refine ⟨?_, fun error => ?_, fun error failure => ?_, fun stored success => ?_⟩
  · simp only [commit_eq_ok_iff, exists_and_left, exists_eq, and_true,
      patchError?_eq_none_iff_ownedBy]
  · rw [commit_eq_error_iff_patchError?, patchError?_eq_some_iff]
    refine exists₂_congr fun key fieldId => and_congr_right fun first => ?_
    exact fieldError?_eq_some_iff.trans (and_iff_right first.misplaced)
  · rw [Archive.step, failure]
  · obtain ⟨storable, -⟩ := commit_eq_ok_iff.1 success
    obtain rfl : store.lay target patch.flatten = stored :=
      Except.ok.inj ((commit_of_storable storable).symm.trans success)
    refine ⟨by rw [Archive.step, success], fun _ _ _ => eq_of_places storable,
      size_flatten storable, fun _ _ => get?_flatten_eq_some_iff storable, values_lay_self,
      fun other different => get?_targets_lay_of_ne different, contains_targets_lay_iff ..⟩

/-- Two fields of the group `g`, and one of the group `h`. -/
def threeFields : Definitions :=
  .ofDeclarations [.group ⟨"g", "flags"⟩, .group ⟨"h", "review"⟩, .field ⟨"a", "g", none⟩,
    .field ⟨"b", "g", none⟩, .field ⟨"c", "h", none⟩]

/-- A patch with null values for some fields under either key; the groups under the keys are others.
-/
def patchUnder (fieldIds fieldIds' : List String) : PatchResult :=
  ⟨.ofList [("h", ⟨⟨"i", "other"⟩, .ofList (fieldIds'.map (·, .null))⟩),
    ("g", ⟨⟨"i", "other"⟩, .ofList (fieldIds.map (·, .null))⟩)]⟩

/-- Fields under the keys of their owners are stored, all three of them.  Of two fields that are
exchanged and one that is not declared, the first decides. -/
theorem threeFields_stored_if_well_placed :
    let placed := patchUnder ["a", "b"] ["c"]
    let crossed := patchUnder ["c", "a"] ["b", "ghost"]
    (∃ stored, commit threeFields .empty "p1" placed = .ok stored ∧ placed.flatten.size = 3 ∧
      stored.values "p1" = placed.flatten ∧ stored.targets.get? "p2" = none) ∧
    commit threeFields .empty "p1" crossed = .error (.misfiled "c" "h" "g") ∧
    FirstMisplaced threeFields crossed "g" "c" := by
  intro placed crossed
  have success : ∃ stored, commit threeFields .empty "p1" placed = .ok stored := ⟨_, rfl⟩
  have failure : commit threeFields .empty "p1" crossed = .error (.misfiled "c" "h" "g") := rfl
  refine ⟨?_, failure, ?_⟩
  · obtain ⟨stored, success⟩ := success
    obtain ⟨-, -, size, -, values, others, -⟩ :=
      (commit_just_if_well_placed threeFields .empty "p1" placed).2.2.2 stored success
    exact ⟨stored, success, size, values, others "p2" (by decide)⟩
  · obtain ⟨key, fieldId, first, ⟨-, other⟩ | ⟨field, -, same⟩⟩ :=
      ((commit_just_if_well_placed threeFields .empty "p1" crossed).2.1 _).1 failure
    · cases other
    · obtain ⟨rfl, -, rfl⟩ := StoreError.misfiled.inj same
      exact first

end Store

end PropertyGate
