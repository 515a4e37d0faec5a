import PropertyGate.Definitions.Lemmas
import PropertyGate.Patch.Pipeline
import PropertyGate.Proofs.Patch.Grouping
import PropertyGate.Proofs.Property.Flatten

/-!
# Proofs/Definitions/Ownership — which group owns a declared field

Where declarations answer for themselves, the share of a patch that grouping gives to a group is the
part that is declared for it (`share_lookupFields`).  **Declarations only grow** (`Extends`), so the
group that owns a field owns it for good.
-/

namespace PropertyGate

/-! ## The part of a patch that is a group's -/

namespace Definitions

/-- **The part of a patch that is declared for a group.** -/
def portion (definitions : Definitions) (groupId : String) (patch : Values) : Values :=
  patch.filterKeys fun fieldId =>
    (definitions.field? fieldId).any fun field => field.groupId == groupId

variable {definitions : Definitions} {patch : Values} {groupId fieldId : String}

theorem mem_lookupFields {fieldIds : List String} {entry : String × Field} :
    entry ∈ (fieldIds.filterMap fun id => (definitions.field? id).map (id, ·)).reverse ↔
      entry.1 ∈ fieldIds ∧ definitions.field? entry.1 = some entry.2 := by
  obtain ⟨id, field⟩ := entry
  rw [List.mem_reverse, List.mem_filterMap]
  constructor
  · rintro ⟨_, hmem, h⟩
    obtain ⟨_, found, same⟩ := Option.map_eq_some_iff.1 h
    obtain ⟨rfl, rfl⟩ := Prod.mk.inj same
    exact ⟨hmem, found⟩
  · rintro ⟨hmem, found⟩
    exact ⟨id, hmem, Option.map_eq_some_iff.2 ⟨field, found, rfl⟩⟩

/-- The declarations answer for themselves. -/
theorem get?_lookupFields {fieldIds : List String} (h : fieldId ∈ fieldIds) :
    (definitions.lookupFields fieldIds).get? fieldId = definitions.field? fieldId := by
  rw [lookupFields, TextMap.get?_ofList]
  cases found : definitions.field? fieldId with
  | none =>
    refine Option.eq_none_iff_forall_ne_some.2 fun field listed => ?_
    have declared := (mem_lookupFields.1 (Entries.mem_of_get? listed)).2
    rw [found] at declared
    cases declared
  | some field =>
    have hmem : (fieldId, field) ∈
        (fieldIds.filterMap fun id => (definitions.field? id).map (id, ·)).reverse :=
      mem_lookupFields.2 ⟨h, found⟩
    obtain ⟨listed, hlisted⟩ := Entries.exists_get?_of_mem hmem
    have declared := (mem_lookupFields.1 (Entries.mem_of_get? hlisted)).2
    rw [found] at declared
    rw [hlisted, declared]

theorem lookupGroup_eq_ok_iff {group : Group} :
    definitions.lookupGroup groupId = .ok group ↔ definitions.groups.get? groupId = some group := by
  rw [lookupGroup]
  cases definitions.groups.get? groupId <;> simp

/-- **Of a patch whose fields all have owners, the share of a group is its portion.** -/
theorem share_lookupFields (groupId : String)
    (owned : ∀ fieldId ∈ patch.keys, ∃ owner,
      ownerOf (definitions.lookupFields patch.keys) fieldId = .ok owner) :
    share (definitions.lookupFields patch.keys) patch groupId =
      definitions.portion groupId patch := by
  refine TextMap.ext_get? fun fieldId => ?_
  rw [get?_share, portion, TextMap.get?_filterKeys]
  cases submitted : patch.get? fieldId with
  | none => rw [ite_self, ite_self]
  | some value =>
    have hmem : fieldId ∈ patch.keys := List.mem_map.2 ⟨_, TextMap.mem_entries_iff.2 submitted, rfl⟩
    obtain ⟨owner, howner⟩ := owned fieldId hmem
    obtain ⟨field, found, -, rfl⟩ := ownerOf_eq_ok_iff.1 howner
    rw [get?_lookupFields hmem] at found
    have same : owns (definitions.lookupFields patch.keys) groupId fieldId =
        (field.groupId == groupId) := by
      rw [owns, howner]
      rfl
    rw [same, found, Option.any_some]

/-! ## Declarations only grow -/

/-- **What is declared earlier is declared later**, and as it was. -/
structure Extends (earlier later : Definitions) : Prop where
  group : ∀ {id group}, earlier.groups.get? id = some group → later.groups.get? id = some group
  field : ∀ {id field}, earlier.field? id = some field → later.field? id = some field

theorem Extends.refl (definitions : Definitions) : definitions.Extends definitions := ⟨id, id⟩

/-- **The field is declared, and for the group**, which is declared under its own id. -/
def Owns (definitions : Definitions) (group : Group) (fieldId : String) : Prop :=
  ∃ field, definitions.field? fieldId = some field ∧
    definitions.groups.get? field.groupId = some group ∧ group.id = field.groupId

theorem Extends.owns {earlier later : Definitions} (h : earlier.Extends later) {group : Group}
    (owner : earlier.Owns group fieldId) : later.Owns group fieldId := by
  obtain ⟨field, declared, known, same⟩ := owner
  exact ⟨field, h.field declared, h.group known, same⟩

theorem extends_declareGroup {declared : Definitions} {group : Group}
    (h : definitions.declareGroup group = .ok declared) : definitions.Extends declared := by
  refine ⟨get?_groups_declareGroup h, fun found => ?_⟩
  obtain ⟨-, rfl⟩ := declareGroup_eq_ok_iff.1 h
  exact found

theorem extends_declareField {declared : Definitions} {field : Field}
    (h : definitions.declareField field = .ok declared) : definitions.Extends declared := by
  refine ⟨fun found => ?_, field?_declareField h⟩
  obtain ⟨-, -, rfl⟩ := declareField_eq_ok_iff.1 h
  exact found

end Definitions

end PropertyGate
