import PropertyGate.Proofs.Definitions.Ownership

/-!
# Proofs/Definitions/WellFormed — what holds of everything that was ever declared

Definitions come about by declaring groups and fields one by one, and a declaration that is refused
changes nothing (`declare`).  However they came about, every group and every field is filed under
its own id, and the group of every field is declared (`wellFormed_ofDeclarations`).  Hence **a
declared field has an owner that answers to its id** (`WellFormed.exists_group`), and looking fields
up among the declarations finds the owner that is declared (`ownerOf_lookupFields`).
-/

namespace PropertyGate

/-- A group or a field to be declared. -/
inductive Declaration where
  | group (group : Group)
  | field (field : Field)
deriving DecidableEq, Repr

namespace Definitions

variable {definitions : Definitions} {patch : Values} {groupId fieldId : String}

/-- The definitions after a declaration; if it is refused they stay as they are. -/
def declare (definitions : Definitions) : Declaration → Definitions
  | .group group => (definitions.declareGroup group).toOption.getD definitions
  | .field field => (definitions.declareField field).toOption.getD definitions

/-- What comes of some declarations, one after the other. -/
def ofDeclarations (declarations : List Declaration) : Definitions :=
  declarations.foldl declare empty

/-- **Everything is filed under its own id, and the group of every field is declared.** -/
structure WellFormed (definitions : Definitions) : Prop where
  group : ∀ {id group}, definitions.groups.get? id = some group → group.id = id
  field : ∀ {id field}, definitions.field? id = some field → field.id = id
  owner : ∀ {id field}, definitions.field? id = some field →
    ∃ group, definitions.groups.get? field.groupId = some group

/-! ## Declaring -/

theorem wellFormed_empty : empty.WellFormed where
  group found := by cases found
  field found := by cases found
  owner found := by cases found

theorem WellFormed.declareGroup {declared : Definitions} {group : Group} (h : definitions.WellFormed)
    (success : definitions.declareGroup group = .ok declared) : declared.WellFormed := by
  have grown := extends_declareGroup success
  obtain ⟨-, rfl⟩ := declareGroup_eq_ok_iff.1 success
  refine ⟨fun {id} known found => ?_, h.field, fun found => ?_⟩
  · rw [TextMap.get?_insert] at found
    split at found
    · cases found
      assumption
    · exact h.group found
  · obtain ⟨owner, known⟩ := h.owner found
    exact ⟨owner, grown.group known⟩

theorem WellFormed.declareField {declared : Definitions} {field : Field} (h : definitions.WellFormed)
    (success : definitions.declareField field = .ok declared) : declared.WellFormed := by
  obtain ⟨-, known, rfl⟩ := declareField_eq_ok_iff.1 success
  refine ⟨h.group, fun {id} declared found => ?_, fun {id} declared found => ?_⟩
  · rw [field?, TextMap.get?_insert] at found
    split at found
    · cases found
      assumption
    · exact h.field found
  · rw [field?, TextMap.get?_insert] at found
    split at found
    · cases found
      exact Option.isSome_iff_exists.1 known
    · exact h.owner found

/-- A declaration succeeds or changes nothing. -/
theorem declare_cases (definitions : Definitions) (declaration : Declaration) :
    definitions.declare declaration = definitions ∨
      (∃ group, definitions.declareGroup group = .ok (definitions.declare declaration)) ∨
      ∃ field, definitions.declareField field = .ok (definitions.declare declaration) := by
  cases declaration with
  | group group =>
    rw [declare]
    cases success : definitions.declareGroup group with
    | error error => exact .inl rfl
    | ok declared => exact .inr (.inl ⟨group, success⟩)
  | field field =>
    rw [declare]
    cases success : definitions.declareField field with
    | error error => exact .inl rfl
    | ok declared => exact .inr (.inr ⟨field, success⟩)

theorem WellFormed.declare (h : definitions.WellFormed) (declaration : Declaration) :
    (definitions.declare declaration).WellFormed := by
  rcases definitions.declare_cases declaration with same | ⟨group, success⟩ | ⟨field, success⟩
  · exact same.symm ▸ h
  · exact h.declareGroup success
  · exact h.declareField success

/-- **No declaration takes anything back**, be it refused or not. -/
theorem extends_declare (definitions : Definitions) (declaration : Declaration) :
    definitions.Extends (definitions.declare declaration) := by
  rcases definitions.declare_cases declaration with same | ⟨group, success⟩ | ⟨field, success⟩
  · rw [same]
    exact .refl _
  · exact extends_declareGroup success
  · exact extends_declareField success

theorem Extends.trans {first second third : Definitions} (h : first.Extends second)
    (h' : second.Extends third) : first.Extends third :=
  ⟨fun found => h'.group (h.group found), fun found => h'.field (h.field found)⟩

theorem WellFormed.foldl_declare (h : definitions.WellFormed) (declarations : List Declaration) :
    (declarations.foldl Definitions.declare definitions).WellFormed := by
  induction declarations generalizing definitions with
  | nil => exact h
  | cons declaration rest ih => exact ih (h.declare declaration)

/-- **Whatever is declared, in whatever order, and however often it is refused.** -/
theorem wellFormed_ofDeclarations (declarations : List Declaration) :
    (ofDeclarations declarations).WellFormed := wellFormed_empty.foldl_declare declarations

/-! ## Who owns what -/

/-- **A declared field has an owner that answers to its id.** -/
theorem WellFormed.exists_group {field : Field} (h : definitions.WellFormed)
    (found : definitions.field? fieldId = some field) :
    ∃ group, definitions.groups.get? field.groupId = some group ∧ group.id = field.groupId := by
  obtain ⟨group, known⟩ := h.owner found
  exact ⟨group, known, h.group known⟩

/-- Of the fields of a patch, those have an owner that have one among all declared fields. -/
theorem ownerOf_lookupFields (h : fieldId ∈ patch.keys) :
    ownerOf (definitions.lookupFields patch.keys) fieldId = ownerOf definitions.fields fieldId := by
  rw [ownerOf, get?_lookupFields h]
  rfl

/-- **The owner of a declared field is the group that it is declared for.** -/
theorem WellFormed.ownerOf_fields (h : definitions.WellFormed) (fieldId : String) :
    ownerOf definitions.fields fieldId =
      match definitions.field? fieldId with
      | none => .error (.unknownField fieldId)
      | some field => .ok field.groupId := by
  rw [ownerOf]
  change (match definitions.field? fieldId with | none => _ | some field => _) = _
  cases found : definitions.field? fieldId with
  | none => rfl
  | some field => exact if_pos (h.field found)

theorem WellFormed.ownerOf_eq_ok_iff (h : definitions.WellFormed) :
    ownerOf definitions.fields fieldId = .ok groupId ↔
      ∃ field, definitions.field? fieldId = some field ∧ field.groupId = groupId := by
  rw [h.ownerOf_fields]
  cases definitions.field? fieldId <;> simp

end Definitions

end PropertyGate
