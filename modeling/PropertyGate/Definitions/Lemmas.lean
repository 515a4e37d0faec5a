import PropertyGate.Definitions.Basic
import PropertyGate.TextMap.Lemmas

/-!
# Definitions/Lemmas — what declaring does

A declaration succeeds exactly when its id is new and, for a field, its group is declared.
**What is declared stays as it is**: later declarations add to it and change nothing.
-/

namespace PropertyGate.Definitions

variable {definitions declared : Definitions}

theorem declareGroup_eq_ok_iff {group : Group} :
    definitions.declareGroup group = .ok declared ↔
      definitions.groups.get? group.id = none ∧
        declared = { definitions with groups := definitions.groups.insert group.id group } := by
  rw [declareGroup, TextMap.contains]
  cases definitions.groups.get? group.id <;> simp [eq_comm]

theorem declareField_eq_ok_iff {field : Field} :
    definitions.declareField field = .ok declared ↔
      definitions.fields.get? field.id = none ∧ definitions.groups.contains field.groupId ∧
        declared = { definitions with fields := definitions.fields.insert field.id field } := by
  rw [declareField, TextMap.contains]
  cases definitions.fields.get? field.id with
  | some known => simp
  | none => cases definitions.groups.contains field.groupId <;> simp [eq_comm]

theorem declareGroup_eq_error_iff {group : Group} {error : DeclarationError} :
    definitions.declareGroup group = .error error ↔
      definitions.groups.contains group.id ∧ error = .duplicateGroup group.id := by
  rw [declareGroup]
  cases definitions.groups.contains group.id <;> simp [eq_comm]

/-- A repeated id is reported whether or not the group is known. -/
theorem declareField_eq_error_iff {field : Field} {error : DeclarationError} :
    definitions.declareField field = .error error ↔
      definitions.fields.contains field.id ∧ error = .duplicateField field.id ∨
        ¬ definitions.fields.contains field.id ∧ ¬ definitions.groups.contains field.groupId ∧
          error = .unknownGroup field.id field.groupId := by
  rw [declareField]
  cases definitions.fields.contains field.id with
  | true => simpa using eq_comm
  | false =>
    cases definitions.groups.contains field.groupId with
    | true => simp
    | false => simpa using eq_comm

/-- A declared group stays when another is declared. -/
theorem get?_groups_declareGroup {group known : Group} {id : String}
    (h : definitions.declareGroup group = .ok declared)
    (found : definitions.groups.get? id = some known) : declared.groups.get? id = some known := by
  obtain ⟨new, rfl⟩ := declareGroup_eq_ok_iff.1 h
  rw [TextMap.get?_insert_of_ne _ _ fun same => by rw [same, found] at new; cases new]
  exact found

/-- A declared field stays when another is declared. -/
theorem field?_declareField {field known : Field} {id : String}
    (h : definitions.declareField field = .ok declared)
    (found : definitions.field? id = some known) : declared.field? id = some known := by
  obtain ⟨new, -, rfl⟩ := declareField_eq_ok_iff.1 h
  rw [field?, TextMap.get?_insert_of_ne _ _ fun same => by
    rw [field?, ← same, new] at found; cases found]
  exact found

end PropertyGate.Definitions
