import PropertyGate.Patch.Error
import PropertyGate.Property.Basic

/-!
# Patch/Grouping — a patch split by the owners of its fields

The fields of a patch are taken in ascending order; the first that has no declaration, or a
declaration of another field, decides the error. Declarations of fields outside the patch play no
part.
-/

namespace PropertyGate

/-- The values of each group, by group id. -/
abbrev GroupedValues := TextMap Values

namespace GroupedValues

/-- Files one value under the group that owns its field. -/
def file (grouped : GroupedValues) (groupId fieldId : String) (value : Json.Value) :
    GroupedValues :=
  grouped.insert groupId (((grouped.get? groupId).getD .empty).insert fieldId value)

/-- Files the value of one field, whose declaration must be its own. -/
def fileOwned (fields : TextMap Field) (grouped : GroupedValues) (entry : String × Json.Value) :
    Except PatchError GroupedValues :=
  match fields.get? entry.1 with
  | none => .error (.unknownField entry.1)
  | some field =>
    if field.id = entry.1 then .ok (grouped.file field.groupId entry.1 entry.2)
    else
      .error (.fieldResolutionFailed
        ⟨"registry answered field " ++ entry.1 ++ " with declaration " ++ field.id, []⟩)

end GroupedValues

/-- **Splits a patch by the groups that own its fields**, as `fields` declares them. -/
def groupByOwner (patch : Values) (fields : TextMap Field) : Except PatchError GroupedValues :=
  patch.entries.foldlM (GroupedValues.fileOwned fields) .empty

end PropertyGate
