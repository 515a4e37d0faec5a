import PropertyGate.Json.Decoder
import PropertyGate.Property.PatchResult

/-!
# Property/Document — fields, groups and patches as JSON documents

Each type has an encoding `toJson` and a decoder. A record is written as an object whose members
stand in declaration order, and is read from an object or from an array in that order; a name that a
field does not have is left out.
-/

namespace PropertyGate

open Json (Value Shape Member Decoder)

/-- The member of a record under `name`, if there is a value for it. -/
def Json.optionalMember (name : String) (value : Option String) : List (String × Value) :=
  match value with
  | some text => [(name, .text text)]
  | none => []

namespace Group

/-- A group as an object: its id, then its name. -/
def toJson (group : Group) : Value :=
  .object [("id", .text group.id), ("name", .text group.name)]

/-- A group is not read without its id and its name. -/
def shape : Shape Group where
  title := "Group"
  blank := ⟨"", ""⟩
  members := [
    Member.needed "id" Decoder.text fun id group => { group with id },
    Member.needed "name" Decoder.text fun name group => { group with name }]

/-- Reads a group. -/
def decoder : Decoder Group := shape.decoder

end Group

namespace Field

/-- A field as an object: its id, the id of its group, and its name if it has one. -/
def toJson (field : Field) : Value :=
  .object ([("id", .text field.id), ("group_id", .text field.groupId)]
    ++ Json.optionalMember "name" field.name)

/-- A field is not read without its id and that of its group; its name may be `null` as well as left
out. -/
def shape : Shape Field where
  title := "Field"
  blank := ⟨"", "", none⟩
  members := [
    Member.needed "id" Decoder.text fun id field => { field with id },
    Member.needed "group_id" Decoder.text fun groupId field => { field with groupId },
    Member.defaulted "name" (Decoder.optional Decoder.text) fun name field => { field with name }]

/-- Reads a field. -/
def decoder : Decoder Field := shape.decoder

end Field

namespace Values

/-- Values as an object: each under the id of its field, in ascending order. -/
def toJson (values : Values) : Value := .object values.entries

/-- Reads property values; of several under one field the last stays. -/
def decoder : Decoder Values := Decoder.map Decoder.value

end Values

namespace GroupPatch

/-- The patch of one group as an object: the whole group, then its values. -/
def toJson (patch : GroupPatch) : Value :=
  .object [("group", patch.group.toJson), ("values", Values.toJson patch.values)]

/-- The patch of one group is not read without the group and the values. -/
def shape : Shape GroupPatch where
  title := "GroupPatch"
  blank := default
  members := [
    Member.needed "group" Group.decoder fun group patch => { patch with group },
    Member.needed "values" Values.decoder fun values patch => { patch with values }]

/-- Reads the patch of one group. -/
def decoder : Decoder GroupPatch := shape.decoder

end GroupPatch

namespace PatchResult

/-- A resolved patch as an object: the patch of every group under its key. -/
def toJson (result : PatchResult) : Value :=
  .object (result.groups.mapValues fun _ patch => patch.toJson).entries

/-- Reads a resolved patch. Its keys are those of the document, whatever the ids of the groups. -/
def decoder : Decoder PatchResult := fun fuel depth input =>
  (Decoder.map GroupPatch.decoder fuel depth input).map fun (groups, rest) => (⟨groups⟩, rest)

end PatchResult

end PropertyGate
