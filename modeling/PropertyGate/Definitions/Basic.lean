import PropertyGate.Definitions.Seed
import PropertyGate.Failure
import PropertyGate.Text.File

/-!
# Definitions/Basic — declared groups and fields

Groups and fields are declared one by one and never change afterwards: an id can be declared once,
and a field only for a group that is there. A seed file declares its groups first, then its fields,
and stops at the first that is refused.
-/

namespace PropertyGate

/-- Why a declaration is refused. -/
inductive DeclarationError where
  | duplicateGroup (id : String)
  | duplicateField (id : String)
  | unknownGroup (fieldId groupId : String)
deriving DecidableEq, Repr

def DeclarationError.message : DeclarationError → String
  | .duplicateGroup id => "duplicate property group id " ++ id
  | .duplicateField id => "duplicate property field id " ++ id
  | .unknownGroup fieldId groupId =>
    "property field " ++ fieldId ++ " references unknown group " ++ groupId

def DeclarationError.failure (error : DeclarationError) : Failure := ⟨error.message, []⟩

/-- **The declared groups and fields**, by id. -/
structure Definitions where
  groups : TextMap Group
  fields : TextMap Field
deriving DecidableEq, Inhabited

namespace Definitions

def empty : Definitions := ⟨.empty, .empty⟩

/-- Declares a group under an id that no group has. -/
def declareGroup (definitions : Definitions) (group : Group) :
    Except DeclarationError Definitions :=
  if definitions.groups.contains group.id then .error (.duplicateGroup group.id)
  else .ok { definitions with groups := definitions.groups.insert group.id group }

/-- Declares a field under an id that no field has, for a group that is declared. -/
def declareField (definitions : Definitions) (field : Field) :
    Except DeclarationError Definitions :=
  if definitions.fields.contains field.id then .error (.duplicateField field.id)
  else if !definitions.groups.contains field.groupId then
    .error (.unknownGroup field.id field.groupId)
  else .ok { definitions with fields := definitions.fields.insert field.id field }

/-- Declares the groups and then the fields of a seed, up to the first that is refused. -/
def ofSeed (seed : Seed) : Except DeclarationError Definitions := do
  let withGroups ← seed.groups.foldlM declareGroup empty
  seed.fields.foldlM declareField withGroups

/-- The declaration of a field. -/
def field? (definitions : Definitions) (fieldId : String) : Option Field :=
  definitions.fields.get? fieldId

/-- The declarations of those of the given fields that are declared. -/
def lookupFields (definitions : Definitions) (fieldIds : List String) : TextMap Field :=
  TextMap.ofList (fieldIds.filterMap fun id => (definitions.field? id).map (id, ·))

/-- The declaration of a group, or the failure that there is none. -/
def lookupGroup (definitions : Definitions) (groupId : String) : Except Failure Group :=
  match definitions.groups.get? groupId with
  | some group => .ok group
  | none => .error ⟨"property group " ++ groupId ++ " not found", []⟩

/-- **Reads a seed file and declares what it lists**; `contents` are those of the file at `path`. -/
def load (path : String) (contents : Contents) : Except Failure Definitions :=
  match readTextFile contents with
  | .error fault => .error ⟨"reading property definitions from " ++ path, [fault.message]⟩
  | .ok document =>
    match Json.decode Seed.decoder document with
    | .error fault => .error ⟨"parsing property definitions in " ++ path, [fault.message]⟩
    | .ok seed => (ofSeed seed).mapError DeclarationError.failure

end Definitions

end PropertyGate
