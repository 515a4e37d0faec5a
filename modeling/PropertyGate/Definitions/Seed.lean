import PropertyGate.Property.Document

/-!
# Definitions/Seed — the file that declares groups and fields

A seed file lists groups and fields; either list may be left out.
-/

namespace PropertyGate

open Json (Value Shape Member Decoder)

/-- The contents of a seed file, in file order. -/
structure Seed where
  groups : List Group := []
  fields : List Field := []
deriving DecidableEq, Repr, Inhabited

namespace Seed

/-- A seed file as an object: the list of groups, then that of fields. -/
def toJson (seed : Seed) : Value :=
  .object [("groups", .array (seed.groups.map Group.toJson)),
    ("fields", .array (seed.fields.map Field.toJson))]

/-- A list that is left out is empty. -/
def shape : Shape Seed where
  title := "DefinitionsFile"
  blank := ⟨[], []⟩
  members := [
    Member.defaulted "groups" (Decoder.list Group.decoder) fun groups seed => { seed with groups },
    Member.defaulted "fields" (Decoder.list Field.decoder) fun fields seed => { seed with fields }]

/-- Reads a seed file. -/
def decoder : Decoder Seed := shape.decoder

end Seed

end PropertyGate
