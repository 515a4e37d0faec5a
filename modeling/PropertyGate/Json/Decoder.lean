import PropertyGate.Json.Structure

/-!
# Json/Decoder — reading documents of a known shape

A decoder reads one value of its type straight from the bytes, so that of two faults in a document
the one that comes first in reading order is reported. `fuel` bounds the turns of every loop and is
never less than the number of bytes left; `depth` is the number of arrays and objects that may still
open inside one another. `decode` fixes both for a whole document.
-/

namespace PropertyGate.Json

/-- Reads one value: the fuel, the nesting that is left, the input. -/
abbrev Decoder (α : Type) := (fuel depth : Nat) → Bytes → Reading α

/-- The number of arrays and objects that may nest in a document. -/
def maxDepth : Nat := 127

/-- **Reads a whole document.** -/
def decode {α : Type} (decoder : Decoder α) (document : Bytes) : Except Fault α :=
  match decoder (document.length + 1) maxDepth document with
  | .error stop => .error (stop.fault document)
  | .ok (value, rest) =>
    match skipBlanks rest with
    | [] => .ok value
    | _ :: rest => .error (Stop.fault ⟨.trailingCharacters, rest.length⟩ document)

namespace Decoder

variable {α : Type}

/-! ## Items and members -/

/-- Reads the items of an array up to its closing bracket; `read` holds those read so far, last
first. -/
def items (item : Bytes → Reading α) :
    (fuel : Nat) → (read : List α) → (first : Bool) → Bytes → Reading (List α)
  | 0, _, _, input => stopAhead .endInList input
  | fuel + 1, read, first, input =>
    match nextItem first input with
    | .error stop => .error stop
    | .ok (false, rest) => .ok (read.reverse, rest)
    | .ok (true, rest) =>
      match item rest with
      | .error stop => .error stop
      | .ok (value, rest) => items item fuel (value :: read) false rest

/-- Reads the members of an object up to its closing brace, last first. -/
def members (member : Bytes → Reading α) (textFuel : Nat) :
    (fuel : Nat) → (read : List (String × α)) → (first : Bool) → Bytes →
      Reading (List (String × α))
  | 0, _, _, input => stopAhead .endInObject input
  | fuel + 1, read, first, input =>
    match nextKey first input with
    | .error stop => .error stop
    | .ok (false, rest) => .ok (read, rest)
    | .ok (true, rest) =>
      match readText textFuel rest with
      | .error stop => .error stop
      | .ok (key, rest) =>
        match readColon rest with
        | .error stop => .error stop
        | .ok rest =>
          match member rest with
          | .error stop => .error stop
          | .ok (value, rest) => members member textFuel fuel ((key, value) :: read) false rest

/-! ## Any document -/

/-- **Reads any document.** Of the members under one key the last stays. -/
def value (fuel depth : Nat) (input : Bytes) : Reading Value :=
  match skipBlanks input with
  | [] => stopAhead .endInValue []
  | b :: rest =>
    if b = byte '[' then
      match depth with
      | 0 => stopAhead .nestedTooDeep (b :: rest)
      | depth + 1 =>
        match items (value fuel depth) fuel [] true rest with
        | .error stop => .error stop
        | .ok (items, rest) => .ok (.array items, rest)
    else if b = byte '{' then
      match depth with
      | 0 => stopAhead .nestedTooDeep (b :: rest)
      | depth + 1 =>
        match members (value fuel depth) fuel fuel [] true rest with
        | .error stop => .error stop
        | .ok (members, rest) => .ok (.object (Entries.ofLatestFirst members), rest)
    else
      match readScalar fuel (b :: rest) with
      | .error stop => .error stop
      | .ok (scalar, rest) => .ok (scalar.value, rest)

/-! ## Values of one type -/

/-- Reads a scalar that is accepted; anything else is a fault after the scalar, or before the
bracket that opens an array or an object. -/
def scalar (expected : String) (accept : Scalar → Except Cause α) : Decoder α :=
  fun fuel _ input =>
    match skipBlanks input with
    | [] => stopAhead .endInValue []
    | b :: rest =>
      if b = byte '[' then stopHere (.wrongType .sequence expected) (b :: rest)
      else if b = byte '{' then stopHere (.wrongType .map expected) (b :: rest)
      else
        match readScalar fuel (b :: rest) with
        | .error stop => .error stop
        | .ok (scalar, rest) =>
          match accept scalar with
          | .ok value => .ok (value, rest)
          | .error cause => stopHere cause rest

/-- Reads a value that is no scalar where a scalar is a fault. -/
def compound (expected : String) (open? : UInt8 → Option (Bytes → Reading α)) : Decoder α :=
  fun fuel depth input =>
    match skipBlanks input with
    | [] => stopAhead .endInValue []
    | b :: rest =>
      match open? b with
      | some body => if depth = 0 then stopAhead .nestedTooDeep (b :: rest) else body rest
      | none =>
        scalar expected (fun found => .error (.wrongType found.found expected)) fuel depth (b :: rest)

def text : Decoder String :=
  scalar "a string" fun
    | .text s => .ok s
    | other => .error (.wrongType other.found "a string")

def bool : Decoder Bool :=
  scalar "a boolean" fun
    | .bool b => .ok b
    | other => .error (.wrongType other.found "a boolean")

/-- Reads a whole number of 16 bits. -/
def uint16 : Decoder UInt16 :=
  scalar "u16" fun
    | .number (.integer n) =>
      if 0 ≤ n ∧ n < 65536 then .ok n.toNat.toUInt16 else .error (.wrongValue n "u16")
    | other => .error (.wrongType other.found "u16")

/-- Reads a value that may be `null`. -/
def optional (decoder : Decoder α) : Decoder (Option α) := fun fuel depth input =>
  match skipBlanks input with
  | [] => stopAhead .endInValue []
  | b :: rest =>
    if b = byte 'n' then (expectWord ['u', 'l', 'l'] rest).map (none, ·)
    else (decoder fuel depth (b :: rest)).map fun (value, rest) => (some value, rest)

/-- Reads an array of values of one type. -/
def list (item : Decoder α) : Decoder (List α) := fun fuel depth =>
  compound "a sequence" (fun b =>
    if b = byte '[' then some (items (item fuel (depth - 1)) fuel [] true) else none) fuel depth

/-- Reads an object whose values have one type. Of the members under one key the last stays. -/
def map (member : Decoder α) : Decoder (TextMap α) := fun fuel depth =>
  compound "a map" (fun b =>
    if b = byte '{' then
      some fun rest =>
        match members (member fuel (depth - 1)) fuel fuel [] true rest with
        | .error stop => .error stop
        | .ok (members, rest) => .ok (TextMap.ofList members.reverse, rest)
    else none) fuel depth

end Decoder

/-! ## Records -/

/-- One member of a record of type `σ`: how it is read, and what it then changes. -/
structure Member (σ : Type) where
  name : String
  /-- Whether the record cannot be read without it. -/
  required : Bool
  read : Decoder (σ → σ)

/-- **The shape of a record**: its title, its value before any member is read, and its members in
the order in which an array lists them. -/
structure Shape (σ : Type) where
  title : String
  blank : σ
  members : List (Member σ)

namespace Member

variable {σ τ : Type}

/-- A member that every record has. -/
def needed (name : String) (decoder : Decoder τ) (set : τ → σ → σ) : Member σ :=
  ⟨name, true, fun fuel depth input =>
    (decoder fuel depth input).map fun (value, rest) => (set value, rest)⟩

/-- A member that keeps its value in the blank record where it is left out. -/
def defaulted (name : String) (decoder : Decoder τ) (set : τ → σ → σ) : Member σ :=
  { needed name decoder set with required := false }

end Member

namespace Shape

variable {σ : Type}

/-- How messages name the record. -/
def expected (shape : Shape σ) : String := "struct " ++ shape.title

/-- Reads the members of a record given as an array. Members that the array is too short for keep
their defaults; the first that has none is a fault. -/
def fromItems (shape : Shape σ) (fuel depth : Nat) :
    (members : List (Member σ)) → (count : Nat) → (record : σ) → Bytes → Reading σ
  | [], _, record, input =>
    match closeItems input with
    | .error stop => .error stop
    | .ok rest => .ok (record, rest)
  | member :: others, count, record, input =>
    match nextItem (count = 0) input with
    | .error stop => .error stop
    | .ok (false, rest) =>
      match (member :: others).findIdx? (·.required) with
      | none => .ok (record, rest)
      | some index =>
        stopHere (.wrongLength (count + index)
          (shape.expected ++ " with " ++ shape.members.length.repr ++ " elements")) rest
    | .ok (true, rest) =>
      match member.read fuel depth rest with
      | .error stop => .error stop
      | .ok (set, rest) => fromItems shape fuel depth others (count + 1) (set record) rest

/-- Reads the members of a record given as an object, in any order; `seen` are the names read so
far. Members with other names are passed over. A name that comes twice is a fault, placed behind the
blanks (and the brace, where one stands there) that follow it. -/
def fromMembers (shape : Shape σ) (textFuel depth : Nat) :
    (fuel : Nat) → (seen : List String) → (first : Bool) → (record : σ) → Bytes → Reading σ
  | 0, _, _, _, input => stopAhead .endInObject input
  | fuel + 1, seen, first, record, input =>
    match nextKey first input with
    | .error stop => .error stop
    | .ok (false, rest) =>
      match shape.members.find? fun member => member.required && !seen.contains member.name with
      | some member => stopHere (.missingField member.name) rest
      | none => .ok (record, rest)
    | .ok (true, rest) =>
      match readText textFuel rest with
      | .error stop => .error stop
      | .ok (key, rest) =>
        match shape.members.find? (·.name == key) with
        | none =>
          match readColon rest >>= skipValue textFuel with
          | .error stop => .error stop
          | .ok rest => fromMembers shape textFuel depth fuel seen false record rest
        | some member =>
          if seen.contains key then stopHere (.duplicateField key) (afterObjectEnd rest)
          else
            match readColon rest >>= member.read textFuel depth with
            | .error stop => .error stop
            | .ok (set, rest) =>
              fromMembers shape textFuel depth fuel (key :: seen) false (set record) rest

/-- **Reads a record**, given as an object or as an array. -/
def decoder (shape : Shape σ) : Decoder σ := fun fuel depth =>
  Decoder.compound shape.expected (fun b =>
    if b = byte '[' then some (shape.fromItems fuel (depth - 1) shape.members 0 shape.blank)
    else if b = byte '{' then some (shape.fromMembers fuel (depth - 1) fuel [] true shape.blank)
    else none) fuel depth

end Shape

end PropertyGate.Json
