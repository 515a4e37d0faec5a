import PropertyGate.Text.Utf8

/-!
# Credential/Der — elements of tagged data

Certificates and keys are made of elements: a tag, a length and that many bytes of contents, which
may be elements again. A length is written in as few bytes as it takes. Numbers are written from the
highest byte on; one that is not negative begins with a bit that is not set.
-/

namespace PropertyGate

/-! ## Numbers as bytes -/

/-- The number that the bytes write, the highest byte first. -/
def Bytes.toNumber (bytes : Bytes) : Nat :=
  bytes.foldl (fun number byte => number * 256 + byte.toNat) 0

/-- The last `width` bytes of a number, the highest byte first. -/
def Bytes.ofNumber : (width : Nat) → (number : Nat) → Bytes
  | 0, _ => []
  | width + 1, number => Bytes.ofNumber width (number / 256) ++ [number.toUInt8]

/-- How many bytes it takes to write a number. -/
def Bytes.widthOf (number : Nat) : Nat :=
  if h : number = 0 then 0 else Bytes.widthOf (number / 256) + 1
termination_by number
decreasing_by omega

namespace Der

/-! ## Tags -/

def booleanTag : UInt8 := 0x01
def integerTag : UInt8 := 0x02
def bitsTag : UInt8 := 0x03
def octetsTag : UInt8 := 0x04
def nullTag : UInt8 := 0x05
def identifierTag : UInt8 := 0x06
def sequenceTag : UInt8 := 0x30

/-- The tag of a part that is known by its number. -/
def partTag (number : UInt8) : UInt8 := 0xA0 + number

/-! ## Elements -/

/-- Splits off a number of bytes, if there are so many. -/
def take? (count : Nat) (bytes : Bytes) : Option (Bytes × Bytes) :=
  if count ≤ bytes.length then some (bytes.splitAt count) else none

/-- Reads a length: short ones stand for themselves, others follow in one to four bytes. -/
def length? : Bytes → Option (Nat × Bytes)
  | [] => none
  | first :: rest =>
    if first < 128 then some (first.toNat, rest)
    else
      let width := first.toNat - 128
      if width = 0 ∨ 4 < width then none
      else
        match take? width rest with
        | none => none
        | some (written, rest) =>
          let length := Bytes.toNumber written
          if length < 128 ∨ Bytes.widthOf length < width then none else some (length, rest)

/-- Reads an element: its tag, its contents, and what follows it. -/
def element? : Bytes → Option (UInt8 × Bytes × Bytes)
  | [] => none
  | tag :: rest =>
    if tag &&& 0x1F = 0x1F then none
    else
      match length? rest with
      | none => none
      | some (length, rest) =>
        match take? length rest with
        | none => none
        | some (contents, rest) => some (tag, contents, rest)

/-- Reads an element with a tag: its contents, and what follows it. -/
def expect? (tag : UInt8) (bytes : Bytes) : Option (Bytes × Bytes) :=
  match element? bytes with
  | some (found, contents, rest) => if found = tag then some (contents, rest) else none
  | none => none

/-- Reads an element with a tag if one comes next. -/
def optional? (tag : UInt8) (bytes : Bytes) : Option (Option Bytes × Bytes) :=
  if bytes.head? = some tag then
    (expect? tag bytes).map fun (contents, rest) => (some contents, rest)
  else some (none, bytes)

/-- The contents of an element with a tag behind which nothing follows. -/
def only? (tag : UInt8) (bytes : Bytes) : Option Bytes :=
  match expect? tag bytes with
  | some (contents, []) => some contents
  | _ => none

/-- Whether bytes write a number in as few bytes as it takes, and not a negative one. -/
def isNatural : Bytes → Bool
  | [] => false
  | [byte] => byte < 128
  | first :: second :: _ => first < 128 && (first ≠ 0 || 128 ≤ second)

/-- Reads a number that is not negative. -/
def natural? (bytes : Bytes) : Option (Nat × Bytes) :=
  match expect? integerTag bytes with
  | some (contents, rest) =>
    if isNatural contents then some (Bytes.toNumber contents, rest) else none
  | none => none

/-- The bytes of a string of bits that fills them, where nothing follows it. -/
def onlyBits? (bytes : Bytes) : Option Bytes :=
  match only? bitsTag bytes with
  | some (0 :: bits) => some bits
  | _ => none

/-! ## Writing -/

/-- Writes a length. -/
def lengthBytes (length : Nat) : Bytes :=
  if length < 128 then [length.toUInt8]
  else
    let width := Bytes.widthOf length
    (128 + width).toUInt8 :: Bytes.ofNumber width length

/-- Writes an element. -/
def encode (tag : UInt8) (contents : Bytes) : Bytes :=
  tag :: lengthBytes contents.length ++ contents

/-- Writes a number. -/
def encodeNatural (number : Nat) : Bytes :=
  let written := Bytes.ofNumber (max 1 (Bytes.widthOf number)) number
  encode integerTag (if isNatural written then written else 0 :: written)

/-- Writes a string of bits that fills its bytes. -/
def encodeBits (bits : Bytes) : Bytes := encode bitsTag (0 :: bits)

end Der

end PropertyGate
