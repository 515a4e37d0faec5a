/-!
# Text/Utf8 — text as bytes

`Utf8.encode` and `Utf8.decode?` pass between text and its UTF-8 bytes; **every text survives the
passage** (`Utf8.decode?_encode`). Where bytes are no text, `Utf8.validLength` says how far they
are.
-/

namespace PropertyGate

/-- A sequence of bytes, first byte first. -/
abbrev Bytes := List UInt8

namespace Utf8

/-- The UTF-8 bytes of a text. -/
def encode (text : String) : Bytes := text.toByteArray.data.toList

/-- The text that the bytes encode, if they are well-formed UTF-8. -/
def decode? (bytes : Bytes) : Option String := String.fromUTF8? ⟨bytes.toArray⟩

/-- **Text survives its bytes.** -/
@[simp] theorem decode?_encode (text : String) : decode? (encode text) = some text := by
  have h : (⟨text.toByteArray.data.toList.toArray⟩ : ByteArray) = text.toByteArray := rfl
  rw [decode?, encode, h, String.fromUTF8?, dif_pos text.isValidUTF8]
  rfl

/-- Bytes that decode are the encoding of what they decode to. -/
theorem encode_of_decode? {bytes : Bytes} {text : String} (h : decode? bytes = some text) :
    encode text = bytes := by
  rw [decode?, String.fromUTF8?] at h
  split at h
  · cases h
    rfl
  · cases h

@[simp] theorem encode_append (a b : String) : encode (a ++ b) = encode a ++ encode b := by
  simp [encode]

/-- The length of the longest run of whole characters at the start, added to `counted`. -/
def validLengthFrom (counted : Nat) (bytes : Bytes) : Nat :=
  match bytes with
  | [] => counted
  | first :: rest =>
    match (first :: rest.take 3).toByteArray.utf8DecodeChar? 0 with
    | none => counted
    | some c => validLengthFrom (counted + c.utf8Size) (rest.drop (c.utf8Size - 1))
termination_by bytes.length
decreasing_by
  simp only [List.length_drop, List.length_cons]
  omega

/-- The length of the longest run of whole characters at the start. -/
def validLength (bytes : Bytes) : Nat := validLengthFrom 0 bytes

/-- The characters of the bytes; a byte that begins none counts as the character for what cannot be
read. -/
def decodeLossyChars (bytes : Bytes) : List Char :=
  match bytes with
  | [] => []
  | first :: rest =>
    match (first :: rest.take 3).toByteArray.utf8DecodeChar? 0 with
    | none => '\ufffd' :: decodeLossyChars rest
    | some c => c :: decodeLossyChars (rest.drop (c.utf8Size - 1))
termination_by bytes.length
decreasing_by
  · simp
  · simp only [List.length_drop, List.length_cons]
    omega

/-- The text that the bytes encode, as far as they do. -/
def decodeLossy (bytes : Bytes) : String := String.ofList (decodeLossyChars bytes)

end Utf8

end PropertyGate
