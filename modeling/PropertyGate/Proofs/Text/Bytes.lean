import PropertyGate.Text.Ascii
import PropertyGate.TextMap.Basic

/-!
# Proofs/Text/Bytes — a text is its bytes, in the same order

The bytes of a text are those of its characters one after the other; an ASCII character is one byte,
and hexadecimal digits are what their bytes are read as.  **Texts compare as their bytes do**
(`encode_lt_encode_iff`), so that keys in ascending order are in ascending order of their bytes.
-/

namespace PropertyGate

namespace Utf8

/-! ## Character by character -/

theorem encode_ofList (chars : List Char) :
    encode (String.ofList chars) = chars.flatMap String.utf8EncodeChar := by
  rw [encode, String.toByteArray_ofList]
  induction chars with
  | nil => rfl
  | cons c rest ih =>
    rw [List.utf8Encode_cons, List.utf8Encode_singleton, List.flatMap_cons, ← ih]
    simp

theorem encode_eq_flatMap (text : String) :
    encode text = text.toList.flatMap String.utf8EncodeChar := by
  rw [← encode_ofList, String.ofList_toList]

theorem encode_inj {a b : String} : encode a = encode b ↔ a = b := by
  refine ⟨fun same => ?_, congrArg encode⟩
  have decoded := congrArg decode? same
  rwa [decode?_encode, decode?_encode, Option.some.injEq] at decoded

/-- An ASCII character is one byte. -/
theorem utf8EncodeChar_of_ascii {c : Char} (ascii : c.toNat < 128) :
    String.utf8EncodeChar c = [byte c] := by
  rw [String.utf8EncodeChar_eq_singleton]
  · rfl
  · exact Char.utf8Size_eq_one_iff.2 (UInt32.le_iff_toNat_le.2 (Nat.le_of_lt_succ ascii))

/-- **ASCII characters are their bytes.** -/
theorem encode_ofList_of_ascii {chars : List Char} (ascii : ∀ c ∈ chars, c.toNat < 128) :
    encode (String.ofList chars) = chars.map byte := by
  rw [encode_ofList]
  induction chars with
  | nil => rfl
  | cons c rest ih =>
    rw [List.flatMap_cons, utf8EncodeChar_of_ascii (ascii c List.mem_cons_self),
      ih fun d hd => ascii d (List.mem_cons_of_mem _ hd)]
    rfl

/-! ## Hexadecimal digits -/

/-- A digit is read as its value, in either case. -/
theorem hexValue?_digitChar {n : Nat} (bound : n < 16) :
    hexValue? (byte (Nat.digitChar n)) = some n ∧
      hexValue? (byte (Nat.digitChar n).toUpper) = some n := by
  have all : ∀ n < 16, hexValue? (byte (Nat.digitChar n)) = some n ∧
      hexValue? (byte (Nat.digitChar n).toUpper) = some n := by decide
  exact all n bound

/-! ## The order of bytes -/

/-- A number by its digits to the base 64, the first of which may be greater. -/
theorem eq_digits (n : Nat) :
    n = 262144 * (n / 262144) + 4096 * (n / 4096 % 64) + 64 * (n / 64 % 64) + n % 64 := by omega

/-- The bytes of the smaller character are smaller, whatever follows. -/
theorem utf8EncodeChar_append_lt {c d : Char} (less : c < d) (xs ys : Bytes) :
    String.utf8EncodeChar c ++ xs < String.utf8EncodeChar d ++ ys := by
  have h : c.val.toNat < d.val.toNat := less
  have bound : d.val.toNat < 1114112 := by
    have valid : Nat.isValidChar d.val.toNat := d.valid
    rcases valid with low | high
    · omega
    · exact high.2
  have digits := eq_digits c.val.toNat
  have digits' := eq_digits d.val.toNat
  simp only [String.utf8EncodeChar]
  -- Either the first bytes differ, or the numbers of bytes are the same.
  repeat' split
  all_goals
    simp (disch := omega) only [List.cons_append, List.nil_append, List.cons_lt_cons_iff,
      UInt8.lt_iff_toNat_lt, UInt8.toNat_ofNat', ← UInt8.toNat_inj, Nat.mod_eq_of_lt]
    omega

theorem flatMap_lt_flatMap {a b : List Char} (less : a < b) :
    a.flatMap String.utf8EncodeChar < b.flatMap String.utf8EncodeChar := by
  induction less with
  | nil =>
    rename_i c rest
    rw [List.flatMap_cons]
    obtain ⟨first, others, h⟩ := List.exists_cons_of_ne_nil (String.utf8EncodeChar_ne_nil (c := c))
    rw [h]
    exact List.Lex.nil
  | cons _ ih =>
    rw [List.flatMap_cons, List.flatMap_cons]
    exact List.append_left_lt ih
  | rel less =>
    rw [List.flatMap_cons, List.flatMap_cons]
    exact utf8EncodeChar_append_lt less _ _

/-- **Texts are in the order of their bytes.** -/
theorem encode_lt_encode_iff {a b : String} : encode a < encode b ↔ a < b := by
  have forward : ∀ {a b : String}, a < b → encode a < encode b := by
    intro a b less
    rw [encode_eq_flatMap, encode_eq_flatMap]
    exact flatMap_lt_flatMap less
  refine ⟨fun bytes => Decidable.byContradiction fun not => ?_, forward⟩
  by_cases same : a = b
  · exact List.lt_irrefl _ (same ▸ bytes)
  · exact List.lt_asymm bytes (forward (Entries.lt_of_not_lt_of_ne not same))

end Utf8

end PropertyGate
