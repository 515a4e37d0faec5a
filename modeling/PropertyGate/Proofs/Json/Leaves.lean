import PropertyGate.Json.Decoder
import PropertyGate.Proofs.FirstFailure
import PropertyGate.Proofs.Http.Spelling
import PropertyGate.Proofs.Json.Printing

/-!
# Proofs/Json/Leaves — texts and integers are read as they were written

A string is read byte by byte: a byte that stands for itself is taken, an escape gives the byte that
it was written for.  **Reading the bytes of a quoted text gives the text and what follows it**
(`readText_quoted`).  The digits of an integer are counted up to the number that they write, so
**reading the digits of an integer of 64 bits gives the integer** (`readNumber_integer`), where what
follows cannot go on a number.
-/

namespace PropertyGate.Json

/-! ## Bytes that stand for themselves -/

/-- The byte stands for itself inside a string. -/
def IsPlainByte (b : UInt8) : Prop := b ≠ byte '"' ∧ b ≠ byte '\\' ∧ ¬ b < 0x20

variable {bytes read rest : Bytes} {fuel : Nat}

theorem readTextBytes_plain (plain : ∀ b ∈ bytes, IsPlainByte b) :
    readTextBytes (fuel + bytes.length) read (bytes ++ rest) =
      readTextBytes fuel (bytes.reverse ++ read) rest := by
  induction bytes generalizing read with
  | nil => rfl
  | cons b others ih =>
    obtain ⟨quote, escape, printable⟩ := plain b List.mem_cons_self
    rw [List.length_cons, ← Nat.add_assoc, List.cons_append, readTextBytes, if_neg quote,
      if_neg escape, if_neg printable, ih fun d hd => plain d (List.mem_cons_of_mem _ hd),
      List.reverse_cons, List.append_assoc, List.singleton_append]

/-- Outside ASCII, no byte of a character is one of an ASCII character. -/
theorem le_of_mem_utf8EncodeChar {c : Char} (wide : 128 ≤ c.toNat) :
    ∀ b ∈ String.utf8EncodeChar c, 128 ≤ b.toNat := by
  have wide' : ¬ c.val.toNat ≤ 0x7f := Nat.not_le.2 (Nat.lt_of_succ_le wide)
  simp only [String.utf8EncodeChar, if_neg wide']
  repeat' split
  all_goals
    simp (disch := omega) only [List.forall_mem_cons, List.not_mem_nil, false_implies, implies_true,
      and_true, UInt8.toNat_ofNat', Nat.mod_eq_of_lt]
    omega

/-- **The bytes of a character that needs no escape stand for themselves.** -/
theorem isPlainByte_of_mem {c : Char} (printable : 0x20 ≤ c.toNat) (quote : c ≠ '"')
    (escape : c ≠ '\\') : ∀ b ∈ String.utf8EncodeChar c, IsPlainByte b := by
  intro b hb
  rcases Nat.lt_or_ge c.toNat 128 with ascii | wide
  · rw [Utf8.utf8EncodeChar_of_ascii ascii, List.mem_singleton] at hb
    subst hb
    refine ⟨fun same => quote ((byte_inj ascii (by decide)).1 same),
      fun same => escape ((byte_inj ascii (by decide)).1 same), ?_⟩
    rw [UInt8.lt_iff_toNat_lt, byte, Char.toUInt8, UInt32.toNat_toUInt8, Char.toNat_val]
    change ¬ c.toNat % 256 < 32
    omega
  · have high := le_of_mem_utf8EncodeChar wide b hb
    refine ⟨?_, ?_, fun low => ?_⟩
    · rintro rfl
      exact absurd high (by decide)
    · rintro rfl
      exact absurd high (by decide)
    · rw [UInt8.lt_iff_toNat_lt] at low
      change b.toNat < 32 at low
      omega

/-! ## Escapes -/

/-- An escape that is read for one byte. -/
theorem readTextBytes_escape {escape plain : Bytes}
    (h : readEscape (escape ++ rest) = .ok (plain, rest)) :
    readTextBytes (fuel + 1) read (byte '\\' :: (escape ++ rest)) =
      readTextBytes fuel (plain.reverse ++ read) rest := by
  rw [readTextBytes, if_neg (by decide), if_pos rfl, h]

theorem readEscape_of_short {b plain : UInt8} (h : shortEscape? b = some plain) :
    readEscape (b :: rest) = .ok ([plain], rest) := by
  rw [readEscape, h]

/-- An escape by the number of a control character gives the character. -/
theorem readEscape_of_control {c : Char} (control : c.toNat < 0x20) :
    readEscape (byte 'u' :: byte '0' :: byte '0' :: byte (Nat.digitChar (c.toNat / 16))
      :: byte (Nat.digitChar (c.toNat % 16)) :: rest) = .ok ([byte c], rest) := by
  have small : c.toNat / 16 < 16 := by omega
  have high := (Utf8.hexValue?_digitChar small).1
  have low := (Utf8.hexValue?_digitChar (Nat.mod_lt c.toNat (show 0 < 16 by decide))).1
  have zero : hexValue? (byte '0') = some 0 := rfl
  have number : ((0 * 16 + 0) * 16 + c.toNat / 16) * 16 + c.toNat % 16 = c.toNat := by omega
  have digits : readHex (byte '0' :: byte '0' :: byte (Nat.digitChar (c.toNat / 16))
      :: byte (Nat.digitChar (c.toNat % 16)) :: rest) = .ok (c.toNat, rest) := by
    simp only [readHex, zero, high, low, number]
  have noLow : isLowSurrogate c.toNat = false := by simp [isLowSurrogate]; omega
  have noHigh : isHighSurrogate c.toNat = false := by simp [isHighSurrogate]; omega
  have plain : charBytes c.toNat = [byte c] := by
    rw [charBytes, Char.ofNat_toNat, Utf8.utf8EncodeChar_of_ascii (by omega)]
  have unicode : readUnicodeEscape (byte '0' :: byte '0' :: byte (Nat.digitChar (c.toNat / 16))
      :: byte (Nat.digitChar (c.toNat % 16)) :: rest) = .ok ([byte c], rest) := by
    rw [readUnicodeEscape, digits]
    change (if isLowSurrogate c.toNat then _ else _) = _
    rw [noLow, noHigh, plain]
    rfl
  rw [readEscape, show shortEscape? (byte 'u') = none from rfl]
  exact unicode

/-- The text is read as the character, in no more turns than it has bytes. -/
def ReadsAs (text : String) (c : Char) : Prop :=
  ∃ turns ≤ (Utf8.encode text).length, ∀ fuel read rest,
    readTextBytes (fuel + turns) read (Utf8.encode text ++ rest) =
      readTextBytes fuel ((String.utf8EncodeChar c).reverse ++ read) rest

theorem readsAs_of_escape {text : String} {c : Char} {escape : Bytes}
    (written : Utf8.encode text = byte '\\' :: escape)
    (h : ∀ rest, readEscape (escape ++ rest) = .ok (String.utf8EncodeChar c, rest)) :
    ReadsAs text c := by
  refine ⟨1, by simp [written], fun fuel read rest => ?_⟩
  rw [written, List.cons_append, readTextBytes_escape (h rest)]

theorem readsAs_toString {c : Char} (plain : ∀ b ∈ String.utf8EncodeChar c, IsPlainByte b) :
    ReadsAs c.toString c := by
  have written : Utf8.encode c.toString = String.utf8EncodeChar c := by
    rw [Utf8.encode_eq_flatMap, Char.toString_eq_singleton, String.toList_singleton]
    simp
  rw [ReadsAs, written]
  exact ⟨_, Nat.le_refl _, fun fuel read rest => readTextBytes_plain plain⟩

theorem readsAs_controlEscape {c : Char} (control : c.toNat < 0x20) :
    ReadsAs ("\\u00" ++ controlDigits c) c := by
  have ascii : ∀ n < 16, (Nat.digitChar n).toNat < 128 := by decide
  have high := ascii _ (show c.toNat / 16 < 16 by omega)
  have low := ascii _ (show c.toNat % 16 < 16 by omega)
  have digits : Utf8.encode (controlDigits c) =
      [byte (Nat.digitChar (c.toNat / 16)), byte (Nat.digitChar (c.toNat % 16))] := by
    rw [controlDigits, Utf8.encode_ofList_of_ascii (by simp [high, low])]
    rfl
  have written : Utf8.encode ("\\u00" ++ controlDigits c) =
      byte '\\' :: ([byte 'u', byte '0', byte '0'] ++ Utf8.encode (controlDigits c)) := by
    rw [Utf8.encode_append]
    rfl
  refine readsAs_of_escape written fun rest => ?_
  rw [digits, Utf8.utf8EncodeChar_of_ascii (by omega)]
  exact readEscape_of_control control

/-- **A character is read as it was written**, whether it is escaped or not. -/
theorem readsAs_escapedChar (c : Char) : ReadsAs (escapedChar c) c := by
  have short {text : String} {b : UInt8} (ascii : c.toNat < 128)
      (written : Utf8.encode text = [byte '\\', b]) (h : shortEscape? b = some (byte c)) :
      ReadsAs text c :=
    readsAs_of_escape written fun rest => by
      rw [Utf8.utf8EncodeChar_of_ascii ascii]
      exact readEscape_of_short h
  have ofNumber {d : Char} (h : c.toNat = d.toNat) : c = d := Char.toNat_inj.1 h
  rw [escapedChar]
  split
  case isTrue quote => exact short (by subst quote; decide) rfl (by subst quote; decide)
  rename_i quote
  split
  case isTrue escape => exact short (by subst escape; decide) rfl (by subst escape; decide)
  rename_i escape
  split
  case isTrue printable => exact readsAs_toString (isPlainByte_of_mem printable quote escape)
  rename_i control
  split
  case isTrue line => exact short (by subst line; decide) rfl (by subst line; decide)
  split
  case isTrue carriage => exact short (by subst carriage; decide) rfl (by subst carriage; decide)
  split
  case isTrue tab => exact short (by subst tab; decide) rfl (by subst tab; decide)
  split
  case isTrue back => exact short (by omega) rfl (by rw [@ofNumber (Char.ofNat 8) back]; decide)
  split
  case isTrue form => exact short (by omega) rfl (by rw [@ofNumber (Char.ofNat 12) form]; decide)
  exact readsAs_controlEscape (Nat.not_le.1 control)

/-- **The characters of a string are read up to its quotation mark.** -/
theorem readTextBytes_escapedBytes {chars : List Char}
    (enough : (escapedBytes chars).length < fuel) :
    readTextBytes fuel read (escapedBytes chars ++ byte '"' :: rest) =
      .ok (read.reverse ++ chars.flatMap String.utf8EncodeChar, rest) := by
  induction chars generalizing fuel read with
  | nil =>
    obtain ⟨fuel, rfl⟩ := Nat.exists_eq_succ_of_ne_zero (Nat.ne_zero_of_lt enough)
    rw [escapedBytes, List.flatMap_nil, List.flatMap_nil, List.nil_append, List.append_nil,
      readTextBytes, if_pos rfl]
  | cons c others ih =>
    obtain ⟨turns, bound, h⟩ := readsAs_escapedChar c
    have split : escapedBytes (c :: others) =
        Utf8.encode (escapedChar c) ++ escapedBytes others := rfl
    rw [split, List.length_append] at enough
    rw [split, List.append_assoc, show fuel = (fuel - turns) + turns by omega, h,
      ih (by omega), List.reverse_append, List.reverse_reverse, List.flatMap_cons,
      List.append_assoc]

/-- **Reading a quoted text gives the text.** -/
theorem readText_quoted {text : String} {fuel : Nat}
    (enough : (escapedBytes text.toList).length < fuel) :
    readText fuel (escapedBytes text.toList ++ byte '"' :: rest) = .ok (text, rest) := by
  refine bind_eq_ok_iff.2 ⟨_, readTextBytes_escapedBytes enough, ?_⟩
  have decoded : Utf8.decode? (text.toList.flatMap String.utf8EncodeChar) = some text := by
    rw [← Utf8.encode_eq_flatMap, Utf8.decode?_encode]
  simp only [List.reverse_nil, List.nil_append, decoded]
  rfl

/-! ## Integers -/

/-- The byte can stand in a number. -/
def isNumeralByte (b : UInt8) : Bool :=
  isDigit b || b == byte '-' || b == byte '+' || b == byte '.' || isExponentMark b

/-- No number goes on with what follows. -/
def EndsNumber (rest : Bytes) : Prop := ∀ b ∈ rest.head?, isNumeralByte b = false

theorem toNat_of_isDigit {c : Char} (digit : c.isDigit) : 48 ≤ c.toNat ∧ c.toNat ≤ 57 :=
  Char.isDigit_iff_toNat.1 digit

theorem digit_byte {c : Char} (digit : c.isDigit) :
    isDigit (byte c) = true ∧ digitValue (byte c) = c.toNat - '0'.toNat := by
  obtain ⟨low, high⟩ := toNat_of_isDigit digit
  have value : (byte c).toNat = c.toNat := by
    rw [byte, Char.toUInt8, UInt32.toNat_toUInt8, Char.toNat_val]
    omega
  constructor
  · simp only [isDigit, Bool.and_eq_true, decide_eq_true_eq, UInt8.le_iff_toNat_le, value]
    exact ⟨low, high⟩
  · rw [digitValue, value]
    rfl

/-- A natural number is written with a digit at least. -/
theorem exists_digits (n : Nat) : ∃ c others, Nat.toDigits 10 n = c :: others ∧
    ∀ d ∈ c :: others, d.isDigit := by
  obtain ⟨c, others, digits⟩ := List.exists_cons_of_ne_nil (Nat.toDigits_ne_nil (n := n) (b := 10))
  exact ⟨c, others, digits, fun d hd =>
    Nat.isDigit_of_mem_toDigits (by decide) (by decide) (digits ▸ hd)⟩

theorem encode_repr (n : Nat) : Utf8.encode n.repr = (Nat.toDigits 10 n).map byte := by
  rw [Nat.repr_eq_ofList_toDigits]
  obtain ⟨c, others, digits, digit⟩ := exists_digits n
  rw [digits]
  refine Utf8.encode_ofList_of_ascii fun d hd => ?_
  have bound := (toNat_of_isDigit (digit d hd)).2
  omega

/-- Only zero is written with a leading zero. -/
theorem head?_toDigits_ne {n : Nat} (pos : 0 < n) : (Nat.toDigits 10 n).head? ≠ some '0' := by
  induction n using Nat.strongRecOn with
  | ind n ih =>
    rw [Nat.toDigits_eq_if (by decide)]
    split
    · simp only [List.head?_cons, ne_eq, Option.some.injEq, Nat.digitChar_eq_zero]
      omega
    · obtain ⟨c, others, digits, -⟩ := exists_digits (n / 10)
      have smaller := ih (n / 10) (by omega) (by omega)
      rwa [digits] at smaller ⊢

theorem le_ofDigitChars (digits : List Char) (init : Nat) :
    init ≤ Nat.ofDigitChars 10 digits init := by
  induction digits generalizing init with
  | nil => exact Nat.le_refl init
  | cons c rest ih =>
    rw [Nat.ofDigitChars_cons]
    exact Nat.le_trans (by omega) (ih _)

/-- **Digits are counted up to the number that they write**, while it fits 64 bits. -/
theorem tallyDigits_append {digits : List Char} {sofar taken : Nat}
    (digit : ∀ c ∈ digits, c.isDigit) (fits : Nat.ofDigitChars 10 digits sofar ≤ maxUInt64)
    (ends : EndsNumber rest) :
    tallyDigits ⟨sofar, taken, 0⟩ (digits.map byte ++ rest) =
      (⟨Nat.ofDigitChars 10 digits sofar, taken + digits.length, 0⟩, rest) := by
  induction digits generalizing sofar taken with
  | nil =>
    cases rest with
    | nil => rfl
    | cons b rest =>
      have stops : isDigit b = false := by
        have none := ends b rfl
        simp only [isNumeralByte, Bool.or_eq_false_iff] at none
        exact none.1.1.1.1
      rw [List.map_nil, List.nil_append, tallyDigits, stops]
      rfl
  | cons c others ih =>
    obtain ⟨isDigit, value⟩ := digit_byte (digit c List.mem_cons_self)
    rw [Nat.ofDigitChars_cons] at fits ⊢
    have bound : 10 * sofar + (c.toNat - '0'.toNat) ≤ maxUInt64 :=
      Nat.le_trans (le_ofDigitChars others _) fits
    have pushed : Tally.push ⟨sofar, taken, 0⟩ (byte c) =
        ⟨10 * sofar + (c.toNat - '0'.toNat), taken + 1, 0⟩ := by
      rw [Tally.push, value, Nat.mul_comm sofar, decide_eq_true bound]
      rfl
    rw [List.map_cons, List.cons_append, tallyDigits, isDigit, if_pos rfl, pushed,
      ih (fun d hd => digit d (List.mem_cons_of_mem _ hd)) fits, List.length_cons]
    congr 2
    omega

theorem readAfterWhole_of_ends {negative : Bool} {n taken : Nat} (ends : EndsNumber rest) :
    readAfterWhole negative ⟨n, taken, 0⟩ rest = wholeNumber negative n rest := by
  cases rest with
  | nil => rfl
  | cons b rest =>
    have none := ends b rfl
    simp only [isNumeralByte, Bool.or_eq_false_iff, beq_eq_false_iff_ne] at none
    rw [readAfterWhole, if_neg none.1.2, none.2]
    rfl

/-- **The digits of a number are read as the number.** -/
theorem readUnsigned_repr {negative : Bool} {n : Nat} (fits : n ≤ maxUInt64)
    (ends : EndsNumber rest) :
    readUnsigned negative (Utf8.encode n.repr ++ rest) = wholeNumber negative n rest := by
  rw [encode_repr]
  rcases Nat.eq_zero_or_pos n with rfl | pos
  · -- A leading zero stands alone.
    change readUnsigned negative (byte '0' :: rest) = _
    rw [readUnsigned.eq_def]
    cases rest with
    | nil => rfl
    | cons d rest =>
      have stops := ends d rfl
      simp only [isNumeralByte, Bool.or_eq_false_iff] at stops
      simp only [stops.1.1.1.1]
      exact readAfterWhole_of_ends ends
  · obtain ⟨c, others, digits, digit⟩ := exists_digits n
    have number : Nat.ofDigitChars 10 others (c.toNat - '0'.toNat) = n := by
      have whole := Nat.ofDigitChars_ten_toDigits (n := n)
      rw [digits, Nat.ofDigitChars_cons] at whole
      rwa [Nat.mul_zero, Nat.zero_add] at whole
    have lead : byte c ≠ byte '0' := by
      have ascii := (toNat_of_isDigit (digit c List.mem_cons_self)).2
      rw [Ne, byte_inj (by omega) (by decide)]
      rintro rfl
      exact head?_toDigits_ne pos (by rw [digits]; rfl)
    obtain ⟨isDigit, value⟩ := digit_byte (digit c List.mem_cons_self)
    have counted : tallyDigits ⟨c.toNat - '0'.toNat, 1, 0⟩ (others.map byte ++ rest) =
        (⟨Nat.ofDigitChars 10 others (c.toNat - '0'.toNat), 1 + others.length, 0⟩, rest) :=
      tallyDigits_append (fun d hd => digit d (List.mem_cons_of_mem _ hd))
        (by rw [number]; exact fits) ends
    rw [digits, List.map_cons, List.cons_append, readUnsigned.eq_def]
    simp only [if_neg lead, isDigit, value, counted, number, if_pos]
    exact readAfterWhole_of_ends ends

/-- **Reading the digits of an integer gives the integer.** -/
theorem readNumber_integer {n : Int} (fits : (Number.integer n).IsInteger64)
    (ends : EndsNumber rest) :
    readNumber (Utf8.encode n.repr ++ rest) = .ok (.integer n, rest) := by
  obtain ⟨low, high⟩ := fits
  rw [Int.repr_eq_if]
  split
  case isTrue positive =>
    obtain ⟨m, rfl⟩ := Int.eq_ofNat_of_zero_le positive
    have unsigned : readNumber (Utf8.encode m.repr ++ rest) =
        readUnsigned false (Utf8.encode m.repr ++ rest) := by
      obtain ⟨c, others, digits, digit⟩ := exists_digits m
      have sign : byte c ≠ byte '-' := by
        have bound := toNat_of_isDigit (digit c List.mem_cons_self)
        rw [Ne, byte_inj (by omega) (by decide)]
        rintro rfl
        exact absurd bound.1 (by decide)
      rw [encode_repr, digits, List.map_cons, List.cons_append, readNumber, if_neg sign]
    rw [Int.toNat_natCast, unsigned, readUnsigned_repr (by rw [maxUInt64]; omega) ends]
    rfl
  case isFalse negative =>
    obtain ⟨m, rfl⟩ := Int.exists_eq_neg_ofNat (Int.le_of_lt (Int.not_le.1 negative))
    have bound : m ≤ minInt64Magnitude := by rw [minInt64Magnitude]; omega
    have signed : readNumber (Utf8.encode ("-" ++ m.repr) ++ rest) =
        readUnsigned true (Utf8.encode m.repr ++ rest) := by
      rw [Utf8.encode_append, List.append_assoc]
      rfl
    rw [Int.neg_neg, Int.toNat_natCast, signed,
      readUnsigned_repr (by rw [maxUInt64]; omega) ends, wholeNumber, decide_eq_true bound,
      decide_eq_true (show m ≠ 0 by omega)]
    rfl

end PropertyGate.Json
