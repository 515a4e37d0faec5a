import PropertyGate.Proofs.Text.Bytes
import PropertyGate.Service.Endpoint

/-!
# Proofs/Http/Spelling — how a path spells the id of a post

The path of a post is a fixed text and one segment behind it (`ofPath?_eq_post_iff`).  The segment
`Spells` an id if every character of the id stands there as itself or as an escape.  **Segments that
stand for well-formed ids are those that spell them** (`decodeSegment?_eq_iff_spells`): no other bytes,
incomplete escapes or characters outside ASCII come out as letters and digits.
-/

namespace PropertyGate

/-! ## Letters and digits -/

/-- A letter or digit is an ASCII character, and no mark of an escape. -/
theorem Text.ascii_of_isAlphanum {c : Char} (h : c.isAlphanum = true) :
    c.toNat < 128 ∧ c ≠ '%' := by
  constructor
  · change ((decide (65 ≤ c.val ∧ c.val ≤ 90) || (decide (97 ≤ c.val) && decide (c.val ≤ 122))) ||
      (decide (48 ≤ c.val) && decide (c.val ≤ 57))) = true at h
    simp only [Bool.or_eq_true, Bool.and_eq_true, decide_eq_true_eq, UInt32.le_iff_toNat_le] at h
    change ((65 ≤ c.toNat ∧ c.toNat ≤ 90) ∨ (97 ≤ c.toNat ∧ c.toNat ≤ 122)) ∨
      (48 ≤ c.toNat ∧ c.toNat ≤ 57) at h
    omega
  · rintro rfl
    exact absurd h (by decide)

/-- ASCII characters are told apart by their bytes. -/
theorem byte_inj {c d : Char} (hc : c.toNat < 128) (hd : d.toNat < 128) :
    byte c = byte d ↔ c = d := by
  refine ⟨fun same => Char.toNat_inj.1 ?_, congrArg byte⟩
  have numbers := congrArg UInt8.toNat same
  simp only [byte, Char.toUInt8, UInt32.toNat_toUInt8, Char.toNat_val] at numbers
  omega

namespace Http

/-! ## Escapes -/

/-- The character is a hexadecimal digit of the given value, in either case. -/
def IsHex (c : Char) (value : Nat) : Prop :=
  c = Nat.digitChar value ∨ c = (Nat.digitChar value).toUpper

/-- **The segment spells the id**: every character stands as itself, or as an escape of its
number. -/
inductive Spells : (segment id : List Char) → Prop
  | nil : Spells [] []
  | plain {c : Char} {segment id : List Char} (rest : Spells segment id) :
      Spells (c :: segment) (c :: id)
  | escaped {high low c : Char} {segment id : List Char} (first : IsHex high (c.toNat / 16))
      (second : IsHex low (c.toNat % 16)) (rest : Spells segment id) :
      Spells ('%' :: high :: low :: segment) (c :: id)

theorem IsHex.hexValue? {c : Char} {value : Nat} (h : IsHex c value) (bound : value < 16) :
    hexValue? (byte c) = some value := by
  rcases h with rfl | rfl
  · exact (Utf8.hexValue?_digitChar bound).1
  · exact (Utf8.hexValue?_digitChar bound).2

theorem IsHex.ascii {c : Char} {value : Nat} (h : IsHex c value) (bound : value < 16) :
    c.toNat < 128 := by
  have all : ∀ n < 16, (Nat.digitChar n).toNat < 128 ∧ (Nat.digitChar n).toUpper.toNat < 128 := by
    decide
  rcases h with rfl | rfl
  · exact (all value bound).1
  · exact (all value bound).2

/-- What is read as a digit is one. -/
theorem exists_isHex {b : UInt8} {value : Nat} (h : hexValue? b = some value) :
    value < 16 ∧ ∃ c, byte c = b ∧ IsHex c value := by
  have all : ∀ i : Fin 256, ∀ n ∈ hexValue? (UInt8.ofFin i), n < 16 ∧
      (byte (Nat.digitChar n) = UInt8.ofFin i ∨ byte (Nat.digitChar n).toUpper = UInt8.ofFin i) := by
    decide +kernel
  obtain ⟨bound, found | found⟩ := all b.toFin value h
  · exact ⟨bound, _, found, .inl rfl⟩
  · exact ⟨bound, _, found, .inr rfl⟩

theorem percentDecode_cons_of_ne {b : UInt8} (h : b ≠ byte '%') (rest : Bytes) :
    percentDecode (b :: rest) = b :: percentDecode rest := by
  match rest with
  | [] | [_] | _ :: _ :: _ => simp [percentDecode, h]

theorem percentDecode_escape {high low escaped : UInt8} (h : escapedByte? high low = some escaped)
    (rest : Bytes) :
    percentDecode (byte '%' :: high :: low :: rest) = escaped :: percentDecode rest := by
  rw [percentDecode, if_pos rfl, h]

/-- Two digits name the byte of the character whose number they are. -/
theorem escapedByte?_of_isHex {high low c : Char} (ascii : c.toNat < 128)
    (first : IsHex high (c.toNat / 16)) (second : IsHex low (c.toNat % 16)) :
    escapedByte? (byte high) (byte low) = some (byte c) := by
  rw [escapedByte?, first.hexValue? (by omega), second.hexValue? (by omega)]
  have number : c.toNat / 16 * 16 + c.toNat % 16 = c.toNat := by omega
  simp only [number]
  rfl

/-- A segment that spells an id stands for it. -/
theorem Spells.percentDecode {segment id : List Char} (h : Spells segment id)
    (plain : ∀ c ∈ id, c.isAlphanum = true) :
    (∀ c ∈ segment, c.toNat < 128) ∧ percentDecode (segment.map byte) = id.map byte := by
  induction h with
  | nil => exact ⟨nofun, rfl⟩
  | @plain c segment id rest ih =>
    obtain ⟨ascii, decoded⟩ := ih fun d hd => plain d (List.mem_cons_of_mem _ hd)
    obtain ⟨small, unmarked⟩ := Text.ascii_of_isAlphanum (plain c List.mem_cons_self)
    refine ⟨List.forall_mem_cons.2 ⟨small, ascii⟩, ?_⟩
    rw [List.map_cons, percentDecode_cons_of_ne ?_, decoded, List.map_cons]
    exact fun same => unmarked ((byte_inj small (by decide)).1 same)
  | @escaped high low c segment id first second rest ih =>
    obtain ⟨ascii, decoded⟩ := ih fun d hd => plain d (List.mem_cons_of_mem _ hd)
    obtain ⟨small, -⟩ := Text.ascii_of_isAlphanum (plain c List.mem_cons_self)
    constructor
    · simp only [List.forall_mem_cons]
      exact ⟨by decide, first.ascii (by omega), second.ascii (by omega), ascii⟩
    · rw [List.map_cons, List.map_cons, List.map_cons,
        percentDecode_escape (escapedByte?_of_isHex small first second), decoded, List.map_cons]

/-- **Bytes that stand for letters and digits spell them.** -/
theorem exists_spells {bytes : Bytes} {id : List Char} (plain : ∀ c ∈ id, c.isAlphanum = true)
    (decoded : percentDecode bytes = id.map byte) :
    ∃ segment : List Char, (∀ c ∈ segment, c.toNat < 128) ∧ bytes = segment.map byte ∧
      Spells segment id := by
  -- A byte that stands for itself is the first character of the id.
  have itself : ∀ {b : UInt8} {rest : Bytes} {id : List Char}, (∀ c ∈ id, c.isAlphanum = true) →
      b :: percentDecode rest = id.map byte →
      ∃ c others, id = c :: others ∧ c.toNat < 128 ∧ b = byte c ∧
        percentDecode rest = others.map byte ∧ ∀ d ∈ others, d.isAlphanum = true := by
    intro b rest id plain decoded
    cases id with
    | nil => cases decoded
    | cons c others =>
      obtain ⟨hb, hrest⟩ := List.cons.inj decoded
      exact ⟨c, others, rfl, (Text.ascii_of_isAlphanum (plain c List.mem_cons_self)).1, hb, hrest,
        fun d hd => plain d (List.mem_cons_of_mem _ hd)⟩
  fun_induction percentDecode bytes generalizing id with
  | case1 high low rest escaped named ih =>
    obtain ⟨c, others, rfl, small, rfl, hrest, plain'⟩ := itself plain decoded
    obtain ⟨segment, ascii, rfl, spells⟩ := ih plain' hrest
    rw [escapedByte?] at named
    split at named
    · rename_i first second hfirst hsecond
      obtain ⟨bound, highDigit, rfl, isHigh⟩ := exists_isHex hfirst
      obtain ⟨bound', lowDigit, rfl, isLow⟩ := exists_isHex hsecond
      have number : first * 16 + second = c.toNat := by
        have bytes := congrArg UInt8.toNat (Option.some.inj named)
        simp only [byte, Char.toUInt8, UInt32.toNat_toUInt8, Char.toNat_val,
          Nat.toUInt8_eq, UInt8.toNat_ofNat'] at bytes
        omega
      have highValue : c.toNat / 16 = first := by omega
      have lowValue : c.toNat % 16 = second := by omega
      refine ⟨'%' :: highDigit :: lowDigit :: segment, ?_, rfl,
        .escaped (highValue ▸ isHigh) (lowValue ▸ isLow) spells⟩
      simp only [List.forall_mem_cons]
      exact ⟨by decide, isHigh.ascii bound, isLow.ascii bound', ascii⟩
    · cases named
  | case2 high low rest unnamed ih =>
    obtain ⟨c, others, rfl, small, mark, -⟩ := itself plain decoded
    exact absurd ((byte_inj (by decide) small).1 mark).symm
      (Text.ascii_of_isAlphanum (plain c List.mem_cons_self)).2
  | case3 b high low rest unmarked ih =>
    obtain ⟨c, others, rfl, small, rfl, hrest, plain'⟩ := itself plain decoded
    obtain ⟨segment, ascii, same, spells⟩ := ih plain' hrest
    exact ⟨c :: segment, List.forall_mem_cons.2 ⟨small, ascii⟩, congrArg _ same, .plain spells⟩
  | case4 bytes short =>
    refine ⟨id, fun c hc => (Text.ascii_of_isAlphanum (plain c hc)).1, decoded, ?_⟩
    clear decoded plain
    induction id with
    | nil => exact .nil
    | cons c others ih => exact .plain ih

/-- **A segment stands for a well-formed id just if it spells it.** -/
theorem decodeSegment?_eq_iff_spells {segment id : String}
    (plain : ∀ c ∈ id.toList, c.isAlphanum = true) :
    decodeSegment? segment = some id ↔ Spells segment.toList id.toList := by
  have bytes : Utf8.encode id = id.toList.map byte := by
    rw [← Utf8.encode_ofList_of_ascii fun c hc => (Text.ascii_of_isAlphanum (plain c hc)).1,
      String.ofList_toList]
  constructor
  · intro decoded
    have same := (Utf8.encode_of_decode? decoded).symm.trans bytes
    obtain ⟨chars, ascii, hbytes, spells⟩ := exists_spells plain same
    rw [← Utf8.encode_ofList_of_ascii ascii, Utf8.encode_inj] at hbytes
    rw [hbytes, String.toList_ofList]
    exact spells
  · intro spells
    obtain ⟨ascii, decoded⟩ := spells.percentDecode plain
    rw [← Utf8.encode_ofList_of_ascii ascii, String.ofList_toList, ← bytes] at decoded
    rw [decodeSegment?, decoded, Utf8.decode?_encode]

end Http

/-! ## The path of a post -/

namespace Text

/-- A text without separators is one piece. -/
theorem pieces_of_not_mem {separator : Char} {text : List Char} (h : separator ∉ text) :
    pieces separator text = [text] := by
  induction text with
  | nil => rfl
  | cons c rest ih =>
    rw [List.mem_cons, not_or] at h
    rw [pieces, if_neg (Ne.symm h.1), ih h.2]

end Text

namespace Route

/-- What stands before the segment of a post. -/
def postsPath : String := "/api/v4/properties/posts/"

theorem segments_postsPath {segment : String} (whole : '/' ∉ segment.toList) :
    Http.segments (postsPath ++ segment) =
      ["", "api", "v4", "properties", "posts", segment] := by
  have chars : (postsPath ++ segment).toList = postsPath.toList ++ segment.toList :=
    String.toList_append
  rw [Http.segments, Text.split, chars]
  simp [postsPath, Text.pieces, Text.pieces_of_not_mem whole]

/-- **The path of a post is the fixed text and a segment.** -/
theorem ofPath?_eq_post_iff {path segment : String} :
    ofPath? path = some (.post segment) ↔
      path = postsPath ++ segment ∧ segment ≠ "" ∧ '/' ∉ segment.toList := by
  constructor
  · intro found
    rw [ofPath?] at found
    split at found <;> try cases found
    rename_i id cut
    split at found <;> cases found
    rename_i nonempty
    rw [String.isEmpty_iff] at nonempty
    rw [Http.segments, Text.split] at cut
    have pieces : Text.pieces '/' path.toList =
        [[], "api".toList, "v4".toList, "properties".toList, "posts".toList, segment.toList] := by
      have chars := congrArg (List.map String.toList) cut
      simpa [List.map_map, Function.comp_def] using chars
    refine ⟨?_, nonempty, ?_⟩
    · rw [← String.toList_inj, ← Text.joined_pieces '/' path.toList, pieces, String.toList_append]
      simp [Text.joined, postsPath]
    · have last : segment.toList ∈ Text.pieces '/' path.toList := by
        rw [pieces]
        exact List.mem_of_getLast? rfl
      exact Text.separator_not_mem_of_mem_pieces last
  · rintro ⟨rfl, nonempty, whole⟩
    rw [ofPath?, segments_postsPath whole]
    simp [nonempty]

end Route

end PropertyGate
