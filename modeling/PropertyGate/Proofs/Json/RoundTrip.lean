import Mathlib.Data.List.Forall2
import PropertyGate.Proofs.Json.Leaves
import PropertyGate.Proofs.Turns
import PropertyGate.TextMap.Lemmas

/-!
# Proofs/Json/RoundTrip — documents are read back as they were written

A document is **plain** at a depth if it nests no deeper, every number is an integer of 64 bits and
the keys of every object ascend.  Reading what a plain document is written as gives the document
(`Plain.reads`): its parts are plain one level further down, the items of an array and the members of
an object are read one by one (`items_itemsInside`, `members_membersInside`), and members that ascend
are filed as they are.  That is so whether members are filed by their keys or kept as they are listed,
so the reader leaves open how they are filed (`Decoder.valueWith`).  Every object inside a plain
document lists its keys in the order of their bytes (`Plain.inByteOrder`).

What an item or a member is read as is left open (`Yields`), and so is what a loop does with the
members that it passes (`PassesMembers`): maps and records are read by such loops as well.
-/

namespace PropertyGate

/-! ## Filing what is filed -/

namespace Entries

variable {β γ : Type}

/-- Two entries stand under one key, and their values are related. -/
def UnderOneKey (related : β → γ → Prop) (entry : String × β) (other : String × γ) : Prop :=
  entry.1 = other.1 ∧ related entry.2 other.2

/-- Members that ascend are filed as they are. -/
theorem ofLatestFirst_reverse {entries : List (String × β)} (ascending : Ascending entries) :
    ofLatestFirst entries.reverse = entries :=
  eq_of_get?_eq (ascending_ofLatestFirst _) ascending fun key => by
    rw [get?_ofLatestFirst, get?_reverse ascending]

end Entries

theorem TextMap.ofList_entries {β : Type} (map : TextMap β) : TextMap.ofList map.entries = map :=
  TextMap.ext_get? fun key => by rw [get?_ofList, Entries.get?_reverse map.ascending, get?]

namespace Json

/-! ## Plain documents -/

/-- **A plain document**: it nests at most so deep, its numbers are integers of 64 bits, and the keys
of its objects ascend. -/
inductive Plain : (depth : Nat) → Value → Prop where
  | null {depth : Nat} : Plain depth .null
  | bool {depth : Nat} (b : Bool) : Plain depth (.bool b)
  | integer {depth : Nat} {n : Int} (fits : (Number.integer n).IsInteger64) :
      Plain depth (.number (.integer n))
  | text {depth : Nat} (text : String) : Plain depth (.text text)
  | array {depth : Nat} {items : List Value} (plain : ∀ item ∈ items, Plain depth item) :
      Plain (depth + 1) (.array items)
  | object {depth : Nat} {members : List (String × Value)} (ascending : Entries.Ascending members)
      (plain : ∀ member ∈ members, Plain depth member.2) : Plain (depth + 1) (.object members)

/-- **A document inside a document**, at any level. -/
inductive Within (inner : Value) : Value → Prop where
  | self : Within inner inner
  | item {item : Value} {items : List Value} (mem : item ∈ items) (within : Within inner item) :
      Within inner (.array items)
  | member {member : String × Value} {members : List (String × Value)} (mem : member ∈ members)
      (within : Within inner member.2) : Within inner (.object members)

/-- **Every object lists its keys in the order of their bytes**, none of them twice. -/
def Value.InByteOrder (value : Value) : Prop :=
  ∀ members, Within (.object members) value →
    (members.map fun member => Utf8.encode member.1).Pairwise (· < ·)

/-- What is inside a plain document is plain. -/
theorem Plain.within {depth : Nat} {inner value : Value} (within : Within inner value)
    (plain : Plain depth value) : ∃ deeper, Plain deeper inner := by
  induction within generalizing depth with
  | self => exact ⟨depth, plain⟩
  | item mem _ ih =>
    cases plain with
    | array plain => exact ih (plain _ mem)
  | member mem _ ih =>
    cases plain with
    | object _ plain => exact ih (plain _ mem)

/-- **A plain document lists its keys in the order of their bytes.** -/
theorem Plain.inByteOrder {depth : Nat} {value : Value} (plain : Plain depth value) :
    value.InByteOrder := by
  intro members within
  obtain ⟨_, object⟩ := plain.within within
  cases object with
  | object ascending =>
    exact List.pairwise_map.2 (ascending.imp fun less => Utf8.encode_lt_encode_iff.2 less)

/-! ## How a value begins -/

/-- The byte opens a number. -/
def opensNumber (b : UInt8) : Bool := b == byte '-' || isDigit b

/-- The byte can open a value. -/
structure Leads (b : UInt8) : Prop where
  not_blank : isBlank b = false
  ne_end : b ≠ byte ']'

theorem ne_of_opensNumber {b : UInt8} {c : Char} (opens : opensNumber b = true)
    (h : opensNumber (byte c) = false) : b ≠ byte c := by
  rintro rfl
  rw [opens] at h
  cases h

theorem leads_of_opensNumber {b : UInt8} (opens : opensNumber b = true) : Leads b where
  not_blank := by
    simp only [isBlank, Bool.or_eq_false_iff, beq_eq_false_iff_ne]
    refine ⟨⟨⟨?_, ?_⟩, ?_⟩, ?_⟩ <;> exact ne_of_opensNumber opens (by decide)
  ne_end := ne_of_opensNumber opens (by decide)

/-- An integer is written with a minus sign or a digit first. -/
theorem exists_encode_integer (n : Int) :
    ∃ b others, Utf8.encode n.repr = b :: others ∧ opensNumber b = true := by
  rw [Int.repr_eq_if]
  split
  · obtain ⟨c, others, digits, digit⟩ := exists_digits n.toNat
    refine ⟨byte c, others.map byte, by rw [encode_repr, digits]; rfl, ?_⟩
    rw [opensNumber, (digit_byte (digit c List.mem_cons_self)).1, Bool.or_true]
  · exact ⟨byte '-', Utf8.encode (-n).toNat.repr, by rw [Utf8.encode_append]; rfl, by decide⟩

/-- **A document begins with a byte that opens a value.** -/
def Value.Begins (value : Value) : Prop := ∃ b others, value.bytes = b :: others ∧ Leads b

theorem Value.begins {value : Value} (ne_double : ∀ x, value ≠ .number (.double x)) :
    value.Begins := by
  cases value with
  | null => exact ⟨_, _, rfl, by decide, by decide⟩
  | bool b => cases b <;> exact ⟨_, _, rfl, by decide, by decide⟩
  | number number =>
    cases number with
    | integer n =>
      obtain ⟨b, others, bytes, opens⟩ := exists_encode_integer n
      exact ⟨b, others, (bytes_number _).trans bytes, leads_of_opensNumber opens⟩
    | double x => exact absurd rfl (ne_double x)
  | text text => exact ⟨_, _, (bytes_text text).trans (encode_quoted text), by decide, by decide⟩
  | array => exact ⟨_, _, bytes_array _, by decide, by decide⟩
  | object => exact ⟨_, _, bytes_object _, by decide, by decide⟩

theorem Plain.ne_double {depth : Nat} {value : Value} (plain : Plain depth value) (x : Double) :
    value ≠ .number (.double x) := by
  rintro rfl
  cases plain

theorem Plain.begins {depth : Nat} {value : Value} (plain : Plain depth value) : value.Begins :=
  Value.begins plain.ne_double

theorem skipBlanks_of_leads {b : UInt8} {rest : Bytes} (leads : Leads b) :
    skipBlanks (b :: rest) = b :: rest := by
  rw [skipBlanks, leads.not_blank]
  rfl

/-! ## Reading back -/

section Reading

variable {α σ τ : Type} {fuel textFuel : Nat} {rest : Bytes} {read : Bytes → Reading α}

theorem endsNumber_itemsTail (items : List Value) : EndsNumber (Value.itemsTail items ++ rest) := by
  cases items <;> rintro b ⟨⟩ <;> decide

theorem endsNumber_membersTail (members : List (String × Value)) :
    EndsNumber (Value.membersTail members ++ rest) := by
  cases members <;> rintro b ⟨⟩ <;> decide

/-- **The value is read as `a`**, where no number goes on. -/
def Yields (read : Bytes → Reading α) (value : Value) (a : α) : Prop :=
  ∀ rest, EndsNumber rest → read (value.bytes ++ rest) = .ok (a, rest)

theorem items_step {before : List α} {item : Value} {a : α} {first : Bool} {input : Bytes}
    (next : nextItem first input = .ok (true, item.bytes ++ rest)) (yields : Yields read item a)
    (ends : EndsNumber rest) :
    Decoder.items read (fuel + 1) before first input =
      Decoder.items read fuel (a :: before) false rest := by
  rw [Decoder.items, next]
  simp only [yields rest ends]

/-- **The items that follow the first are read one by one.** -/
theorem items_itemsTail {before items : List α} {written : List Value}
    (yields : List.Forall₂ (Yields read) written items) (begins : ∀ item ∈ written, item.Begins)
    (enough : (Value.itemsTail written).length ≤ fuel) :
    Decoder.items read fuel before false (Value.itemsTail written ++ rest) =
      .ok (before.reverse ++ items, rest) := by
  induction yields generalizing fuel before with
  | nil =>
    obtain ⟨fuel, rfl⟩ := Nat.exists_eq_succ_of_ne_zero (Nat.ne_zero_of_lt enough)
    rw [List.append_nil]
    rfl
  | @cons item a others as yields _ ih =>
    obtain ⟨b, bytes, written, lead⟩ := begins item List.mem_cons_self
    obtain ⟨fuel, rfl⟩ := Nat.exists_eq_succ_of_ne_zero (Nat.ne_zero_of_lt enough)
    rw [Value.itemsTail, List.length_cons, List.length_append] at enough
    have next : nextItem false (Value.itemsTail (item :: others) ++ rest) =
        .ok (true, item.bytes ++ (Value.itemsTail others ++ rest)) := by
      have comma : skipBlanks (byte ',' :: (b :: bytes ++ (Value.itemsTail others ++ rest))) =
          byte ',' :: (b :: bytes ++ (Value.itemsTail others ++ rest)) := rfl
      rw [Value.itemsTail, List.cons_append, List.append_assoc, written, nextItem, comma]
      simp only [List.cons_append, skipBlanks_of_leads lead, if_neg lead.ne_end]
      rfl
    rw [items_step next yields (endsNumber_itemsTail others),
      ih (fun other mem => begins other (List.mem_cons_of_mem _ mem)) (by omega),
      List.reverse_cons, List.append_assoc, List.singleton_append]

/-- **The items of an array are read one by one.** -/
theorem items_itemsInside {items : List α} {written : List Value}
    (yields : List.Forall₂ (Yields read) written items) (begins : ∀ item ∈ written, item.Begins)
    (enough : (Value.itemsInside written).length < fuel) :
    Decoder.items read fuel [] true (Value.itemsInside written ++ rest) = .ok (items, rest) := by
  obtain ⟨fuel, rfl⟩ := Nat.exists_eq_succ_of_ne_zero (Nat.ne_zero_of_lt enough)
  cases yields with
  | nil => rfl
  | @cons item a others as yields follow =>
    obtain ⟨b, bytes, written, lead⟩ := begins item List.mem_cons_self
    rw [Value.itemsInside, List.length_append] at enough
    have next : nextItem true (Value.itemsInside (item :: others) ++ rest) =
        .ok (true, item.bytes ++ (Value.itemsTail others ++ rest)) := by
      rw [Value.itemsInside, List.append_assoc, written, List.cons_append, nextItem,
        skipBlanks_of_leads lead]
      exact if_neg lead.ne_end
    rw [items_step next yields (endsNumber_itemsTail others),
      items_itemsTail follow (fun other mem => begins other (List.mem_cons_of_mem _ mem))
        (by omega)]
    rfl

/-- **A loop passes the members of an object**: from the key of a member it comes to what follows
the member, in a state that `pass` allows, and where the object ends it comes to an end. -/
structure PassesMembers (textFuel : Nat) (loop : (fuel : Nat) → (first : Bool) → σ → Bytes → τ)
    (pass : σ → String × Value → σ → Prop) (finish : σ → Bytes → τ) : Prop where
  stop {fuel : Nat} {first : Bool} {state : σ} {input rest : Bytes}
    (next : nextKey first input = .ok (false, rest)) :
    loop (fuel + 1) first state input = finish state rest
  goOn {fuel : Nat} {first : Bool} {state after : σ} {key : String} {value : Value}
    {input rest : Bytes} (passed : pass state (key, value) after)
    (next : nextKey first input =
      .ok (true, escapedBytes key.toList ++ byte '"' :: byte ':' :: (value.bytes ++ rest)))
    (enough : (escapedBytes key.toList).length < textFuel) (ends : EndsNumber rest) :
    loop (fuel + 1) first state input = loop fuel false after rest

namespace PassesMembers

variable {loop : (fuel : Nat) → (first : Bool) → σ → Bytes → τ}
  {pass : σ → String × Value → σ → Prop} {finish : σ → Bytes → τ}
  {members : List (String × Value)} {state after : σ}

/-- **The members that follow the first are passed one by one.** -/
theorem membersTail (passes : PassesMembers textFuel loop pass finish)
    (turns : Turns pass state members after)
    (enough : (Value.membersTail members).length ≤ fuel) (within : fuel ≤ textFuel) :
    loop fuel false state (Value.membersTail members ++ rest) = finish after rest := by
  induction turns generalizing fuel with
  | stay =>
    obtain ⟨fuel, rfl⟩ := Nat.exists_eq_succ_of_ne_zero (Nat.ne_zero_of_lt enough)
    exact passes.stop rfl
  | @move _ _ _ member others first _ ih =>
    obtain ⟨key, value⟩ := member
    obtain ⟨fuel, rfl⟩ := Nat.exists_eq_succ_of_ne_zero (Nat.ne_zero_of_lt enough)
    rw [Value.membersTail, encode_quoted] at enough
    simp only [List.length_cons, List.length_append] at enough
    have next : nextKey false (Value.membersTail ((key, value) :: others) ++ rest) =
        .ok (true, escapedBytes key.toList ++ byte '"' :: byte ':' ::
          (value.bytes ++ (Value.membersTail others ++ rest))) := by
      rw [Value.membersTail, encode_quoted]
      simp only [List.cons_append, List.append_assoc, List.nil_append]
      rfl
    rw [passes.goOn first next (by omega) (endsNumber_membersTail others),
      ih (by omega) (by omega)]

/-- **The members of an object are passed one by one.** -/
theorem membersInside (passes : PassesMembers fuel loop pass finish)
    (turns : Turns pass state members after)
    (enough : (Value.membersInside members).length < fuel) :
    loop fuel true state (Value.membersInside members ++ rest) = finish after rest := by
  obtain ⟨fuel, rfl⟩ := Nat.exists_eq_succ_of_ne_zero (Nat.ne_zero_of_lt enough)
  cases turns with
  | stay => exact passes.stop rfl
  | @move _ _ _ member others first follow =>
    obtain ⟨key, value⟩ := member
    rw [Value.membersInside, encode_quoted] at enough
    simp only [List.length_cons, List.length_append] at enough
    have next : nextKey true (Value.membersInside ((key, value) :: others) ++ rest) =
        .ok (true, escapedBytes key.toList ++ byte '"' :: byte ':' ::
          (value.bytes ++ (Value.membersTail others ++ rest))) := by
      rw [Value.membersInside, encode_quoted]
      simp only [List.cons_append, List.append_assoc, List.nil_append]
      rfl
    rw [passes.goOn first next (by omega) (endsNumber_membersTail others),
      passes.membersTail follow (by omega) (by omega)]

end PassesMembers

/-- A member is read and put before those that were read. -/
def Prepends (read : Bytes → Reading α) (before : List (String × α)) (member : String × Value)
    (after : List (String × α)) : Prop :=
  ∃ a, Yields read member.2 a ∧ after = (member.1, a) :: before

theorem passesMembers_members (read : Bytes → Reading α) (textFuel : Nat) :
    PassesMembers textFuel
      (fun fuel first before => Decoder.members read textFuel fuel before first)
      (Prepends read) (fun before rest => .ok (before, rest)) where
  stop next := by rw [Decoder.members, next]
  goOn passed next enough ends := by
    obtain ⟨a, yields, rfl⟩ := passed
    have colon {rest : Bytes} : readColon (byte ':' :: rest) = .ok rest := rfl
    dsimp only
    rw [Decoder.members, next]
    simp only [readText_quoted enough, colon, yields _ ends]

theorem turns_prepends {members : List (String × Value)} {entries : List (String × α)}
    (yields : List.Forall₂ (Entries.UnderOneKey (Yields read)) members entries)
    (before : List (String × α)) :
    Turns (Prepends read) before members (entries.reverse ++ before) := by
  induction yields generalizing before with
  | nil => exact .stay before
  | @cons member entry _ _ both _ ih =>
    rw [List.reverse_cons, List.append_assoc, List.singleton_append]
    exact .move ⟨entry.2, both.2, by rw [both.1]⟩ (ih _)

/-- **The members of an object are read one by one**; the last of them comes first. -/
theorem members_membersInside {members : List (String × Value)} {entries : List (String × α)}
    (yields : List.Forall₂ (Entries.UnderOneKey (Yields read)) members entries)
    (enough : (Value.membersInside members).length < fuel) :
    Decoder.members read fuel fuel [] true (Value.membersInside members ++ rest) =
      .ok (entries.reverse, rest) := by
  have turns := turns_prepends yields []
  rw [List.append_nil] at turns
  exact (passesMembers_members read fuel).membersInside turns enough

/-! ## No part is longer than the whole -/

theorem length_lt_itemsTail {item : Value} {items : List Value} (mem : item ∈ items) :
    item.bytes.length < (Value.itemsTail items).length := by
  induction items with
  | nil => cases mem
  | cons other others ih =>
    rw [Value.itemsTail, List.length_cons, List.length_append]
    rcases List.mem_cons.1 mem with rfl | mem
    · omega
    · have shorter := ih mem
      omega

theorem length_le_itemsInside {item : Value} {items : List Value} (mem : item ∈ items) :
    item.bytes.length ≤ (Value.itemsInside items).length := by
  cases items with
  | nil => cases mem
  | cons => exact Nat.le_of_lt_succ (length_lt_itemsTail mem)

theorem length_lt_membersTail {member : String × Value} {members : List (String × Value)}
    (mem : member ∈ members) : member.2.bytes.length < (Value.membersTail members).length := by
  induction members with
  | nil => cases mem
  | cons other others ih =>
    simp only [Value.membersTail, List.length_cons, List.length_append]
    rcases List.mem_cons.1 mem with rfl | mem
    · omega
    · have shorter := ih mem
      omega

theorem length_le_membersInside {member : String × Value} {members : List (String × Value)}
    (mem : member ∈ members) : member.2.bytes.length ≤ (Value.membersInside members).length := by
  cases members with
  | nil => cases mem
  | cons => exact Nat.le_of_lt_succ (length_lt_membersTail mem)

/-! ## A whole document -/

/-- Reads a document whose items and members are read by `inside?`, where anything may still open;
`file` gives the members of an object, given those that were read, the last of them first. -/
def Decoder.level (file : List (String × Value) → List (String × Value)) (fuel : Nat)
    (inside? : Option (Bytes → Reading Value)) (input : Bytes) : Reading Value :=
  match skipBlanks input with
  | [] => stopAhead .endInValue []
  | b :: rest =>
    if b = byte '[' then
      match inside? with
      | none => stopAhead .nestedTooDeep (b :: rest)
      | some inside =>
        match items inside fuel [] true rest with
        | .error stop => .error stop
        | .ok (items, rest) => .ok (.array items, rest)
    else if b = byte '{' then
      match inside? with
      | none => stopAhead .nestedTooDeep (b :: rest)
      | some inside =>
        match members inside fuel fuel [] true rest with
        | .error stop => .error stop
        | .ok (members, rest) => .ok (.object (file members), rest)
    else
      match readScalar fuel (b :: rest) with
      | .error stop => .error stop
      | .ok (scalar, rest) => .ok (scalar.value, rest)

/-- Reads any document, level by level. -/
def Decoder.valueWith (file : List (String × Value) → List (String × Value)) (fuel : Nat) :
    (depth : Nat) → Bytes → Reading Value
  | 0 => level file fuel none
  | depth + 1 => level file fuel (some (valueWith file fuel depth))

/-- Of the members under one key, reading a document keeps the last. -/
theorem Decoder.value_eq_valueWith (fuel depth : Nat) :
    value fuel depth = valueWith Entries.ofLatestFirst fuel depth := by
  induction depth with
  | zero =>
    funext input
    unfold value valueWith level
    rfl
  | succ depth ih =>
    funext input
    unfold value valueWith level
    dsimp only
    rewrite [ih]
    rfl

/-- A document is read as a level, whatever may still open. -/
theorem Decoder.exists_level (file : List (String × Value) → List (String × Value))
    (fuel depth : Nat) : ∃ inside?, valueWith file fuel depth = level file fuel inside? := by
  cases depth with
  | zero => exact ⟨_, rfl⟩
  | succ depth => exact ⟨_, rfl⟩

variable {file : List (String × Value) → List (String × Value)} {depth : Nat}

theorem readScalar_of_opensNumber {b : UInt8} {input : Bytes} (opens : opensNumber b = true) :
    readScalar fuel (b :: input) =
      (readNumber (b :: input)).map fun (number, rest) => (Scalar.number number, rest) := by
  rw [readScalar, if_neg (ne_of_opensNumber opens (by decide)),
    if_neg (ne_of_opensNumber opens (by decide)), if_neg (ne_of_opensNumber opens (by decide)),
    if_pos (by simpa [opensNumber] using opens)]

/-- **A scalar is read back**: it begins with a byte that opens no array and no object, and where no
number goes on it is read as it is written. -/
structure Scalar.ReadsBack (fuel : Nat) (scalar : Scalar) (b : UInt8) (others : Bytes) : Prop where
  written : scalar.value.bytes = b :: others
  leads : Leads b
  array : b ≠ byte '['
  object : b ≠ byte '{'
  read {rest : Bytes} (ends : EndsNumber rest) :
    readScalar fuel (b :: (others ++ rest)) = .ok (scalar, rest)

/-- Every scalar is read back, if its numbers are integers of 64 bits. -/
theorem Scalar.exists_readsBack {scalar : Scalar}
    (whole : ∀ number, scalar = .number number → number.IsInteger64)
    (enough : scalar.value.bytes.length ≤ fuel) : ∃ b others, scalar.ReadsBack fuel b others := by
  cases scalar with
  | null => exact ⟨_, _, rfl, ⟨by decide, by decide⟩, by decide, by decide, fun _ => rfl⟩
  | bool b =>
    cases b <;> exact ⟨_, _, rfl, ⟨by decide, by decide⟩, by decide, by decide, fun _ => rfl⟩
  | number number =>
    have fits := whole number rfl
    cases number with
    | double => exact fits.elim
    | integer n =>
      obtain ⟨b, others, written, opens⟩ := exists_encode_integer n
      refine ⟨b, others, (Value.bytes_number _).trans written, leads_of_opensNumber opens,
        ne_of_opensNumber opens (by decide), ne_of_opensNumber opens (by decide), fun ends => ?_⟩
      have read := readNumber_integer fits ends
      rw [written, List.cons_append] at read
      rw [readScalar_of_opensNumber opens, read]
      rfl
  | text text =>
    have written := encode_quoted text
    rw [show (Scalar.text text).value.bytes = _ from Value.bytes_text text, written] at enough
    simp only [List.length_cons, List.length_append] at enough
    refine ⟨_, _, (Value.bytes_text text).trans written, ⟨by decide, by decide⟩, by decide,
      by decide, fun {rest} _ => ?_⟩
    have read : readText fuel (escapedBytes text.toList ++ byte '"' :: rest) = .ok (text, rest) :=
      readText_quoted (by omega)
    rw [List.append_assoc]
    change (readText fuel (escapedBytes text.toList ++ byte '"' :: rest)).map _ = _
    rw [read]
    rfl

theorem yields_scalar (scalar : Scalar)
    (whole : ∀ number, scalar = .number number → number.IsInteger64)
    (enough : scalar.value.bytes.length ≤ fuel) :
    Yields (Decoder.valueWith file fuel depth) scalar.value scalar.value := by
  obtain ⟨b, others, back⟩ := Scalar.exists_readsBack whole enough
  obtain ⟨inside?, level⟩ := Decoder.exists_level file fuel depth
  intro rest ends
  rw [back.written, List.cons_append, level, Decoder.level, skipBlanks_of_leads back.leads]
  simp only [if_neg back.array, if_neg back.object, back.read ends]

/-- **An array is read as the array of what its items are read as.** -/
theorem yields_array {written items : List Value}
    (yields : List.Forall₂ (Yields (Decoder.valueWith file fuel depth)) written items)
    (begins : ∀ item ∈ written, item.Begins)
    (enough : (Value.bytes (.array written)).length ≤ fuel) :
    Yields (Decoder.valueWith file fuel (depth + 1)) (.array written) (.array items) := by
  intro rest _
  rw [Value.bytes_array, List.length_cons] at enough
  rw [Value.bytes_array, List.cons_append, Decoder.valueWith, Decoder.level,
    skipBlanks_of_leads ⟨by decide, by decide⟩]
  simp only [if_pos, items_itemsInside yields begins enough]

/-- **An object is read as what is filed of its members**, the last of them first. -/
theorem yields_object {members entries : List (String × Value)}
    (yields : List.Forall₂ (Entries.UnderOneKey (Yields (Decoder.valueWith file fuel depth)))
      members entries)
    (enough : (Value.bytes (.object members)).length ≤ fuel) :
    Yields (Decoder.valueWith file fuel (depth + 1)) (.object members)
      (.object (file entries.reverse)) := by
  intro rest _
  have brace : byte '{' ≠ byte '[' := by decide
  rw [Value.bytes_object, List.length_cons] at enough
  rw [Value.bytes_object, List.cons_append, Decoder.valueWith, Decoder.level,
    skipBlanks_of_leads ⟨by decide, by decide⟩]
  simp only [if_neg brace, if_pos, members_membersInside yields enough]

theorem length_le_array {item : Value} {items : List Value} (mem : item ∈ items)
    (enough : (Value.bytes (.array items)).length ≤ fuel) : item.bytes.length ≤ fuel := by
  rw [Value.bytes_array, List.length_cons] at enough
  exact Nat.le_trans (length_le_itemsInside mem) (Nat.le_of_succ_le enough)

theorem length_le_object {member : String × Value} {members : List (String × Value)}
    (mem : member ∈ members) (enough : (Value.bytes (.object members)).length ≤ fuel) :
    member.2.bytes.length ≤ fuel := by
  rw [Value.bytes_object, List.length_cons] at enough
  exact Nat.le_trans (length_le_membersInside mem) (Nat.le_of_succ_le enough)

/-- **A plain document is read as it is written**, if members that ascend are filed as they are. -/
theorem Plain.reads {value : Value} (plain : Plain depth value)
    (keeps : ∀ members, Entries.Ascending members → file members.reverse = members)
    (enough : value.bytes.length ≤ fuel) :
    Yields (Decoder.valueWith file fuel depth) value value := by
  induction plain with
  | null => exact yields_scalar .null nofun enough
  | bool b => exact yields_scalar (.bool b) nofun enough
  | integer fits =>
    refine yields_scalar (.number (.integer _)) (fun number same => ?_) enough
    cases same
    exact fits
  | text text => exact yields_scalar (.text text) nofun enough
  | array plain ih =>
    have read := List.forall₂_same.2 fun item mem => ih item mem (length_le_array mem enough)
    exact yields_array read (fun item mem => (plain item mem).begins) enough
  | object ascending plain ih =>
    have read := yields_object (List.forall₂_same.2 fun member mem =>
      ⟨rfl, ih member mem (length_le_object mem enough)⟩) enough
    rwa [keeps _ ascending] at read

/-- **A plain document is decoded as what it is written from.** -/
theorem Plain.decode {value : Value} (plain : Plain maxDepth value)
    (keeps : ∀ members, Entries.Ascending members → file members.reverse = members) :
    decode (Decoder.valueWith file) value.bytes = .ok value := by
  have read := plain.reads keeps (Nat.le_succ _) [] nofun
  rw [List.append_nil] at read
  rw [Json.decode, read]
  rfl

/-- A bracket or brace that opens something is gone past, where something may still open. -/
theorem compound_of_lead {expected : String} {open? : UInt8 → Option (Bytes → Reading α)}
    {b : UInt8} {body : Bytes → Reading α} {input after : Bytes}
    (lead : skipBlanks input = b :: after) (opens : open? b = some body) :
    Decoder.compound expected open? fuel (depth + 1) input = body after := by
  rw [Decoder.compound, lead]
  dsimp only
  rw [opens]
  exact if_neg (Nat.succ_ne_zero depth)

/-- **An object is read as the map of what its members are read as.** -/
theorem yields_map {member : Decoder α} {members : List (String × Value)}
    {entries : List (String × α)}
    (yields : List.Forall₂ (Entries.UnderOneKey (Yields (member fuel depth))) members entries)
    (enough : (Value.bytes (.object members)).length ≤ fuel) :
    Yields (Decoder.map member fuel (depth + 1)) (.object members) (TextMap.ofList entries) := by
  intro rest _
  rw [Value.bytes_object, List.length_cons] at enough
  rw [Value.bytes_object, List.cons_append]
  refine (compound_of_lead (skipBlanks_of_leads ⟨by decide, by decide⟩) (if_pos rfl)).trans ?_
  simp only [Nat.add_sub_cancel, members_membersInside yields enough, List.reverse_reverse]

/-- **A plain object is decoded as the map of its members.** -/
theorem Plain.decode_map {map : TextMap Value} (plain : Plain maxDepth (.object map.entries)) :
    Json.decode (Decoder.map Decoder.value) (Value.bytes (.object map.entries)) = .ok map := by
  have members : ∀ member ∈ map.entries, Plain 126 member.2 := by
    cases plain with
    | object _ plain => exact plain
  have yields : List.Forall₂ (Entries.UnderOneKey (Yields (Decoder.value
      ((Value.bytes (.object map.entries)).length + 1) 126))) map.entries map.entries :=
    List.forall₂_same.2 fun member mem => by
      rw [Decoder.value_eq_valueWith]
      exact ⟨rfl, (members member mem).reads (fun _ => Entries.ofLatestFirst_reverse)
        (length_le_object mem (Nat.le_succ _))⟩
  have read := yields_map yields (Nat.le_succ _) [] nofun
  rw [List.append_nil, TextMap.ofList_entries] at read
  rw [Json.decode, maxDepth, read]
  rfl

end Reading

end Json

end PropertyGate
