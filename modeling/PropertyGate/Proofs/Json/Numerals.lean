import PropertyGate.Proofs.FirstFailure
import PropertyGate.Proofs.Json.RoundTrip
import PropertyGate.Proofs.Property.Flatten

/-!
# Proofs/Json/Numerals — documents that write every number as an integer

`numerals` goes through the bytes of a document and takes out the numerals that stand outside its
strings.  Every reader goes through a document in step with it: outside strings it passes over bytes
that open neither a string nor a number, and it leaves a string where the string ends.  So **what is
read from a document that writes only integers of 64 bits is plain** (`plain_of_decode_map`): every
number comes as an integer, and the reader files members by their keys and counts the nesting.
-/

namespace PropertyGate.Json

/-! ## The numerals of a document -/

/-- Where in a document a byte stands. -/
inductive Place where
  | outside
  | inText
  /-- Behind a backslash inside a string. -/
  | escaped
  /-- Behind some bytes of a numeral, the last of them first. -/
  | inNumeral (before : Bytes)
deriving DecidableEq, Repr

/-- Where the byte behind one outside strings and numerals stands. -/
def Place.after (b : UInt8) : Place :=
  if b = byte '"' then .inText else if opensNumber b then .inNumeral [b] else .outside

/-- **The numerals that a document writes outside its strings**: from a minus sign or a digit on, all
bytes that can stand in a number. -/
def numerals : Place → Bytes → List Bytes
  | .inNumeral before, [] => [before.reverse]
  | _, [] => []
  | .outside, b :: rest => numerals (.after b) rest
  | .inText, b :: rest =>
    if b = byte '"' then numerals .outside rest
    else if b = byte '\\' then numerals .escaped rest
    else numerals .inText rest
  | .escaped, _ :: rest => numerals .inText rest
  | .inNumeral before, b :: rest =>
    if isNumeralByte b then numerals (.inNumeral (b :: before)) rest
    else before.reverse :: numerals (.after b) rest

/-- **The document writes every number as an integer of 64 bits**, without point, exponent or a zero
with a sign. -/
def WritesIntegers (document : Bytes) : Prop :=
  ∀ numeral ∈ numerals .outside document,
    ∃ n : Int, (Number.integer n).IsInteger64 ∧ numeral = Utf8.encode n.repr

variable {input rest : Bytes} {fuel depth : Nat}

/-! ## Passing over -/

/-- The byte opens neither a string nor a number. -/
def isQuiet (b : UInt8) : Bool := b != byte '"' && !opensNumber b

theorem numerals_quiet {b : UInt8} (quiet : isQuiet b = true) :
    numerals .outside (b :: rest) = numerals .outside rest := by
  simp only [isQuiet, Bool.and_eq_true, bne_iff_ne, Bool.not_eq_true'] at quiet
  rw [numerals, Place.after, if_neg quiet.1, quiet.2]
  rfl

theorem quiet_of_isBlank {b : UInt8} (blank : isBlank b = true) : isQuiet b = true := by
  simp only [isBlank, Bool.or_eq_true, beq_iff_eq] at blank
  rcases blank with ((rfl | rfl) | rfl) | rfl <;> decide

theorem numerals_skipBlanks (input : Bytes) :
    numerals .outside (skipBlanks input) = numerals .outside input := by
  induction input with
  | nil => rfl
  | cons b rest ih =>
    rw [skipBlanks]
    split
    case isTrue blank => rw [ih, numerals_quiet (quiet_of_isBlank blank)]
    case isFalse => rfl

theorem numerals_expectWord {word : List Char} (quiet : word.all (isQuiet <| byte ·) = true)
    (h : expectWord word input = .ok rest) :
    numerals .outside input = numerals .outside rest := by
  induction word generalizing input with
  | nil =>
    cases h
    rfl
  | cons c others ih =>
    cases input with
    | nil => cases h
    | cons b after =>
      rw [List.all_cons, Bool.and_eq_true] at quiet
      rw [expectWord] at h
      split at h
      case isTrue letter => rw [numerals_quiet (letter ▸ quiet.1), ih quiet.2 h]
      case isFalse => cases h

theorem numerals_nextItem {first more : Bool} (h : nextItem first input = .ok (more, rest)) :
    numerals .outside input = numerals .outside rest := by
  rw [← numerals_skipBlanks input]
  rw [nextItem] at h
  cases lead : skipBlanks input with
  | nil =>
    rw [lead] at h
    cases h
  | cons b after =>
    rw [lead] at h
    dsimp only at h
    split at h
    case isTrue bracket =>
      subst bracket
      cases h
      exact numerals_quiet (by decide)
    split at h
    · cases h
      rfl
    split at h
    case isTrue comma =>
      subst comma
      rw [numerals_quiet (by decide), ← numerals_skipBlanks after]
      cases lead' : skipBlanks after with
      | nil =>
        rw [lead'] at h
        cases h
      | cons c others =>
        rw [lead'] at h
        dsimp only at h
        split at h
        · cases h
        · cases h
          rfl
    case isFalse => cases h

theorem numerals_nextKey {first more : Bool} (h : nextKey first input = .ok (more, rest)) :
    numerals .outside input = numerals (if more then .inText else .outside) rest := by
  have opened {b : UInt8} {after : Bytes} (quote : b = byte '"')
      (h : (.ok (true, after) : Except Stop (Bool × Bytes)) = .ok (more, rest)) :
      numerals .outside (b :: after) = numerals (if more then .inText else .outside) rest := by
    subst quote
    cases h
    rfl
  rw [← numerals_skipBlanks input]
  rw [nextKey] at h
  cases lead : skipBlanks input with
  | nil =>
    rw [lead] at h
    cases h
  | cons b after =>
    rw [lead] at h
    dsimp only at h
    split at h
    case isTrue brace =>
      subst brace
      cases h
      exact numerals_quiet (by decide)
    split at h
    · split at h
      case isTrue quote => exact opened quote h
      case isFalse => cases h
    split at h
    case isTrue comma =>
      subst comma
      rw [numerals_quiet (by decide), ← numerals_skipBlanks after]
      cases lead' : skipBlanks after with
      | nil =>
        rw [lead'] at h
        cases h
      | cons c others =>
        rw [lead'] at h
        dsimp only at h
        split at h
        case isTrue quote => exact opened quote h
        case isFalse => split at h <;> cases h
    case isFalse => cases h

theorem numerals_readColon (h : readColon input = .ok rest) :
    numerals .outside input = numerals .outside rest := by
  rw [← numerals_skipBlanks input]
  rw [readColon] at h
  cases lead : skipBlanks input with
  | nil =>
    rw [lead] at h
    cases h
  | cons b after =>
    rw [lead] at h
    dsimp only at h
    split at h
    case isTrue colon =>
      subst colon
      cases h
      exact numerals_quiet (by decide)
    case isFalse => cases h

/-! ## Strings -/

theorem numerals_inText {b : UInt8} (quote : b ≠ byte '"') (escape : b ≠ byte '\\') :
    numerals .inText (b :: rest) = numerals .inText rest := by
  rw [numerals, if_neg quote, if_neg escape]

theorem ne_of_hexValue? {b : UInt8} {n : Nat} (h : hexValue? b = some n) :
    b ≠ byte '"' ∧ b ≠ byte '\\' := by
  constructor <;>
  · rintro rfl
    cases h

theorem numerals_readHex {n : Nat} (h : readHex input = .ok (n, rest)) :
    numerals .inText input = numerals .inText rest := by
  rw [readHex.eq_def] at h
  split at h
  · split at h
    · rename_i first second third fourth
      cases h
      rw [numerals_inText (ne_of_hexValue? first).1 (ne_of_hexValue? first).2,
        numerals_inText (ne_of_hexValue? second).1 (ne_of_hexValue? second).2,
        numerals_inText (ne_of_hexValue? third).1 (ne_of_hexValue? third).2,
        numerals_inText (ne_of_hexValue? fourth).1 (ne_of_hexValue? fourth).2]
    · cases h
  · cases h

theorem numerals_readLowSurrogate {high : Nat} {plain : Bytes}
    (h : readLowSurrogate high input = .ok (plain, rest)) :
    numerals .inText input = numerals .inText rest := by
  rw [readLowSurrogate.eq_def] at h
  split at h
  · cases h
  split at h
  · cases h
  rename_i escape
  split at h
  · cases h
  split at h
  · cases h
  obtain ⟨⟨low, after⟩, digits, h⟩ := bind_eq_ok_iff.1 h
  dsimp only at h
  split at h
  · obtain ⟨-, rfl⟩ := Prod.mk.inj (Except.ok.inj h)
    rw [Decidable.not_not.1 escape, ← numerals_readHex digits]
    rfl
  · cases h

theorem numerals_readEscape {plain : Bytes} (h : readEscape input = .ok (plain, rest)) :
    numerals .escaped input = numerals .inText rest := by
  rw [readEscape.eq_def] at h
  split at h
  · cases h
  split at h
  · cases h
    rfl
  split at h
  · rw [readUnicodeEscape] at h
    obtain ⟨⟨n, after⟩, digits, h⟩ := bind_eq_ok_iff.1 h
    rw [numerals, numerals_readHex digits]
    dsimp only at h
    split at h
    · cases h
    split at h
    · exact numerals_readLowSurrogate h
    · cases h
      rfl
  · cases h

/-- **A string is left where it ends.** -/
theorem numerals_readTextBytes {read bytes : Bytes}
    (h : readTextBytes fuel read input = .ok (bytes, rest)) :
    numerals .inText input = numerals .outside rest := by
  induction fuel generalizing read input with
  | zero => cases h
  | succ fuel ih =>
    cases input with
    | nil => cases h
    | cons b after =>
      rw [readTextBytes] at h
      rw [numerals]
      split at h
      case isTrue quote =>
        cases h
        rw [if_pos quote]
      case isFalse quote =>
        rw [if_neg quote]
        split at h
        case isTrue escape =>
          rw [if_pos escape]
          split at h
          · rename_i escaped
            rw [numerals_readEscape escaped]
            exact ih h
          · cases h
        case isFalse escape =>
          rw [if_neg escape]
          split at h
          · cases h
          · exact ih h

theorem numerals_readText {text : String} (h : readText fuel input = .ok (text, rest)) :
    numerals .inText input = numerals .outside rest := by
  rw [readText] at h
  obtain ⟨⟨bytes, after⟩, read, h⟩ := bind_eq_ok_iff.1 h
  dsimp only at h
  split at h
  · cases h
    exact numerals_readTextBytes read
  · cases h

/-! ## Numbers -/

theorem numerals_inNumeral (before input : Bytes) :
    numerals (.inNumeral before) input =
      (before.reverse ++ input.takeWhile isNumeralByte) ::
        numerals .outside (input.dropWhile isNumeralByte) := by
  induction input generalizing before with
  | nil =>
    rw [List.takeWhile_nil, List.append_nil]
    rfl
  | cons b rest ih =>
    rw [numerals, List.takeWhile_cons, List.dropWhile_cons]
    split
    case isTrue => rw [ih, List.reverse_cons, List.append_assoc, List.singleton_append]
    case isFalse => rw [List.append_nil, numerals]

theorem endsNumber_dropWhile (input : Bytes) : EndsNumber (input.dropWhile isNumeralByte) := by
  intro b first
  have stops := List.head?_dropWhile_not isNumeralByte input
  rw [Option.mem_def.1 first] at stops
  exact stops

/-- **A numeral of such a document is read as the integer that it writes.** -/
theorem WritesIntegers.readNumber {b : UInt8} (writes : WritesIntegers (b :: rest))
    (opens : opensNumber b = true) :
    ∃ (n : Int) (after : Bytes), (Number.integer n).IsInteger64 ∧
      readNumber (b :: rest) = .ok (.integer n, after) ∧ WritesIntegers after := by
  have split : numerals .outside (b :: rest) =
      (b :: rest.takeWhile isNumeralByte) :: numerals .outside (rest.dropWhile isNumeralByte) := by
    rw [numerals, Place.after, if_neg (ne_of_opensNumber opens (by decide)), if_pos opens,
      numerals_inNumeral]
    rfl
  rw [WritesIntegers, split, List.forall_mem_cons] at writes
  obtain ⟨⟨n, fits, written⟩, others⟩ := writes
  refine ⟨n, _, fits, ?_, others⟩
  rw [← readNumber_integer fits (endsNumber_dropWhile rest), ← written, List.cons_append,
    List.takeWhile_append_dropWhile]

theorem WritesIntegers.of_eq {input : Bytes} (writes : WritesIntegers input)
    (same : numerals .outside input = numerals .outside rest) : WritesIntegers rest := by
  rwa [WritesIntegers, ← same]

/-! ## What is read is plain -/

/-- What is read from a document that writes only integers has the property, and so has what the
document goes on with. -/
def Gives {α : Type} (read : Bytes → Reading α) (good : α → Prop) : Prop :=
  ∀ {input value rest}, WritesIntegers input → read input = .ok (value, rest) →
    good value ∧ WritesIntegers rest

/-- A word and the scalar that it stands for. -/
theorem gives_word {word : List Char} {scalar : Scalar} {value : Scalar} {b : UInt8}
    (quiet : isQuiet b = true ∧ word.all (isQuiet <| byte ·) = true)
    (writes : WritesIntegers (b :: input))
    (h : (expectWord word input).map (scalar, ·) = .ok (value, rest)) :
    value = scalar ∧ WritesIntegers rest := by
  obtain ⟨after, word, pair⟩ := map_eq_ok_iff.1 h
  cases pair
  exact ⟨rfl, writes.of_eq ((numerals_quiet quiet.1).trans (numerals_expectWord quiet.2 word))⟩

theorem gives_readScalar :
    Gives (readScalar fuel) fun scalar => ∀ depth, Plain depth scalar.value := by
  intro input scalar rest writes h
  cases input with
  | nil => cases h
  | cons b after =>
    rw [readScalar] at h
    split at h
    case isTrue letter =>
      obtain ⟨rfl, others⟩ := gives_word (by subst letter; decide) writes h
      exact ⟨fun _ => .null, others⟩
    split at h
    case isTrue letter =>
      obtain ⟨rfl, others⟩ := gives_word (by subst letter; decide) writes h
      exact ⟨fun _ => .bool true, others⟩
    split at h
    case isTrue letter =>
      obtain ⟨rfl, others⟩ := gives_word (by subst letter; decide) writes h
      exact ⟨fun _ => .bool false, others⟩
    split at h
    case isTrue opens =>
      have opens : opensNumber b = true := by simpa [opensNumber] using opens
      obtain ⟨n, end', fits, read, others⟩ := writes.readNumber opens
      rw [read] at h
      cases h
      exact ⟨fun _ => .integer fits, others⟩
    split at h
    case isTrue quote =>
      subst quote
      obtain ⟨⟨text, end'⟩, read, pair⟩ := map_eq_ok_iff.1 h
      cases pair
      exact ⟨fun _ => .text text, writes.of_eq (Eq.trans rfl (numerals_readText read))⟩
    case isFalse => cases h

theorem gives_items {read : Bytes → Reading Value} {good : Value → Prop} (gives : Gives read good)
    {before : List Value} {first : Bool} (sofar : ∀ item ∈ before, good item) :
    Gives (Decoder.items read fuel before first) fun items => ∀ item ∈ items, good item := by
  intro input items rest writes h
  induction fuel generalizing before first input with
  | zero => cases h
  | succ fuel ih =>
    rw [Decoder.items] at h
    rcases next : nextItem first input with _ | ⟨_ | _, after⟩ <;> rw [next] at h
    · cases h
    · cases h
      exact ⟨fun item mem => sofar item (List.mem_reverse.1 mem),
        writes.of_eq (numerals_nextItem next)⟩
    · dsimp only at h
      rcases item : read after with _ | ⟨value, end'⟩ <;> rw [item] at h
      · cases h
      · obtain ⟨new, others⟩ := gives (writes.of_eq (numerals_nextItem next)) item
        exact ih (List.forall_mem_cons.2 ⟨new, sofar⟩) others h

theorem gives_members {read : Bytes → Reading Value} {good : Value → Prop} (gives : Gives read good)
    {textFuel : Nat} {before : List (String × Value)} {first : Bool}
    (sofar : ∀ member ∈ before, good member.2) :
    Gives (Decoder.members read textFuel fuel before first) fun members =>
      ∀ member ∈ members, good member.2 := by
  intro input members rest writes h
  induction fuel generalizing before first input with
  | zero => cases h
  | succ fuel ih =>
    rw [Decoder.members] at h
    rcases next : nextKey first input with _ | ⟨_ | _, after⟩ <;> rw [next] at h
    · cases h
    · cases h
      exact ⟨sofar, writes.of_eq (numerals_nextKey next)⟩
    · dsimp only at h
      rcases key : readText textFuel after with _ | ⟨key', behindKey⟩ <;> rw [key] at h
      · cases h
      dsimp only at h
      rcases colon : readColon behindKey with _ | behindColon <;> rw [colon] at h
      · cases h
      dsimp only at h
      rcases value : read behindColon with _ | ⟨value', end'⟩ <;> rw [value] at h
      · cases h
      · have same : numerals .outside input = numerals .outside behindColon :=
          (numerals_nextKey next).trans ((numerals_readText key).trans (numerals_readColon colon))
        obtain ⟨new, others⟩ := gives (writes.of_eq same) value
        exact ih (List.forall_mem_cons.2 ⟨new, sofar⟩) others h

theorem forall_mem_ofLatestFirst {members : List (String × Value)} {good : Value → Prop}
    (all : ∀ member ∈ members, good member.2) :
    ∀ member ∈ Entries.ofLatestFirst members, good member.2 := by
  rintro ⟨key, value⟩ mem
  have found := (Entries.get?_eq_some_iff_mem (Entries.ascending_ofLatestFirst _)).2 mem
  rw [Entries.get?_ofLatestFirst] at found
  exact all _ (Entries.mem_of_get? found)

/-- What is read is plain if what is read inside it is. -/
theorem gives_value_of_deeper
    (deeper : ∀ below, depth = below + 1 → Gives (Decoder.value fuel below) (Plain below)) :
    Gives (Decoder.value fuel depth) (Plain depth) := by
  intro input value rest writes h
  rw [WritesIntegers, ← numerals_skipBlanks] at writes
  unfold Decoder.value at h
  rcases lead : skipBlanks input with _ | ⟨b, after⟩ <;> rw [lead] at h writes
  · cases h
  dsimp only at h
  split at h
  case isTrue bracket =>
    subst bracket
    rw [numerals_quiet (by decide)] at writes
    split at h
    · cases h
    rename_i below
    rcases read : Decoder.items (Decoder.value fuel below) fuel [] true after with
      _ | ⟨items, end'⟩ <;> rw [read] at h <;> cases h
    exact (gives_items (deeper below rfl) (List.forall_mem_nil _) writes read).imp_left .array
  split at h
  case isTrue brace =>
    subst brace
    rw [numerals_quiet (by decide)] at writes
    split at h
    · cases h
    rename_i below
    rcases read : Decoder.members (Decoder.value fuel below) fuel fuel [] true after with
      _ | ⟨members, end'⟩ <;> rw [read] at h <;> cases h
    exact (gives_members (deeper below rfl) (List.forall_mem_nil _) writes read).imp_left fun plain =>
      .object (Entries.ascending_ofLatestFirst members) (forall_mem_ofLatestFirst plain)
  case isFalse =>
    rcases read : readScalar fuel (b :: after) with _ | ⟨scalar, end'⟩ <;> rw [read] at h <;>
      cases h
    exact (gives_readScalar writes read).imp_left (· depth)

/-- **Whatever is read is plain**, at the nesting that is left. -/
theorem gives_value (fuel depth : Nat) : Gives (Decoder.value fuel depth) (Plain depth) := by
  induction depth with
  | zero => exact gives_value_of_deeper fun below h => absurd h (Nat.succ_ne_zero below).symm
  | succ depth ih =>
    refine gives_value_of_deeper fun below h => ?_
    cases h
    exact ih

/-- Where no scalar is accepted, none is read. -/
theorem scalar_ne_ok {α : Type} {expected : String} {accept : Scalar → Except Cause α} {value : α}
    (refused : ∀ scalar value, accept scalar ≠ .ok value) :
    Decoder.scalar expected accept fuel depth input ≠ .ok (value, rest) := by
  intro h
  rw [Decoder.scalar] at h
  split at h
  · cases h
  split at h
  · cases h
  split at h
  · cases h
  split at h
  · cases h
  split at h
  · exact refused _ _ ‹_›
  · cases h

/-- **A map is read between braces**, its values one level further down. -/
theorem exists_members_of_map {α : Type} {member : Decoder α} {map : TextMap α}
    (h : Decoder.map member fuel depth input = .ok (map, rest)) :
    ∃ after members, skipBlanks input = byte '{' :: after ∧ depth ≠ 0 ∧
      Decoder.members (member fuel (depth - 1)) fuel fuel [] true after = .ok (members, rest) ∧
      map = TextMap.ofList members.reverse := by
  rw [Decoder.map, Decoder.compound] at h
  rcases lead : skipBlanks input with _ | ⟨b, after⟩ <;> rw [lead] at h
  · cases h
  by_cases brace : b = byte '{'
  · simp only [if_pos brace] at h
    split at h
    · cases h
    rename_i depth'
    split at h
    · cases h
    · cases h
      exact ⟨after, _, by rw [brace], depth', ‹_›, rfl⟩
  · simp only [if_neg brace] at h
    exact absurd h (scalar_ne_ok fun _ _ => by simp)

/-- **A map that is decoded is the whole document.** -/
theorem exists_members_of_decode_map {α : Type} {member : Decoder α} {document : Bytes}
    {map : TextMap α} (h : decode (Decoder.map member) document = .ok map) :
    ∃ after members rest, skipBlanks document = byte '{' :: after ∧
      Decoder.members (member (document.length + 1) 126) (document.length + 1)
        (document.length + 1) [] true after = .ok (members, rest) ∧
      skipBlanks rest = [] ∧ map = TextMap.ofList members.reverse := by
  rw [decode] at h
  rcases read : Decoder.map member (document.length + 1) maxDepth document with
    _ | ⟨map', rest⟩ <;> rw [read] at h
  · cases h
  dsimp only at h
  split at h
  case h_2 => cases h
  cases h
  obtain ⟨after, members, lead, -, inside, same⟩ := exists_members_of_map read
  exact ⟨after, members, rest, lead, inside, ‹_›, same⟩

/-- **A map that is decoded from a document that writes only integers is plain.** -/
theorem plain_of_decode_map {document : Bytes} {map : TextMap Value}
    (writes : WritesIntegers document)
    (h : decode (Decoder.map Decoder.value) document = .ok map) :
    Plain maxDepth (.object map.entries) := by
  obtain ⟨after, members, rest, lead, inside, -, rfl⟩ := exists_members_of_decode_map h
  rw [WritesIntegers, ← numerals_skipBlanks, lead, numerals_quiet (by decide)] at writes
  have plain := (gives_members (gives_value _ 126) (List.forall_mem_nil _) writes inside).1
  have filed : (TextMap.ofList members.reverse).entries = Entries.ofLatestFirst members :=
    congrArg Entries.ofLatestFirst (List.reverse_reverse members)
  rw [filed]
  exact .object (Entries.ascending_ofLatestFirst members) (forall_mem_ofLatestFirst plain)

end PropertyGate.Json
