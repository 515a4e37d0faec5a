import PropertyGate.Proofs.Json.RoundTrip
import PropertyGate.Proofs.Json.Skipping

/-!
# Proofs/Json/Passing — documents that are read are passed over

A document is read item by item and member by member (`ReadsLevel`), down to scalars.  The loop that
passes over a document keeps what encloses it on a stack instead.  Its turns each go past a byte
(`SkipTurn`), and it comes from the start of an item or a member to the start of the next (`Passes`).
So **a document that can be read is passed over**, however it is spelled and whatever encloses it
(`passesOver_level`); and what is passed over on its own is passed over inside anything
(`passes_of_skipNested`).
-/

namespace PropertyGate.Json

variable {input rest : Bytes} {fuel depth : Nat}

/-! ## Between items and members -/

section Between

variable {start : Bytes}

/-- **What stands before the next item**: the bracket that closes the array, nothing before the first
item, and a comma before a later one. -/
inductive NextItem : (first : Bool) → Bytes → (more : Bool) → Bytes → Prop where
  | close {first : Bool} {input rest : Bytes} (lead : skipBlanks input = byte ']' :: rest) :
      NextItem first input false rest
  | first {input rest : Bytes} {b : UInt8} (lead : skipBlanks input = b :: rest)
      (other : b ≠ byte ']') : NextItem true input true (b :: rest)
  | later {input behind : Bytes} (lead : skipBlanks input = byte ',' :: behind) :
      NextItem false input true (skipBlanks behind)

theorem nextItem_of_eq_ok {first more : Bool} (h : nextItem first input = .ok (more, start)) :
    NextItem first input more start := by
  rw [nextItem] at h
  split at h
  · cases h
  rename_i lead
  split at h
  · rename_i bracket
    cases h
    exact .close (bracket ▸ lead)
  rename_i other
  split at h
  · rename_i first
    subst first
    cases h
    exact .first lead other
  rename_i later
  obtain rfl := Bool.of_not_eq_true later
  split at h
  · rename_i comma
    split at h
    · cases h
    rename_i lead'
    split at h
    · cases h
    cases h
    exact lead' ▸ .later (comma ▸ lead)
  · cases h

/-- **What stands before the next key**: the brace that closes the object, or the quotation mark that
opens the key, and a comma before that for a later key. -/
inductive NextKey : (first : Bool) → Bytes → (more : Bool) → Bytes → Prop where
  | close {first : Bool} {input rest : Bytes} (lead : skipBlanks input = byte '}' :: rest) :
      NextKey first input false rest
  | first {input rest : Bytes} (lead : skipBlanks input = byte '"' :: rest) :
      NextKey true input true rest
  | later {input behind rest : Bytes} (lead : skipBlanks input = byte ',' :: behind)
      (quote : skipBlanks behind = byte '"' :: rest) : NextKey false input true rest

theorem nextKey_of_eq_ok {first more : Bool} (h : nextKey first input = .ok (more, start)) :
    NextKey first input more start := by
  rw [nextKey] at h
  split at h
  · cases h
  rename_i lead
  split at h
  · rename_i brace
    cases h
    exact .close (brace ▸ lead)
  split at h
  · rename_i first
    subst first
    split at h
    · rename_i quote
      cases h
      exact .first (quote ▸ lead)
    · cases h
  rename_i later
  obtain rfl := Bool.of_not_eq_true later
  split at h
  · rename_i comma
    split at h
    · cases h
    rename_i lead'
    split at h
    · rename_i quote
      cases h
      exact .later (comma ▸ lead) (quote ▸ lead')
    split at h <;> cases h
  · cases h

theorem lead_of_readColon (h : readColon input = .ok rest) : skipBlanks input = byte ':' :: rest := by
  rw [readColon] at h
  split at h
  · cases h
  rename_i lead
  split at h <;> cases h
  rename_i colon
  rw [lead, colon]

theorem length_nextItem_le {first more : Bool} (h : nextItem first input = .ok (more, rest)) :
    rest.length ≤ input.length := by
  cases nextItem_of_eq_ok h with
  | close lead => exact Nat.le_of_lt (length_lt_of_lead lead)
  | first lead _ => exact length_lt_of_lead lead
  | @later _ behind lead =>
    have shorter := length_lt_of_lead lead
    have le := length_skipBlanks_le behind
    omega

theorem length_nextKey_lt {first more : Bool} (h : nextKey first input = .ok (more, rest)) :
    rest.length < input.length := by
  cases nextKey_of_eq_ok h with
  | close lead | first lead => exact length_lt_of_lead lead
  | later lead quote => exact Nat.lt_trans (length_lt_of_lead quote) (length_lt_of_lead lead)

end Between

/-! ## Runs -/

section Runs

variable {α : Type} {read : Bytes → Reading α} {textFuel : Nat} {first : Bool}

/-- **The items of an array are read one by one**, in no more turns than there is fuel for. -/
inductive ReadsItems (read : Bytes → Reading α) :
    (fuel : Nat) → (first : Bool) → Bytes → List α → Bytes → Prop where
  | close {fuel : Nat} {first : Bool} {input rest : Bytes}
      (next : nextItem first input = .ok (false, rest)) :
      ReadsItems read (fuel + 1) first input [] rest
  | item {fuel : Nat} {first : Bool} {input start behind rest : Bytes} {a : α} {items : List α}
      (next : nextItem first input = .ok (true, start)) (value : read start = .ok (a, behind))
      (others : ReadsItems read fuel false behind items rest) :
      ReadsItems read (fuel + 1) first input (a :: items) rest

/-- **The members of an object are read one by one**, in no more turns than there is fuel for. -/
inductive ReadsMembers (read : Bytes → Reading α) (textFuel : Nat) :
    (fuel : Nat) → (first : Bool) → Bytes → List (String × α) → Bytes → Prop where
  | close {fuel : Nat} {first : Bool} {input rest : Bytes}
      (next : nextKey first input = .ok (false, rest)) :
      ReadsMembers read textFuel (fuel + 1) first input [] rest
  | member {fuel : Nat} {first : Bool} {input quoted behindKey start behind rest : Bytes}
      {key : String} {a : α} {members : List (String × α)}
      (next : nextKey first input = .ok (true, quoted))
      (text : readText textFuel quoted = .ok (key, behindKey))
      (colon : readColon behindKey = .ok start) (value : read start = .ok (a, behind))
      (others : ReadsMembers read textFuel fuel false behind members rest) :
      ReadsMembers read textFuel (fuel + 1) first input ((key, a) :: members) rest

theorem items_eq_ok_iff {before found : List α} :
    Decoder.items read fuel before first input = .ok (found, rest) ↔
      ∃ items, found = before.reverse ++ items ∧ ReadsItems read fuel first input items rest := by
  constructor
  · intro h
    induction fuel generalizing before first input with
    | zero => cases h
    | succ fuel ih =>
      rw [Decoder.items] at h
      split at h
      · cases h
      · rename_i next
        cases h
        exact ⟨[], (List.append_nil _).symm, .close next⟩
      · rename_i next
        split at h
        · cases h
        rename_i value
        obtain ⟨items, rfl, others⟩ := ih h
        exact ⟨_ :: items, by simp, .item next value others⟩
  · rintro ⟨items, rfl, reads⟩
    induction reads generalizing before with
    | close next => rw [Decoder.items, next, List.append_nil]
    | item next value _ ih =>
      rw [Decoder.items, next]
      simp only [value]
      rw [ih, List.reverse_cons, List.append_assoc, List.singleton_append]

theorem members_eq_ok_iff {before found : List (String × α)} :
    Decoder.members read textFuel fuel before first input = .ok (found, rest) ↔
      ∃ members, found = members.reverse ++ before ∧
        ReadsMembers read textFuel fuel first input members rest := by
  constructor
  · intro h
    induction fuel generalizing before first input with
    | zero => cases h
    | succ fuel ih =>
      rw [Decoder.members] at h
      split at h
      · cases h
      · rename_i next
        cases h
        exact ⟨[], rfl, .close next⟩
      rename_i next
      split at h
      · cases h
      rename_i text
      split at h
      · cases h
      rename_i colon
      split at h
      · cases h
      rename_i value
      obtain ⟨members, rfl, others⟩ := ih h
      exact ⟨_ :: members, by simp, .member next text colon value others⟩
  · rintro ⟨members, rfl, reads⟩
    induction reads generalizing before with
    | close next => rw [Decoder.members, next, List.reverse_nil, List.nil_append]
    | member next text colon value _ ih =>
      rw [Decoder.members, next]
      simp only [text, colon, value]
      rw [ih, List.reverse_cons, List.append_assoc, List.singleton_append]

end Runs

/-! ## Documents -/

section Documents

variable {file : List (String × Value) → List (String × Value)} {value : Value} {turns : Nat}
  {enclosures outer : List Enclosure} {whole : Bool} {inside? : Option (Bytes → Reading Value)}

/-- **How a level of a document is read**: item by item, member by member, or as a scalar. -/
inductive ReadsLevel (file : List (String × Value) → List (String × Value)) (fuel : Nat)
    (inside? : Option (Bytes → Reading Value)) : Bytes → Value → Bytes → Prop where
  | array {inside : Bytes → Reading Value} {input after rest : Bytes} {items : List Value}
      (opens : inside? = some inside) (lead : skipBlanks input = byte '[' :: after)
      (reads : ReadsItems inside fuel true after items rest) :
      ReadsLevel file fuel inside? input (.array items) rest
  | object {inside : Bytes → Reading Value} {input after rest : Bytes}
      {members : List (String × Value)} (opens : inside? = some inside)
      (lead : skipBlanks input = byte '{' :: after)
      (reads : ReadsMembers inside fuel fuel true after members rest) :
      ReadsLevel file fuel inside? input (.object (file members.reverse)) rest
  | scalar {input after rest : Bytes} {b : UInt8} {scalar : Scalar} {value : Value}
      (lead : skipBlanks input = b :: after) (array : b ≠ byte '[') (object : b ≠ byte '{')
      (read : readScalar fuel (b :: after) = .ok (scalar, rest)) (same : scalar.value = value) :
      ReadsLevel file fuel inside? input value rest

theorem level_eq_ok_iff :
    Decoder.level file fuel inside? input = .ok (value, rest) ↔
      ReadsLevel file fuel inside? input value rest := by
  constructor
  · intro h
    unfold Decoder.level at h
    split at h
    · cases h
    rename_i b after lead
    split at h
    · rename_i bracket
      subst bracket
      split at h
      · cases h
      split at h
      · cases h
      rename_i inside
      cases h
      obtain ⟨items, rfl, reads⟩ := items_eq_ok_iff.1 inside
      exact .array rfl lead reads
    split at h
    · rename_i brace
      subst brace
      split at h
      · cases h
      split at h
      · cases h
      rename_i inside
      cases h
      obtain ⟨members, rfl, reads⟩ := members_eq_ok_iff.1 inside
      rw [List.append_nil]
      exact .object rfl lead reads
    · rename_i array object
      split at h
      · cases h
      rename_i read
      cases h
      exact .scalar lead array object read rfl
  · intro h
    unfold Decoder.level
    cases h with
    | array opens lead reads =>
      subst opens
      simp only [lead, if_pos, items_eq_ok_iff.2 ⟨_, rfl, reads⟩, List.reverse_nil, List.nil_append]
    | object opens lead reads =>
      have brace : byte '{' ≠ byte '[' := by decide
      subst opens
      simp only [lead, if_neg brace, if_pos, members_eq_ok_iff.2 ⟨_, rfl, reads⟩, List.append_nil]
    | scalar lead array object read same =>
      simp only [lead, if_neg array, if_neg object, read, same]

/-! ## Turns of passing over -/

theorem length_skipKey_le {enclosure : Enclosure} (h : skipKey fuel enclosure input = .ok rest) :
    rest.length ≤ input.length := by
  cases enclosure with
  | array =>
    cases h
    exact Nat.le_refl _
  | object =>
    rw [skipKey] at h
    split at h
    · cases h
    rename_i lead
    have shorter := length_lt_of_lead lead
    split at h
    case isFalse => cases h
    obtain ⟨behind, text, colon⟩ := bind_eq_ok_iff.1 h
    have shorter' := length_skipText_lt text
    have shorter'' := length_lt_of_lead (lead_of_readColon colon)
    omega

/-- A key is passed over in any number of turns that is enough for its bytes. -/
theorem skipKey_of_enough {enclosure : Enclosure} (h : skipKey fuel enclosure input = .ok rest)
    (enough : input.length ≤ turns) : skipKey turns enclosure input = .ok rest := by
  cases enclosure with
  | array => exact h
  | object =>
    rw [skipKey] at h ⊢
    cases lead : skipBlanks input with
    | nil =>
      rw [lead] at h
      cases h
    | cons b after =>
      have shorter := length_lt_of_lead lead
      rw [lead] at h
      dsimp only at h ⊢
      split at h
      case isFalse => cases h
      rename_i quote
      obtain ⟨behind, text, colon⟩ := bind_eq_ok_iff.1 h
      rw [if_pos quote, skipText_of_enough text (by omega)]
      exact colon

/-- **What a turn of passing over goes past**: a scalar, an empty array or object, what opens one, a
comma, or what closes one; a key belongs to the value behind it. -/
inductive SkipTurn : List Enclosure → (whole : Bool) → Bytes →
    List Enclosure → (whole : Bool) → Bytes → Prop where
  | scalar {enclosures : List Enclosure} {input rest : Bytes}
      (start : skipLead input.length input = .ok (none, rest)) :
      SkipTurn enclosures true input enclosures false rest
  | empty {enclosures : List Enclosure} {opened : Enclosure} {input after rest : Bytes} {b : UInt8}
      (start : skipLead input.length input = .ok (some opened, after))
      (lead : skipBlanks after = b :: rest) (closes : b = opened.closing) :
      SkipTurn enclosures true input enclosures false rest
  | enter {enclosures : List Enclosure} {opened : Enclosure} {input after behind rest : Bytes}
      {b : UInt8} (start : skipLead input.length input = .ok (some opened, after))
      (lead : skipBlanks after = b :: behind) (other : b ≠ opened.closing)
      (key : skipKey input.length opened (b :: behind) = .ok rest) :
      SkipTurn enclosures true input (opened :: enclosures) true rest
  | next {enclosure : Enclosure} {outer : List Enclosure} {input behind rest : Bytes} {b : UInt8}
      (lead : skipBlanks input = b :: behind) (comma : b = byte ',')
      (key : skipKey input.length enclosure behind = .ok rest) :
      SkipTurn (enclosure :: outer) false input (enclosure :: outer) true rest
  | leave {enclosure : Enclosure} {outer : List Enclosure} {input rest : Bytes} {b : UInt8}
      (lead : skipBlanks input = b :: rest) (other : b ≠ byte ',')
      (closes : b = enclosure.closing) :
      SkipTurn (enclosure :: outer) false input outer false rest

section SkipTurn

variable {inner inner' : List Enclosure} {whole' : Bool} {input' : Bytes}

/-- Every turn goes past a byte at least. -/
theorem SkipTurn.length_lt (turn : SkipTurn inner whole input inner' whole' input') :
    input'.length < input.length := by
  cases turn with
  | scalar start => exact length_skipLead_lt start
  | empty start lead => exact Nat.lt_trans (length_lt_of_lead lead) (length_skipLead_lt start)
  | @enter _ _ _ after _ _ _ start lead _ key =>
    have shorter := length_skipLead_lt start
    have blanks := length_skipBlanks_le after
    rw [lead] at blanks
    have within := length_skipKey_le key
    omega
  | next lead _ key =>
    have shorter := length_lt_of_lead lead
    have within := length_skipKey_le key
    omega
  | leave lead => exact length_lt_of_lead lead

/-- A turn is the same inside anything. -/
theorem SkipTurn.append (turn : SkipTurn inner whole input inner' whole' input')
    (outer : List Enclosure) :
    SkipTurn (inner ++ outer) whole input (inner' ++ outer) whole' input' := by
  cases turn with
  | scalar start => exact .scalar start
  | empty start lead closes => exact .empty start lead closes
  | enter start lead other key => exact .enter start lead other key
  | next lead comma key => exact .next lead comma key
  | leave lead other closes => exact .leave lead other closes

/-- A turn is taken with any fuel that is enough. -/
theorem SkipTurn.skipNested_eq (turn : SkipTurn inner whole input inner' whole' input')
    (enough : input.length ≤ turns + 1) :
    skipNested (turns + 1) inner whole input = skipNested turns inner' whole' input' := by
  cases turn with
  | scalar start => rw [skipNested, skipLead_of_enough start enough]
  | empty start lead closes =>
    rw [skipNested, skipLead_of_enough start enough]
    dsimp only
    rw [lead]
    exact if_pos closes
  | @enter _ _ _ after _ _ _ start lead other key =>
    have shorter := length_skipLead_lt start
    have blanks := length_skipBlanks_le after
    rw [lead] at blanks
    rw [skipNested, skipLead_of_enough start enough]
    dsimp only
    rw [lead]
    dsimp only
    rw [if_neg other, skipKey_of_enough key (by omega)]
  | next lead comma key =>
    have shorter := length_lt_of_lead lead
    rw [skipNested, lead]
    dsimp only
    rw [if_pos comma, skipKey_of_enough key (by omega)]
  | leave lead other closes =>
    rw [skipNested, lead]
    dsimp only
    rw [if_neg other, if_pos closes]

/-- **Passing over is over at once, or takes a turn and goes on.** -/
theorem exists_turn_of_skipNested (skip : skipNested (fuel + 1) inner whole input = .ok rest) :
    (inner = [] ∧ whole = false ∧ rest = input) ∨
      ∃ inner' whole' input', SkipTurn inner whole input inner' whole' input' ∧
        skipNested fuel inner' whole' input' = .ok rest := by
  cases whole with
  | true =>
    right
    rw [skipNested] at skip
    split at skip
    · cases skip
    · rename_i start
      exact ⟨_, _, _, .scalar (skipLead_of_enough start (Nat.le_refl _)), skip⟩
    rename_i opened after start
    have start := skipLead_of_enough start (Nat.le_refl _)
    have shorter := length_skipLead_lt start
    have blanks := length_skipBlanks_le after
    split at skip
    · cases skip
    rename_i lead
    rw [lead] at blanks
    split at skip
    · rename_i closes
      exact ⟨_, _, _, .empty start lead closes, skip⟩
    rename_i other
    split at skip
    · rename_i key
      exact ⟨_, _, _, .enter start lead other (skipKey_of_enough key (by omega)), skip⟩
    · cases skip
  | false =>
    cases inner with
    | nil =>
      cases skip
      exact .inl ⟨rfl, rfl, rfl⟩
    | cons enclosure outer =>
      right
      rw [skipNested] at skip
      split at skip
      · cases skip
      rename_i lead
      have shorter := length_lt_of_lead lead
      split at skip
      · rename_i comma
        split at skip
        · rename_i key
          exact ⟨_, _, _, .next lead comma (skipKey_of_enough key (by omega)), skip⟩
        · cases skip
      rename_i other
      split at skip
      · rename_i closes
        exact ⟨_, _, _, .leave lead other closes, skip⟩
      · cases skip

end SkipTurn

/-- **Passing over comes from one place to another**, and a byte at least is gone past in every
turn. -/
def Passes (turns : Nat) (enclosures : List Enclosure) (whole : Bool) (input : Bytes)
    (outer : List Enclosure) (rest : Bytes) : Prop :=
  ∃ left < turns, rest.length < left ∧
    skipNested turns enclosures whole input = skipNested left outer false rest

namespace Passes

variable {enclosures' : List Enclosure} {whole' : Bool} {input' : Bytes}

/-- A turn, and whatever is gone past behind it. -/
theorem step (turn : SkipTurn enclosures whole input enclosures' whole' input')
    (enough : input.length < turns)
    (others : ∀ left, input'.length < left → Passes left enclosures' whole' input' outer rest) :
    Passes turns enclosures whole input outer rest := by
  obtain ⟨turns, rfl⟩ := Nat.exists_eq_succ_of_ne_zero (Nat.ne_zero_of_lt enough)
  have shorter := turn.length_lt
  obtain ⟨left, less, more, goes⟩ := others turns (by omega)
  exact ⟨left, Nat.lt_succ_of_lt less, more, (turn.skipNested_eq (by omega)).trans goes⟩

theorem last (turn : SkipTurn enclosures whole input outer false rest)
    (enough : input.length < turns) : Passes turns enclosures whole input outer rest := by
  obtain ⟨turns, rfl⟩ := Nat.exists_eq_succ_of_ne_zero (Nat.ne_zero_of_lt enough)
  have shorter := turn.length_lt
  exact ⟨turns, Nat.lt_succ_self _, by omega, turn.skipNested_eq (by omega)⟩

theorem trans {middle : List Enclosure} {between : Bytes}
    (first : Passes turns enclosures whole input middle between)
    (others : ∀ left, between.length < left → Passes left middle false between outer rest) :
    Passes turns enclosures whole input outer rest := by
  obtain ⟨left, less, enough, goes⟩ := first
  obtain ⟨left', less', enough', goes'⟩ := others left enough
  exact ⟨left', Nat.lt_trans less' less, enough', goes.trans goes'⟩

end Passes

/-- **What is passed over on its own is passed over inside anything**, if not at once. -/
theorem passes_of_skipNested {inner : List Enclosure}
    (skip : skipNested fuel inner whole input = .ok rest) (outer : List Enclosure)
    (enough : input.length < turns) :
    (inner = [] ∧ whole = false ∧ rest = input) ∨
      Passes turns (inner ++ outer) whole input outer rest := by
  induction fuel generalizing inner whole input turns with
  | zero => cases skip
  | succ fuel ih =>
    refine (exists_turn_of_skipNested skip).imp id ?_
    rintro ⟨inner', whole', input', turn, skip⟩
    by_cases ended : inner' = [] ∧ whole' = false ∧ rest = input'
    · obtain ⟨rfl, rfl, rfl⟩ := ended
      exact .last (turn.append outer) enough
    · exact .step (turn.append outer) enough fun left more =>
        (ih skip more).resolve_left ended

/-- The reader is outdone: whatever it reads is passed over, inside anything. -/
structure PassesOver (read : Bytes → Reading Value) : Prop where
  passes {input rest : Bytes} {value : Value} (reads : read input = .ok (value, rest)) (turns : Nat)
    (enclosures : List Enclosure) (enough : input.length < turns) :
    Passes turns enclosures true input enclosures rest

/-! ## Documents are passed over -/

variable {read : Bytes → Reading Value}

/-- Blanks before a value do not matter. -/
theorem Passes.of_skipBlanks (enough : 0 < turns)
    (h : Passes turns enclosures true (skipBlanks input) outer rest) :
    Passes turns enclosures true input outer rest := by
  obtain ⟨turns, rfl⟩ := Nat.exists_eq_succ_of_ne_zero (Nat.ne_of_gt enough)
  have same : skipNested (turns + 1) enclosures true input =
      skipNested (turns + 1) enclosures true (skipBlanks input) := by
    rw [skipNested, skipNested, skipLead, skipLead, skipBlanks_skipBlanks]
  obtain ⟨left, less, enough, goes⟩ := h
  exact ⟨left, less, enough, same.trans goes⟩

/-- The items behind the first are passed over, and the bracket that closes the array. -/
theorem passes_items {items : List Value} (each : PassesOver read)
    (reads : ReadsItems read fuel false input items rest) (enough : input.length < turns) :
    Passes turns (.array :: enclosures) false input enclosures rest := by
  generalize later : false = first at reads
  induction reads generalizing turns with
  | close next =>
    subst later
    cases nextItem_of_eq_ok next with | close lead
    exact .last (.leave lead (by decide) rfl) enough
  | item next value _ ih =>
    subst later
    cases nextItem_of_eq_ok next with | @later _ behind lead
    have blanks := length_skipBlanks_le behind
    refine .step (.next lead rfl rfl) enough fun left more => .of_skipBlanks (by omega) ?_
    exact (each.passes value _ _ (by omega)).trans fun left more => ih more rfl

/-- A key is passed over with its colon. -/
theorem skipKey_of_read {quoted behindKey start : Bytes} {textFuel : Nat} {key : String}
    (lead : skipBlanks input = byte '"' :: quoted)
    (text : readText textFuel quoted = .ok (key, behindKey))
    (colon : readColon behindKey = .ok start) (enough : input.length ≤ turns) :
    skipKey turns .object input = .ok start := by
  have shorter := length_lt_of_lead lead
  rw [skipKey, lead]
  dsimp only
  rw [if_pos rfl, skipText_of_read text (by omega)]
  exact colon

/-- The members behind the first are passed over, and the brace that closes the object. -/
theorem passes_members {members : List (String × Value)} {textFuel : Nat} (each : PassesOver read)
    (reads : ReadsMembers read textFuel fuel false input members rest)
    (enough : input.length < turns) :
    Passes turns (.object :: enclosures) false input enclosures rest := by
  generalize later : false = first at reads
  induction reads generalizing turns with
  | close next =>
    subst later
    cases nextKey_of_eq_ok next with | close lead
    exact .last (.leave lead (by decide) rfl) enough
  | member next text colon value _ ih =>
    subst later
    cases nextKey_of_eq_ok next with | later lead lead'
    have key := skipKey_of_read lead' text colon (Nat.le_of_lt (length_lt_of_lead lead))
    exact .step (.next lead rfl key) enough fun left more =>
      (each.passes value _ _ more).trans fun left more => ih more rfl

/-- An array is passed over if its items are. -/
theorem passes_array {items : List Value} {after : Bytes} (each : PassesOver read)
    (lead : skipBlanks input = byte '[' :: after)
    (inside : ReadsItems read fuel true after items rest) (enough : input.length < turns) :
    Passes turns enclosures true input enclosures rest := by
  have opened : skipLead input.length input = .ok (some .array, after) := by
    rw [skipLead, lead]
    rfl
  cases inside with
  | close next =>
    cases nextItem_of_eq_ok next with | close lead'
    exact .last (.empty opened lead' rfl) enough
  | item next value others =>
    cases nextItem_of_eq_ok next with | first lead' other
    exact .step (.enter opened lead' other rfl) enough fun left more =>
      (each.passes value _ _ more).trans fun left more => passes_items each others more

/-- An object is passed over if its members are. -/
theorem passes_object {members : List (String × Value)} {after : Bytes} {textFuel : Nat}
    (each : PassesOver read) (lead : skipBlanks input = byte '{' :: after)
    (inside : ReadsMembers read textFuel fuel true after members rest)
    (enough : input.length < turns) :
    Passes turns enclosures true input enclosures rest := by
  have opened : skipLead input.length input = .ok (some .object, after) := by
    rw [skipLead, lead]
    rfl
  cases inside with
  | close next =>
    cases nextKey_of_eq_ok next with | close lead'
    exact .last (.empty opened lead' rfl) enough
  | member next text colon value others =>
    cases nextKey_of_eq_ok next with | first lead'
    have shorter := length_lt_of_lead lead
    have blanks := length_skipBlanks_le after
    have key := skipKey_of_read (skipBlanks_of_lead lead') text colon
      (show _ ≤ input.length by rw [← lead']; omega)
    exact .step (.enter opened lead' (by decide) key) enough fun left more =>
      (each.passes value _ _ more).trans fun left more => passes_members each others more

/-- **A level of a document that is read is passed over**, if what is inside is. -/
theorem passesOver_level (deeper : ∀ inside, inside? = some inside → PassesOver inside) :
    PassesOver (Decoder.level file fuel inside?) := by
  refine ⟨fun h turns enclosures enough => ?_⟩
  cases level_eq_ok_iff.1 h with
  | array opens lead reads => exact passes_array (deeper _ opens) lead reads enough
  | object opens lead reads => exact passes_object (deeper _ opens) lead reads enough
  | scalar lead _ _ read _ =>
    exact .last (.scalar (skipLead_of_readScalar lead read (Nat.le_refl _))) enough

/-- Where nothing can be inside, scalars are all that is read. -/
theorem passesOver_scalars (file : List (String × Value) → List (String × Value)) (fuel : Nat) :
    PassesOver (Decoder.level file fuel none) :=
  passesOver_level fun _ opens => absurd opens (Option.some_ne_none _).symm

/-- One more level is passed over. -/
theorem PassesOver.level (each : PassesOver read) :
    PassesOver (Decoder.level file fuel (some read)) :=
  passesOver_level fun _ opens => Option.some.inj opens ▸ each

/-- **A value that can be read is passed over**, however it is spelled. -/
theorem PassesOver.skipValue (each : PassesOver read) (h : read input = .ok (value, rest))
    (enough : input.length < turns) : skipValue turns input = .ok rest := by
  obtain ⟨left, -, more, goes⟩ := each.passes h turns [] enough
  obtain ⟨left, rfl⟩ := Nat.exists_eq_succ_of_ne_zero (Nat.ne_zero_of_lt more)
  rw [Json.skipValue, goes, skipNested]

/-- A value takes a byte at least. -/
theorem PassesOver.length_lt (each : PassesOver read) (h : read input = .ok (value, rest)) :
    rest.length < input.length := by
  obtain ⟨left, less, more, -⟩ := each.passes h _ [] (Nat.lt_succ_self _)
  omega

end Documents

end PropertyGate.Json
