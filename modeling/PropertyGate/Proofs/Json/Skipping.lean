import Mathlib.Tactic.SplitIfs
import PropertyGate.Json.Structure
import PropertyGate.Proofs.FirstFailure

/-!
# Proofs/Json/Skipping — scalars that are read are passed over

What nobody asks for is passed over by readers of their own, which check the form of a number or a
string but do not look at its value.  **Whatever is read is passed over up to the same byte**
(`skipLead_of_readScalar`): the digits of a number are gone past whether they are counted or not
(`skipNumber_of_read`), and a pair of escapes that together name one character is gone past as two
escapes (`skipText_of_read`).
-/

namespace PropertyGate.Json

variable {input rest : Bytes} {fuel : Nat}

/-! ## Blanks -/

theorem length_skipBlanks_le (input : Bytes) : (skipBlanks input).length ≤ input.length := by
  induction input with
  | nil => exact Nat.le_refl 0
  | cons b rest ih =>
    rw [skipBlanks]
    split
    · exact Nat.le_succ_of_le ih
    · exact Nat.le_refl _

/-- A byte that stands behind the blanks is gone past with them. -/
theorem length_lt_of_lead {b : UInt8} (lead : skipBlanks input = b :: rest) :
    rest.length < input.length := by
  have le := length_skipBlanks_le input
  rwa [lead] at le

theorem skipBlanks_skipBlanks (input : Bytes) : skipBlanks (skipBlanks input) = skipBlanks input := by
  induction input with
  | nil => rfl
  | cons b rest ih =>
    rw [skipBlanks]
    split
    · exact ih
    · rename_i solid
      rw [skipBlanks, if_neg solid]

/-- No blank stands before the first byte that is none. -/
theorem skipBlanks_of_lead {b : UInt8} (lead : skipBlanks input = b :: rest) :
    skipBlanks (b :: rest) = b :: rest := by
  rw [← lead, skipBlanks_skipBlanks]

/-! ## Numbers -/

section Numbers

variable {negative : Bool} {significand : Nat} {power : Int} {number : Number} {tally : Tally}

/-- Digits that are counted are gone past. -/
theorem tallyDigits_snd (tally : Tally) (input : Bytes) :
    (tallyDigits tally input).2 = input.dropWhile isDigit := by
  induction input generalizing tally with
  | nil => rfl
  | cons b rest ih =>
    rw [tallyDigits, List.dropWhile_cons]
    split
    · exact ih _
    · rfl

/-- Whatever becomes of an exponent, its digits are gone past. -/
theorem dropWhile_exponentDigits (exponent : Nat) (input : Bytes) :
    (exponentDigits exponent input).2.dropWhile isDigit = input.dropWhile isDigit := by
  induction input generalizing exponent with
  | nil => rfl
  | cons b rest ih =>
    rw [exponentDigits]
    split
    case isFalse => rfl
    rename_i digit
    rw [List.dropWhile_cons_of_pos digit]
    split
    · rfl
    · exact ih _

/-- An exponent that is not too large ends behind its digits. -/
theorem exponentDigits_of_some {exponent counted : Nat}
    (h : exponentDigits exponent input = (some counted, rest)) : rest = input.dropWhile isDigit := by
  induction input generalizing exponent with
  | nil =>
    cases h
    rfl
  | cons b others ih =>
    rw [exponentDigits] at h
    split at h
    · rename_i digit
      rw [List.dropWhile_cons_of_pos digit]
      split at h
      · cases h
      · exact ih h
    · rename_i stops
      cases h
      rw [List.dropWhile_cons_of_neg stops]

/-- Rounding a number goes past nothing. -/
theorem finishDouble_rest (h : finishDouble negative significand power input = .ok (number, rest)) :
    rest = input := by
  rw [finishDouble] at h
  split at h <;> cases h
  rfl

theorem wholeNumber_rest (h : wholeNumber negative significand input = .ok (number, rest)) :
    rest = input := by
  rw [wholeNumber] at h
  split at h
  · cases h
    rfl
  split at h
  · cases h
    rfl
  · exact finishDouble_rest h

/-- The input behind the sign of an exponent, if it has one. -/
def behindSign : Bytes → Bytes
  | b :: rest => if b = byte '+' || b = byte '-' then rest else b :: rest
  | [] => []

/-- Reads the digits of an exponent, its sign already read. -/
def readUnsignedExponent (negative : Bool) (significand : Nat) (power : Int) (below : Bool) :
    Bytes → Reading Number
  | [] => stopHere .endInValue []
  | b :: rest =>
    if isDigit b then
      match exponentDigits (digitValue b) rest with
      | (some exponent, rest) =>
        finishDouble negative significand
          (if below then power - (exponent : Int) else power + (exponent : Int)) rest
      | (none, rest) =>
        if significand ≠ 0 && !below then stopHere .numberOutOfRange rest
        else .ok (.double (Double.zero negative), rest.dropWhile isDigit)
    else stopHere .invalidNumber rest

/-- The sign of an exponent is read before its digits, and only says on which side they count. -/
theorem exists_readExponent_eq (negative : Bool) (significand : Nat) (power : Int) (input : Bytes) :
    ∃ below, readExponent negative significand power input =
      readUnsignedExponent negative significand power below (behindSign input) := by
  cases input with
  | nil => exact ⟨false, rfl⟩
  | cons b rest =>
    rw [readExponent.eq_def, behindSign]
    dsimp only
    by_cases plus : b = byte '+'
    · exact ⟨false, by rw [if_pos plus, if_pos (by simp [plus])]; rfl⟩
    rw [if_neg plus]
    by_cases minus : b = byte '-'
    · exact ⟨true, by rw [if_pos minus, if_pos (by simp [minus])]; rfl⟩
    · exact ⟨false, by rw [if_neg minus, if_neg (by simp [plus, minus])]; rfl⟩

/-- Behind the sign, an exponent has a digit at least. -/
theorem skipExponent_eq (input : Bytes) :
    skipExponent input = match behindSign input with
      | [] => stopHere .invalidNumber []
      | b :: rest =>
        if isDigit b then .ok (rest.dropWhile isDigit) else stopHere .invalidNumber rest := by
  cases input <;> rfl

/-- An exponent that is read is passed over, even one so large that its digits are not counted. -/
theorem skipExponent_of_read
    (h : readExponent negative significand power input = .ok (number, rest)) :
    skipExponent input = .ok rest := by
  obtain ⟨below, read⟩ := exists_readExponent_eq negative significand power input
  rw [read] at h
  rw [skipExponent_eq]
  cases digits : behindSign input with
  | nil =>
    rw [digits] at h
    cases h
  | cons b after =>
    rw [digits, readUnsignedExponent] at h
    dsimp only
    split at h
    case isFalse => cases h
    rename_i digit
    rw [if_pos digit]
    rcases counted : exponentDigits (digitValue b) after with ⟨_ | exponent, behind⟩ <;>
      rw [counted] at h <;> dsimp only at h
    · have past := dropWhile_exponentDigits (digitValue b) after
      rw [counted] at past
      split at h <;> cases h
      rw [past]
    · rw [finishDouble_rest h, exponentDigits_of_some counted]

/-- Passes over what follows the digits after a point. -/
def skipAfterDigits : Bytes → Except Stop Bytes
  | [] => .ok []
  | b :: rest => if isExponentMark b then skipExponent rest else .ok (b :: rest)

theorem skipAfterDigits_of_read
    (h : readAfterDigits negative significand power input = .ok (number, rest)) :
    skipAfterDigits input = .ok rest := by
  rw [readAfterDigits.eq_def] at h
  cases input with
  | nil => rw [skipAfterDigits, finishDouble_rest h]
  | cons b others =>
    rw [skipAfterDigits]
    dsimp only at h
    split at h
    case isTrue mark => rw [if_pos mark, skipExponent_of_read h]
    rename_i mark
    rw [if_neg mark, finishDouble_rest h]

/-- Behind the point stands a digit, then others, and then an exponent, if there is one. -/
theorem skipFraction_of_digit {b : UInt8} (digit : isDigit b = true) :
    skipFraction (b :: rest) = skipAfterDigits (rest.dropWhile isDigit) := by
  rw [skipFraction, if_pos digit]
  cases rest.dropWhile isDigit <;> rfl

/-- What is read behind a point is passed over. -/
theorem skipFraction_of_read
    (h : readFraction negative significand power input = .ok (number, rest)) :
    skipFraction input = .ok rest := by
  have behind := tallyDigits_snd ⟨significand, 0, 0⟩ input
  rw [readFraction] at h
  cases input with
  | nil => cases h
  | cons b after =>
    by_cases digit : isDigit b = true
    · rw [List.dropWhile_cons_of_pos digit] at behind
      rw [skipFraction_of_digit digit, ← behind]
      dsimp only at h
      split at h
      · split at h <;> cases h
      · exact skipAfterDigits_of_read h
    · rw [tallyDigits, if_neg digit] at h
      cases h

/-- What is read behind the whole part of a number is passed over, be it nothing. -/
theorem skipAfterWhole_of_read (h : readAfterWhole negative tally input = .ok (number, rest)) :
    skipAfterWhole input = .ok rest := by
  cases input with
  | nil =>
    rw [readAfterWhole.eq_def] at h
    dsimp only at h
    split at h
    · rw [wholeNumber_rest h]; rfl
    · rw [finishDouble_rest h]; rfl
  | cons b others =>
    rw [readAfterWhole.eq_def] at h
    rw [skipAfterWhole]
    dsimp only at h
    split at h
    case isTrue point => rw [if_pos point, skipFraction_of_read h]
    rename_i point
    rw [if_neg point]
    split at h
    case isTrue mark => rw [if_pos mark, skipExponent_of_read h]
    rename_i mark
    rw [if_neg mark]
    split at h
    · rw [wholeNumber_rest h]
    · rw [finishDouble_rest h]

/-- **A number that is read is passed over**, its minus sign already read. -/
theorem skipNumber_of_read (h : readUnsigned negative input = .ok (number, rest)) :
    skipNumber input = .ok rest := by
  rw [readUnsigned.eq_def] at h
  rw [skipNumber.eq_def]
  cases input with
  | nil => cases h
  | cons b after =>
    dsimp only at h ⊢
    split at h
    case isTrue zero =>
      rw [if_pos zero]
      cases after with
      | nil => exact skipAfterWhole_of_read h
      | cons d others =>
        dsimp only at h ⊢
        split at h
        case isTrue => cases h
        rename_i stops
        rw [if_neg stops, skipAfterWhole_of_read h]
    rename_i zero
    split at h
    case isFalse => cases h
    rename_i digit
    rw [if_neg zero, if_pos digit, ← tallyDigits_snd ⟨digitValue b, 1, 0⟩ after]
    exact skipAfterWhole_of_read h

theorem length_skipExponent_le (h : skipExponent input = .ok rest) : rest.length ≤ input.length := by
  have shorter : (behindSign input).length ≤ input.length := by
    cases input with
    | nil => exact Nat.le_refl 0
    | cons b after =>
      rw [behindSign]
      split
      · exact Nat.le_succ _
      · exact Nat.le_refl _
  rw [skipExponent_eq] at h
  rcases digits : behindSign input with _ | ⟨b, after⟩ <;> rw [digits] at h shorter
  · cases h
  · dsimp only at h
    split at h <;> cases h
    have digits := (List.dropWhile_sublist isDigit (l := after)).length_le
    rw [List.length_cons] at shorter
    omega

theorem length_skipAfterDigits_le (h : skipAfterDigits input = .ok rest) :
    rest.length ≤ input.length := by
  cases input with
  | nil =>
    cases h
    exact Nat.le_refl 0
  | cons b others =>
    rw [skipAfterDigits] at h
    split at h
    · exact Nat.le_succ_of_le (length_skipExponent_le h)
    · cases h
      exact Nat.le_refl _

theorem length_skipFraction_le (h : skipFraction input = .ok rest) : rest.length ≤ input.length := by
  cases input with
  | nil => cases h
  | cons b others =>
    by_cases digit : isDigit b = true
    · rw [skipFraction_of_digit digit] at h
      have digits := (List.dropWhile_sublist isDigit (l := others)).length_le
      exact Nat.le_succ_of_le (Nat.le_trans (length_skipAfterDigits_le h) digits)
    · rw [skipFraction, if_neg digit] at h
      cases h

theorem length_skipAfterWhole_le (h : skipAfterWhole input = .ok rest) :
    rest.length ≤ input.length := by
  cases input with
  | nil =>
    cases h
    exact Nat.le_refl 0
  | cons b others =>
    rw [skipAfterWhole] at h
    split at h
    · exact Nat.le_succ_of_le (length_skipFraction_le h)
    split at h
    · exact Nat.le_succ_of_le (length_skipExponent_le h)
    · cases h
      exact Nat.le_refl _

/-- A number takes a byte at least. -/
theorem length_skipNumber_lt (h : skipNumber input = .ok rest) : rest.length < input.length := by
  rw [skipNumber.eq_def] at h
  cases input with
  | nil => cases h
  | cons b others =>
    dsimp only at h
    split at h
    · split at h
      · cases h
        exact Nat.zero_lt_succ _
      split at h
      · cases h
      · exact Nat.lt_succ_of_le (length_skipAfterWhole_le h)
    split at h
    · have digits := (List.dropWhile_sublist isDigit (l := others)).length_le
      exact Nat.lt_succ_of_le (Nat.le_trans (length_skipAfterWhole_le h) digits)
    · cases h

end Numbers

/-! ## Strings -/

section Strings

variable {turns : Nat} {plain : Bytes}

theorem length_readHex_lt {n : Nat} (h : readHex input = .ok (n, rest)) :
    rest.length < input.length := by
  rw [readHex.eq_def] at h
  split at h
  · split at h <;> cases h
    simp only [List.length_cons]
    omega
  · cases h

/-- An escape takes a byte at least besides its backslash. -/
theorem length_skipEscape_lt (h : skipEscape input = .ok rest) : rest.length < input.length := by
  rw [skipEscape.eq_def] at h
  split at h
  · cases h
  split at h
  · cases h
    exact Nat.lt_succ_self _
  split at h
  · obtain ⟨⟨n, after⟩, digits, rfl⟩ := map_eq_ok_iff.1 h
    exact Nat.lt_succ_of_lt (length_readHex_lt digits)
  · cases h

/-- A string takes a byte at least: the quotation mark that closes it. -/
theorem length_skipText_lt (h : skipText turns input = .ok rest) : rest.length < input.length := by
  induction turns generalizing input with
  | zero => cases h
  | succ turns ih =>
    cases input with
    | nil => cases h
    | cons b others =>
      rw [skipText] at h
      split at h
      · cases h
        exact Nat.lt_succ_self _
      split at h
      · split at h
        · rename_i escaped
          exact Nat.lt_succ_of_lt (Nat.lt_trans (ih h) (length_skipEscape_lt escaped))
        · cases h
      split at h
      · cases h
      · exact Nat.lt_succ_of_lt (ih h)

/-- A string is passed over in any number of turns that is enough for its bytes. -/
theorem skipText_of_enough (h : skipText fuel input = .ok rest) (enough : input.length ≤ turns) :
    skipText turns input = .ok rest := by
  induction fuel generalizing input turns with
  | zero => cases h
  | succ fuel ih =>
    cases input with
    | nil => cases h
    | cons b others =>
      obtain ⟨turns, rfl⟩ := Nat.exists_eq_succ_of_ne_zero (Nat.ne_zero_of_lt enough)
      rw [List.length_cons] at enough
      rw [skipText] at h ⊢
      split at h
      case isTrue quote => rw [if_pos quote, h]
      rename_i quote
      rw [if_neg quote]
      split at h
      case isTrue escape =>
        rw [if_pos escape]
        split at h
        case h_2 => cases h
        rename_i escaped
        have shorter := length_skipEscape_lt escaped
        exact ih h (by omega)
      rename_i escape
      rw [if_neg escape]
      split at h
      case isTrue => cases h
      rename_i solid
      rw [if_neg solid]
      exact ih h (by omega)

theorem skipEscape_unicode (input : Bytes) :
    skipEscape (byte 'u' :: input) = (readHex input).map (·.2) := rfl

/-- The second half of a pair of escapes is passed over as an escape of its own. -/
theorem exists_skipEscape_of_readLowSurrogate {high : Nat}
    (h : readLowSurrogate high input = .ok (plain, rest)) :
    ∃ inner, input = byte '\\' :: inner ∧ skipEscape inner = .ok rest := by
  rw [readLowSurrogate.eq_def] at h
  split at h
  · cases h
  split at h
  · cases h
  rename_i escape
  split at h
  · cases h
  split at h
  · cases h
  rename_i unicode
  obtain ⟨⟨low, after⟩, digits, h⟩ := bind_eq_ok_iff.1 h
  dsimp only at h
  split at h
  case isFalse => cases h
  obtain ⟨-, rfl⟩ := Prod.mk.inj (Except.ok.inj h)
  refine ⟨_, by rw [Decidable.not_not.1 escape], ?_⟩
  rw [Decidable.not_not.1 unicode, skipEscape_unicode, digits]
  rfl

/-- **An escape that is read is passed over**, on its own or with the one that follows it. -/
theorem exists_skipEscape_of_read (h : readEscape input = .ok (plain, rest)) :
    ∃ after, skipEscape input = .ok after ∧
      (after = rest ∨ ∃ inner, after = byte '\\' :: inner ∧ skipEscape inner = .ok rest) := by
  rw [readEscape.eq_def] at h
  rw [skipEscape.eq_def]
  cases input with
  | nil => cases h
  | cons b others =>
    dsimp only at h ⊢
    cases short : shortEscape? b <;> rw [short] at h <;> dsimp only at h ⊢
    case some =>
      cases h
      exact ⟨_, rfl, .inl rfl⟩
    split at h
    case isFalse => cases h
    rename_i unicode
    rw [if_pos unicode]
    obtain ⟨⟨n, after⟩, digits, h⟩ := bind_eq_ok_iff.1 h
    rw [digits]
    refine ⟨after, rfl, ?_⟩
    dsimp only at h
    split at h
    · cases h
    split at h
    · exact .inr (exists_skipEscape_of_readLowSurrogate h)
    · cases h
      exact .inl rfl

/-- In a string an escape takes one turn. -/
theorem skipText_escape {after : Bytes} (skip : skipEscape input = .ok after) :
    skipText (turns + 1) (byte '\\' :: input) = skipText turns after := by
  rw [skipText, if_neg (by decide), if_pos rfl, skip]

/-- **A string that is read is passed over.** -/
theorem skipText_of_readTextBytes {read bytes : Bytes}
    (h : readTextBytes fuel read input = .ok (bytes, rest)) (enough : input.length ≤ turns) :
    skipText turns input = .ok rest := by
  induction fuel generalizing read input turns with
  | zero => cases h
  | succ fuel ih =>
    cases input with
    | nil => cases h
    | cons b others =>
      obtain ⟨turns, rfl⟩ := Nat.exists_eq_succ_of_ne_zero (Nat.ne_zero_of_lt enough)
      rw [List.length_cons] at enough
      rw [readTextBytes] at h
      split at h
      case isTrue quote =>
        cases h
        rw [skipText, if_pos quote]
      rename_i quote
      split at h
      case isTrue escape =>
        subst escape
        split at h
        case h_2 => cases h
        rename_i read
        obtain ⟨after, skip, rfl | ⟨inner, rfl, skip'⟩⟩ := exists_skipEscape_of_read read
        · have shorter := length_skipEscape_lt skip
          rw [skipText_escape skip, ih h (by omega)]
        · have shorter := length_skipEscape_lt skip
          have shorter' := length_skipEscape_lt skip'
          rw [List.length_cons] at shorter
          obtain ⟨turns, rfl⟩ : ∃ less, turns = less + 1 := ⟨turns - 1, by omega⟩
          rw [skipText_escape skip, skipText_escape skip', ih h (by omega)]
      rename_i escape
      split at h
      case isTrue => cases h
      rename_i solid
      rw [skipText, if_neg quote, if_neg escape, if_neg solid, ih h (by omega)]

/-- Decoding the bytes of a string goes past nothing more. -/
theorem skipText_of_read {text : String} (h : readText fuel input = .ok (text, rest))
    (enough : input.length ≤ turns) : skipText turns input = .ok rest := by
  obtain ⟨⟨bytes, after⟩, read, h⟩ := bind_eq_ok_iff.1 h
  dsimp only at h
  split at h <;> cases h
  exact skipText_of_readTextBytes read enough

theorem length_readText_lt {text : String} (h : readText fuel input = .ok (text, rest)) :
    rest.length < input.length :=
  length_skipText_lt (skipText_of_read h (Nat.le_refl _))

end Strings

/-! ## Scalars -/

theorem length_expectWord_le {word : List Char} (h : expectWord word input = .ok rest) :
    rest.length ≤ input.length := by
  induction word generalizing input with
  | nil =>
    cases h
    exact Nat.le_refl _
  | cons c word ih =>
    cases input with
    | nil => cases h
    | cons b others =>
      rw [expectWord] at h
      split at h
      · exact Nat.le_succ_of_le (ih h)
      · cases h

/-- What a word is read as does not matter for passing over it. -/
theorem skipWord_of_read {word : List Char} {given scalar : Scalar}
    (h : (expectWord word input).map (given, ·) = .ok (scalar, rest)) :
    (expectWord word input).map (none, ·) = .ok ((none : Option Enclosure), rest) := by
  obtain ⟨_, read, same⟩ := map_eq_ok_iff.1 h
  cases same
  rw [read]
  rfl

/-- A number that is read is passed over behind its minus sign. -/
theorem skipNumber_of_readNumber {b : UInt8} {after : Bytes} {number : Number}
    (h : readNumber (b :: after) = .ok (number, rest)) :
    skipNumber (if b = byte '-' then after else b :: after) = .ok rest := by
  rw [readNumber] at h
  split at h
  · rename_i minus
    rw [if_pos minus]
    exact skipNumber_of_read h
  · rename_i digit
    rw [if_neg digit]
    exact skipNumber_of_read h

/-- **A scalar that is read is passed over.** -/
theorem skipLead_of_readScalar {turns : Nat} {b : UInt8} {after : Bytes} {scalar : Scalar}
    (lead : skipBlanks input = b :: after) (h : readScalar fuel (b :: after) = .ok (scalar, rest))
    (enough : input.length ≤ turns) : skipLead turns input = .ok (none, rest) := by
  have shorter := length_lt_of_lead lead
  rw [skipLead, lead]
  rw [readScalar] at h
  dsimp only at h ⊢
  by_cases null : b = byte 'n'
  · rw [if_pos null] at h ⊢
    exact skipWord_of_read h
  by_cases yes : b = byte 't'
  · rw [if_neg null, if_pos yes] at h ⊢
    exact skipWord_of_read h
  by_cases no : b = byte 'f'
  · rw [if_neg null, if_neg yes, if_pos no] at h ⊢
    exact skipWord_of_read h
  rw [if_neg null, if_neg yes, if_neg no] at h ⊢
  split at h
  case isTrue opens =>
    obtain ⟨⟨number, _⟩, read, same⟩ := map_eq_ok_iff.1 h
    cases same
    have skip := skipNumber_of_readNumber read
    by_cases minus : b = byte '-'
    · rw [if_pos minus] at skip ⊢
      rw [skip]
      rfl
    · rw [if_neg minus] at skip ⊢
      rw [if_pos (by simpa [minus] using opens), skip]
      rfl
  case isFalse other =>
    rw [Bool.or_eq_true, decide_eq_true_eq, not_or] at other
    rw [if_neg other.1, if_neg other.2]
    split at h
    case isFalse => cases h
    rename_i quote
    obtain ⟨⟨text, _⟩, read, same⟩ := map_eq_ok_iff.1 h
    cases same
    rw [if_pos quote, skipText_of_read read (by omega)]
    rfl

/-- The start of a value takes a byte at least. -/
theorem length_skipLead_lt {opened : Option Enclosure} (h : skipLead fuel input = .ok (opened, rest)) :
    rest.length < input.length := by
  rw [skipLead] at h
  split at h
  · cases h
  rename_i b after lead
  have shorter := length_lt_of_lead lead
  have passed {skip : Except Stop Bytes} (h : skip.map (none, ·) = .ok (opened, rest)) :
      skip = .ok rest := by
    obtain ⟨_, skipped, same⟩ := map_eq_ok_iff.1 h
    cases same
    exact skipped
  suffices within : rest.length ≤ after.length by omega
  split_ifs at h
  · exact length_expectWord_le (passed h)
  · exact length_expectWord_le (passed h)
  · exact length_expectWord_le (passed h)
  · exact Nat.le_of_lt (length_skipNumber_lt (passed h))
  · exact Nat.le_of_lt_succ (length_skipNumber_lt (passed h))
  · exact Nat.le_of_lt (length_skipText_lt (passed h))
  · cases h
    exact Nat.le_refl _
  · cases h
    exact Nat.le_refl _
  · cases h

/-- The start of a value is passed over in any number of turns that is enough for its bytes. -/
theorem skipLead_of_enough {opened : Option Enclosure} {turns : Nat}
    (h : skipLead fuel input = .ok (opened, rest)) (enough : input.length ≤ turns) :
    skipLead turns input = .ok (opened, rest) := by
  rw [skipLead] at h ⊢
  cases lead : skipBlanks input with
  | nil =>
    rw [lead] at h
    cases h
  | cons b after =>
    have shorter := length_lt_of_lead lead
    rw [lead] at h
    dsimp only at h ⊢
    -- Only a string is passed over in turns.
    by_cases quote : b = byte '"'
    · subst quote
      obtain ⟨_, read, same⟩ := map_eq_ok_iff.1 h
      cases same
      exact map_eq_ok_iff.2 ⟨_, skipText_of_enough read (by omega), rfl⟩
    · rw [if_neg quote] at h ⊢
      exact h

end PropertyGate.Json
