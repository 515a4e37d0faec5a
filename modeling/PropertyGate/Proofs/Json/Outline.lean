import Mathlib.Data.List.Forall2
import PropertyGate.Proofs.Json.Listing
import PropertyGate.Proofs.Json.Passing

/-!
# Proofs/Json/Outline — what can be passed over and not read

Passing over is more lenient than reading: there a number may be out of range, an escape may be half
of a pair, and arrays and objects may nest as they like.  `Decoder.outline` reads a document as far as
it can be read, with `null` for what can only be passed over.  **Where a document can be read, its
outline is what it is listed as** (`outline_of_listing`); and whatever has an outline is passed over
(`passesOver_outline`).
-/

namespace PropertyGate.Json

open Entries (UnderOneKey)

variable {α : Type} {fuel depth : Nat} {input rest : Bytes} {value : Value}

/-! ## Readers that follow each other -/

section Follows

variable {read : Bytes → Reading Value} {read' : Bytes → Reading α} {bound textFuel : Nat}
  {first : Bool}

/-- **Where one reader reads a document, another reads `a`**, on inputs that are not too long. -/
def Follows (read : Bytes → Reading Value) (read' : Bytes → Reading α) (bound : Nat)
    (document : Value) (a : α) : Prop :=
  ∀ {input rest : Bytes}, input.length < bound → read input = .ok (document, rest) →
    read' input = .ok (a, rest)

/-- Items are followed one by one. -/
theorem readsItems_of_follows {documents : List Value} {items : List α} (each : PassesOver read)
    (follows : List.Forall₂ (Follows read read' bound) documents items)
    (listed : ReadsItems read fuel first input documents rest) (enough : input.length < bound) :
    ReadsItems read' fuel first input items rest := by
  induction listed generalizing items with
  | close next =>
    cases follows
    exact .close next
  | item next value _ ih =>
    cases follows with
    | cons here others =>
      have within := length_nextItem_le next
      have shorter := each.length_lt value
      exact .item next (here (by omega) value) (ih others (by omega))

/-- Members are followed one by one, each under its key. -/
theorem readsMembers_of_follows {members : List (String × Value)} {entries : List (String × α)}
    (each : PassesOver read)
    (follows : List.Forall₂ (UnderOneKey (Follows read read' bound)) members entries)
    (listed : ReadsMembers read textFuel fuel first input members rest)
    (enough : input.length < bound) : ReadsMembers read' textFuel fuel first input entries rest := by
  induction listed generalizing entries with
  | close next =>
    cases follows
    exact .close next
  | member next text colon value _ ih =>
    cases follows with
    | @cons _ entry _ _ here others =>
      obtain ⟨key, a⟩ := entry
      obtain ⟨rfl, here⟩ := here
      have behind := length_nextKey_lt next
      have shorter := length_readText_lt text
      have shorter' := length_lt_of_lead (lead_of_readColon colon)
      have shorter'' := each.length_lt value
      exact .member next text colon (here (by omega) value) (ih others (by omega))

end Follows

/-! ## Outlines -/

/-- Reads a value, or else passes over it: `null` stands for what cannot be read. -/
def orPassedOver (fuel : Nat) (read : Bytes → Reading Value) (input : Bytes) : Reading Value :=
  match read input with
  | .ok found => .ok found
  | .error stop =>
    match skipValue fuel input with
    | .ok rest => .ok (.null, rest)
    | .error _ => .error stop

/-- **Reads the outline of any document**: its members as they are listed, and `null` for whatever
can be passed over and not read. -/
def Decoder.outline (fuel : Nat) : (depth : Nat) → Bytes → Reading Value
  | 0 => orPassedOver fuel (level List.reverse fuel none)
  | depth + 1 => orPassedOver fuel (level List.reverse fuel (some (outline fuel depth)))

/-- **How an outline is read**: item by item, member by member, as a scalar, or not at all. -/
inductive ReadsOutline (fuel : Nat) : (depth : Nat) → Bytes → Value → Bytes → Prop where
  | array {depth : Nat} {input after rest : Bytes} {items : List Value}
      (lead : skipBlanks input = byte '[' :: after)
      (inside : ReadsItems (Decoder.outline fuel depth) fuel true after items rest) :
      ReadsOutline fuel (depth + 1) input (.array items) rest
  | object {depth : Nat} {input after rest : Bytes} {members : List (String × Value)}
      (lead : skipBlanks input = byte '{' :: after)
      (inside : ReadsMembers (Decoder.outline fuel depth) fuel fuel true after members rest) :
      ReadsOutline fuel (depth + 1) input (.object members) rest
  | scalar {depth : Nat} {input after rest : Bytes} {b : UInt8} {scalar : Scalar} {value : Value}
      (lead : skipBlanks input = b :: after) (array : b ≠ byte '[') (object : b ≠ byte '{')
      (read : readScalar fuel (b :: after) = .ok (scalar, rest)) (same : scalar.value = value) :
      ReadsOutline fuel depth input value rest
  | passed {depth : Nat} {input rest : Bytes} (skip : skipValue fuel input = .ok rest) :
      ReadsOutline fuel depth input .null rest

theorem level_or_passed_of_eq_ok {read : Bytes → Reading Value}
    (h : orPassedOver fuel read input = .ok (value, rest)) :
    read input = .ok (value, rest) ∨ value = .null ∧ skipValue fuel input = .ok rest := by
  rw [orPassedOver] at h
  split at h
  · rename_i reads
    exact .inl (reads.trans h)
  · split at h
    · rename_i skip
      cases h
      exact .inr ⟨rfl, skip⟩
    · cases h

theorem readsOutline_of_eq_ok (h : Decoder.outline fuel depth input = .ok (value, rest)) :
    ReadsOutline fuel depth input value rest := by
  cases depth with
  | zero =>
    obtain reads | ⟨rfl, skip⟩ := level_or_passed_of_eq_ok h
    · cases level_eq_ok_iff.1 reads with
      | array opens | object opens => cases opens
      | scalar lead array object read same => exact .scalar lead array object read same
    · exact .passed skip
  | succ depth =>
    obtain reads | ⟨rfl, skip⟩ := level_or_passed_of_eq_ok h
    · cases level_eq_ok_iff.1 reads with
      | array opens lead inside =>
        cases opens
        exact .array lead inside
      | object opens lead inside =>
        cases opens
        rw [List.reverse_reverse]
        exact .object lead inside
      | scalar lead array object read same => exact .scalar lead array object read same
    · exact .passed skip

/-! ## Outlines are passed over -/

theorem PassesOver.orPassedOver {read : Bytes → Reading Value} (each : PassesOver read) :
    PassesOver (orPassedOver fuel read) := by
  refine ⟨fun h turns enclosures enough => ?_⟩
  obtain reads | ⟨-, skip⟩ := level_or_passed_of_eq_ok h
  · exact each.passes reads turns enclosures enough
  · exact (passes_of_skipNested skip enclosures enough).resolve_left (by simp)

/-- **Whatever has an outline is passed over**, inside anything. -/
theorem passesOver_outline (fuel depth : Nat) : PassesOver (Decoder.outline fuel depth) := by
  induction depth with
  | zero => exact (passesOver_scalars List.reverse fuel).orPassedOver
  | succ depth ih => exact ih.level.orPassedOver

/-- What is listed is passed over. -/
theorem passesOver_listing (fuel depth : Nat) : PassesOver (Decoder.listing fuel depth) := by
  induction depth with
  | zero => exact passesOver_scalars List.reverse fuel
  | succ depth ih => exact ih.level

/-! ## Documents that can be read -/

theorem orPassedOver_of_ok {read : Bytes → Reading Value} (reads : read input = .ok (value, rest)) :
    orPassedOver fuel read input = .ok (value, rest) := by
  rw [orPassedOver, reads]

/-- **Where a document can be read, its outline is what it is listed as.** -/
theorem outline_of_listing (listed : Decoder.listing fuel depth input = .ok (value, rest)) :
    Decoder.outline fuel depth input = .ok (value, rest) := by
  induction depth generalizing input value rest with
  | zero => exact orPassedOver_of_ok listed
  | succ depth ih =>
    have follows (bound : Nat) (item : Value) :
        Follows (Decoder.listing fuel depth) (Decoder.outline fuel depth) bound item item :=
      fun _ => ih
    refine orPassedOver_of_ok (level_eq_ok_iff.2 ?_)
    have reads : Decoder.level List.reverse fuel (some (Decoder.listing fuel depth)) input =
        .ok (value, rest) := listed
    cases level_eq_ok_iff.1 reads with
    | array opens lead inside =>
      cases opens
      refine .array rfl lead (readsItems_of_follows (passesOver_listing fuel depth) ?_ inside
        (Nat.lt_succ_self _))
      exact List.forall₂_same.2 fun item _ => follows _ item
    | object opens lead inside =>
      cases opens
      refine .object rfl lead (readsMembers_of_follows (passesOver_listing fuel depth) ?_ inside
        (Nat.lt_succ_self _))
      exact List.forall₂_same.2 fun member _ => ⟨rfl, follows _ member.2⟩
    | scalar lead array object read same => exact .scalar lead array object read same

/-- A text that spells a document has it as its outline. -/
theorem decode_outline_of_listing {text : Bytes}
    (listed : Json.decode Decoder.listing text = .ok value) :
    Json.decode Decoder.outline text = .ok value := by
  rw [Json.decode] at listed ⊢
  split at listed
  · cases listed
  rename_i read
  rw [outline_of_listing read]
  exact listed

end PropertyGate.Json
