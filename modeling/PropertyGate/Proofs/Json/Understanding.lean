import Mathlib.Data.List.ReduceOption
import PropertyGate.Proofs.Json.Outline
import PropertyGate.Proofs.Json.Records

/-!
# Proofs/Json/Understanding — documents are understood however they are spelled

`Decoder.outline` gives a text as the document that it spells: blanks, escapes and the spelling of
numbers are gone, members stand as they are listed, and `null` stands for what can be passed over and
not read.  A decoder understands a document as a value (`Decoder.Understands`) if it reads the value
from every text with this outline.  Lists are understood item by item, maps entry by entry.  A record
heeds the members that have a place in its shape and passes over the others (`Shape.Heeds`), so **a
record is understood as what the members that it heeds set** (`understands_record`).
-/

namespace PropertyGate.Json

open Entries (UnderOneKey)

variable {α σ τ : Type} {depth : Nat} {decoder : Decoder α} {document : Value} {a : α}

/-- **The decoder understands the document as `a`**: it reads `a` wherever the document is the
outline. -/
def Decoder.Understands (decoder : Decoder α) (depth : Nat) (document : Value) (a : α) : Prop :=
  ∀ fuel, Follows (Decoder.outline fuel depth) (decoder fuel depth) fuel document a

/-- **What is understood is decoded** from each text with this outline. -/
theorem Decoder.Understands.decode (understands : decoder.Understands maxDepth document a)
    {text : Bytes} (spelled : Json.decode Decoder.outline text = .ok document) :
    Json.decode decoder text = .ok a := by
  rw [Json.decode] at spelled ⊢
  rcases outlined : Decoder.outline (text.length + 1) maxDepth text with stop | ⟨document', rest⟩
  · rw [outlined] at spelled
    cases spelled
  · rw [outlined] at spelled
    dsimp only at spelled
    split at spelled <;> cases spelled
    rename_i ended
    rw [understands _ (Nat.lt_succ_self _) outlined]
    dsimp only
    rw [ended]

/-- What is understood is understood as its image. -/
theorem Decoder.Understands.image (understands : decoder.Understands depth document a)
    (f : α → τ) :
    Decoder.Understands (fun fuel depth input => (decoder fuel depth input).map fun (a, rest) =>
      (f a, rest)) depth document (f a) := by
  intro fuel input rest enough outlined
  dsimp only
  rw [understands fuel enough outlined]
  rfl

/-! ## Scalars -/

theorem Scalar.value_inj {scalar other : Scalar} (same : scalar.value = other.value) :
    scalar = other := by
  cases scalar <;> cases other <;> cases same <;> rfl

theorem Scalar.value_ne_array (scalar : Scalar) (items : List Value) :
    scalar.value ≠ .array items := by
  cases scalar <;> nofun

theorem Scalar.value_ne_object (scalar : Scalar) (members : List (String × Value)) :
    scalar.value ≠ .object members := by
  cases scalar <;> nofun

/-- A scalar other than `null` is understood as what it is accepted as. -/
theorem understands_scalar {expected : String} {accept : Scalar → Except Cause α}
    (scalar : Scalar) (solid : scalar.value ≠ .null) (accepted : accept scalar = .ok a) :
    (Decoder.scalar expected accept).Understands depth scalar.value a := by
  intro fuel input rest _ outlined
  generalize spelled : scalar.value = document at outlined solid
  cases readsOutline_of_eq_ok outlined with
  | array => exact absurd spelled (scalar.value_ne_array _)
  | object => exact absurd spelled (scalar.value_ne_object _)
  | passed => exact absurd rfl solid
  | scalar lead array object read same =>
    obtain rfl := Scalar.value_inj (same.trans spelled.symm)
    rw [Decoder.scalar, lead]
    simp only [if_neg array, if_neg object, read, accepted]

theorem understands_text (text : String) : Decoder.text.Understands depth (.text text) text :=
  understands_scalar (.text text) nofun rfl

theorem understands_bool (b : Bool) : Decoder.bool.Understands depth (.bool b) b :=
  understands_scalar (.bool b) nofun rfl

/-! ## Lists and maps -/

/-- **A list is understood item by item.** -/
theorem understands_list {documents : List Value} {items : List α}
    (understands : List.Forall₂ (decoder.Understands depth) documents items) :
    (Decoder.list decoder).Understands (depth + 1) (.array documents) items := by
  intro fuel input rest enough outlined
  cases readsOutline_of_eq_ok outlined with
  | scalar _ _ _ _ same => exact absurd same (Scalar.value_ne_array _ _)
  | array lead inside =>
    have shorter := length_lt_of_lead lead
    have reads := readsItems_of_follows (passesOver_outline fuel depth)
      (understands.imp fun _ _ each => each fuel) inside (by omega)
    exact (compound_of_lead lead (if_pos rfl)).trans (items_eq_ok_iff.2 ⟨items, rfl, reads⟩)

/-- **A map is understood entry by entry.** -/
theorem understands_map {members : List (String × Value)} {entries : List (String × α)}
    (understands : List.Forall₂ (UnderOneKey (decoder.Understands depth)) members entries) :
    (Decoder.map decoder).Understands (depth + 1) (.object members) (TextMap.ofList entries) := by
  intro fuel input rest enough outlined
  cases readsOutline_of_eq_ok outlined with
  | scalar _ _ _ _ same => exact absurd same (Scalar.value_ne_object _ _)
  | object lead inside =>
    have shorter := length_lt_of_lead lead
    have reads := readsMembers_of_follows (passesOver_outline fuel depth)
      (understands.imp fun _ _ ⟨key, each⟩ => ⟨key, each fuel⟩) inside (by omega)
    refine (compound_of_lead lead (if_pos rfl)).trans ?_
    simp only [Nat.add_sub_cancel, members_eq_ok_iff.2 ⟨entries, rfl, reads⟩, List.append_nil,
      List.reverse_reverse]

/-! ## Records -/

section Records

variable {shape : Shape σ} {listed : List (String × Value)} {heeded : List (Option (Part σ))}

/-- **What a member that is listed comes to in a record**: to a part, which the member of its name
understands it as, or to nothing, if the record has no member of its name. -/
def Shape.Heeds (shape : Shape σ) (depth : Nat) (written : String × Value) :
    Option (Part σ) → Prop
  | none => shape.members.find? (·.name == written.1) = none
  | some part => written.1 = part.name ∧
      ∃ member, shape.members.find? (·.name == part.name) = some member ∧
        member.read.Understands depth written.2 part.set

/-- **A record comes to what the members that it heeds set**, one after the other. -/
theorem fromMembers_of_heeds (record : σ) {fuel textFuel : Nat} {seen : List String} {first : Bool}
    {input rest : Bytes} (heeds : List.Forall₂ (shape.Heeds depth) listed heeded)
    (names : (heeded.reduceOption.map Part.name).Nodup)
    (fresh : ∀ name ∈ heeded.reduceOption.map Part.name, name ∉ seen)
    (spelled : ReadsMembers (Decoder.outline textFuel depth) textFuel fuel first input listed rest)
    (enough : input.length < textFuel) :
    shape.fromMembers textFuel depth fuel seen first record input =
      shape.finish ((heeded.reduceOption.map Part.name).reverse ++ seen,
        Part.setAll heeded.reduceOption record) rest := by
  induction spelled generalizing heeded seen record with
  | close next =>
    cases heeds
    rw [Shape.fromMembers, next]
    rfl
  | @member _ _ _ _ _ start behind _ key _ _ next text colon value _ ih =>
    have shorter := length_nextKey_lt next
    have shorter' := length_readText_lt text
    have shorter'' := length_lt_of_lead (lead_of_readColon colon)
    have ended := (passesOver_outline textFuel depth).length_lt value
    cases heeds with
    | @cons _ part _ others here heeds =>
      rw [Shape.fromMembers, next]
      simp only [text]
      cases part with
      | none =>
        have unknown : shape.members.find? (·.name == key) = none := here
        have skip : skipValue textFuel start = .ok behind :=
          (passesOver_outline textFuel depth).skipValue value (by omega)
        rw [List.reduceOption_cons_of_none] at names fresh ⊢
        simp only [unknown, colon, bind, Except.bind, skip]
        exact ih record heeds names fresh (by omega)
      | some part =>
        obtain ⟨rfl, member, found, understands⟩ := here
        have read := understands textFuel (by omega) value
        rw [List.reduceOption_cons_of_some, List.map_cons] at names fresh ⊢
        rw [List.nodup_cons] at names
        rw [List.forall_mem_cons] at fresh
        simp only [found, List.contains_iff_mem, fresh.1, if_false, colon, bind, Except.bind, read]
        rw [List.reverse_cons, List.append_assoc, List.singleton_append]
        refine ih _ heeds names.2 (fun name mem => ?_) (by omega)
        rw [List.mem_cons, not_or]
        exact ⟨fun same => names.1 (same ▸ mem), fresh.2 name mem⟩

/-- **A record is understood as what the members that it heeds set**, if it can be read without any
member. -/
theorem understands_record (heeds : List.Forall₂ (shape.Heeds depth) listed heeded)
    (names : (heeded.reduceOption.map Part.name).Nodup)
    (free : ∀ member ∈ shape.members, member.required = false) :
    shape.decoder.Understands (depth + 1) (.object listed)
      (Part.setAll heeded.reduceOption shape.blank) := by
  intro fuel input rest enough spelled
  cases readsOutline_of_eq_ok spelled with
  | scalar _ _ _ _ same => exact absurd same (Scalar.value_ne_object _ _)
  | object lead inside =>
    have shorter := length_lt_of_lead lead
    have read := fromMembers_of_heeds shape.blank heeds names
      (fun _ _ => List.not_mem_nil) inside (by omega)
    have complete : ∀ seen : List String, ∀ member ∈ shape.members, member.required = true →
        member.name ∈ seen :=
      fun _ member mem required => absurd required (by simp [free member mem])
    have brace : byte '{' ≠ byte '[' := by decide
    refine (compound_of_lead lead ((if_neg brace).trans (if_pos rfl))).trans (read.trans ?_)
    exact finish_of_read (complete _)

end Records

end PropertyGate.Json
