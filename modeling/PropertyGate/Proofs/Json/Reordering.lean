import Mathlib.Data.List.Perm.Basic
import PropertyGate.Proofs.Json.RoundTrip
import PropertyGate.Proofs.Property.Flatten

/-!
# Proofs/Json/Reordering — documents up to the order of their members

Whoever lists a map may take its entries in any order.  Two documents are the same up to the order
of members (`Value.Reordered`) if their arrays hold such documents one by one, and their objects
hold them under the same keys, however they list them.  That is an equivalence
(`Reordered.equivalence`), and **a plain document is read from every one that is the same up to the
order of members** (`Reordered.reads`): whatever the order, the members are filed by their keys.
-/

namespace PropertyGate

/-! ## Filing in any order -/

namespace Entries

variable {β γ : Type}

/-- In a list that ascends once it is put in order, an entry is found wherever it stands. -/
theorem get?_of_perm {listed entries : List (String × β)} (ascending : Ascending entries)
    (perm : listed.Perm entries) (key : String) : get? key listed = get? key entries := by
  cases found : get? key listed with
  | some value =>
    exact ((get?_eq_some_iff_mem ascending).2 (perm.mem_iff.1 (mem_of_get? found))).symm
  | none =>
    cases here : get? key entries with
    | none => rfl
    | some value =>
      obtain ⟨_, there⟩ :=
        exists_get?_of_mem (perm.mem_iff.2 ((get?_eq_some_iff_mem ascending).1 here))
      cases found.symm.trans there

/-- **Entries are filed by their keys, however they are listed.** -/
theorem ofLatestFirst_of_perm {listed entries : List (String × β)} (ascending : Ascending entries)
    (perm : listed.Perm entries) : ofLatestFirst listed.reverse = entries :=
  eq_of_get?_eq (ascending_ofLatestFirst _) ascending fun key => by
    rw [get?_ofLatestFirst, get?_of_perm ascending (listed.reverse_perm.trans perm)]

/-- Entries are related one by one, each under one key, if their keys are the same in order and their
values are related in pairs. -/
theorem forall₂_underOneKey_iff {related : β → γ → Prop} {entries : List (String × β)}
    {others : List (String × γ)} :
    List.Forall₂ (UnderOneKey related) entries others ↔
      entries.map Prod.fst = others.map Prod.fst ∧
        ∀ pair ∈ entries.zip others, related pair.1.2 pair.2.2 := by
  induction entries generalizing others with
  | nil => cases others <;> simp
  | cons entry rest ih =>
    cases others with
    | nil => simp
    | cons other others =>
      rw [List.forall₂_cons, ih]
      simp only [UnderOneKey, List.map_cons, List.cons.injEq, List.zip_cons_cons,
        List.forall_mem_cons]
      tauto

end Entries

/-- **A map is filed from its entries, however they are listed.** -/
theorem TextMap.ofList_of_perm {β : Type} {listed : List (String × β)} {map : TextMap β}
    (perm : listed.Perm map.entries) : TextMap.ofList listed = map := by
  obtain ⟨entries, ascending⟩ := map
  rw [TextMap.ofList]
  congr
  exact Entries.ofLatestFirst_of_perm ascending perm

section Related

variable {α β γ : Type} {R : α → β → Prop} {S : β → γ → Prop} {as : List α} {bs : List β}
  {cs : List γ}

/-- What is related by way of a list in between is related by the composed relation. -/
theorem forall₂_comp (first : List.Forall₂ R as bs) (second : List.Forall₂ S bs cs) :
    List.Forall₂ (Relation.Comp R S) as cs := by
  induction first generalizing cs with
  | nil =>
    cases second
    exact .nil
  | cons related _ ih =>
    cases second with
    | cons related' others => exact .cons ⟨_, related, related'⟩ (ih others)

/-- A relation may be replaced by one that follows from it where the first item is in the list. -/
theorem forall₂_imp_of_mem {R' : α → β → Prop} (related : List.Forall₂ R as bs)
    (imp : ∀ a ∈ as, ∀ b, R a b → R' a b) : List.Forall₂ R' as bs :=
  ((List.forall₂_and_left _ _).2 ⟨fun _ mem => mem, related⟩).imp
    fun a b ⟨mem, relates⟩ => imp a mem b relates

/-- Every item of the second list is related to one of the first. -/
theorem exists_of_mem_right {b : β} (related : List.Forall₂ R as bs) (mem : b ∈ bs) :
    ∃ a ∈ as, R a b := by
  induction related with
  | nil => cases mem
  | cons first _ ih =>
    rcases List.mem_cons.1 mem with rfl | mem
    · exact ⟨_, List.mem_cons_self, first⟩
    · obtain ⟨a, inside, others⟩ := ih mem
      exact ⟨a, List.mem_cons_of_mem _ inside, others⟩

end Related

namespace Json

open Entries (UnderOneKey)

/-! ## The same up to the order of members -/

/-- **The two documents are the same up to the order in which objects list their members.** -/
inductive Value.Reordered : Value → Value → Prop where
  | null : Reordered .null .null
  | bool (b : Bool) : Reordered (.bool b) (.bool b)
  | number (n : Number) : Reordered (.number n) (.number n)
  | text (s : String) : Reordered (.text s) (.text s)
  | array {items others : List Value} (length : items.length = others.length)
      (each : ∀ pair ∈ items.zip others, Reordered pair.1 pair.2) :
      Reordered (.array items) (.array others)
  | object {members listed others : List (String × Value)}
      (keys : members.map Prod.fst = listed.map Prod.fst)
      (each : ∀ pair ∈ members.zip listed, Reordered pair.1.2 pair.2.2)
      (perm : listed.Perm others) : Reordered (.object members) (.object others)

namespace Value.Reordered

variable {value other last : Value} {items others : List Value}
  {members listed : List (String × Value)}

/-- Arrays are the same if their items are, one by one. -/
theorem of_items (each : List.Forall₂ Reordered items others) :
    Reordered (.array items) (.array others) :=
  have ⟨length, pairs⟩ := List.forall₂_iff_zip.1 each
  .array length fun _ mem => pairs mem

/-- Objects are the same if their members are, one by one, once those of one are put in order. -/
theorem of_members {between : List (String × Value)} (perm : between.Perm listed)
    (each : List.Forall₂ (UnderOneKey Reordered) members between) :
    Reordered (.object members) (.object listed) :=
  have ⟨keys, pairs⟩ := Entries.forall₂_underOneKey_iff.1 each
  .object keys pairs perm

theorem array_iff :
    Reordered (.array items) value ↔
      ∃ others, value = .array others ∧ List.Forall₂ Reordered items others := by
  constructor
  · rintro (_ | _ | _ | _ | ⟨length, each⟩)
    exact ⟨_, rfl, List.forall₂_iff_zip.2 ⟨length, fun mem => each _ mem⟩⟩
  · rintro ⟨others, rfl, each⟩
    exact of_items each

theorem object_iff :
    Reordered (.object members) value ↔
      ∃ between listed, value = .object listed ∧
        List.Forall₂ (UnderOneKey Reordered) members between ∧ between.Perm listed := by
  constructor
  · rintro (_ | _ | _ | _ | _ | ⟨keys, each, perm⟩)
    exact ⟨_, _, rfl, Entries.forall₂_underOneKey_iff.2 ⟨keys, each⟩, perm⟩
  · rintro ⟨between, listed, rfl, each, perm⟩
    exact of_members perm each

/-- A document is the same as itself; a member of it is smaller than the members together. -/
theorem refl : (value : Value) → Reordered value value
  | .null => .null
  | .bool b => .bool b
  | .number n => .number n
  | .text s => .text s
  | .array items => of_items (List.forall₂_same.2 fun item _ => refl item)
  | .object members =>
    of_members (.refl _) (List.forall₂_same.2 fun member mem =>
      have : sizeOf member.2 < sizeOf members := by
        have inside := List.sizeOf_lt_of_mem mem
        obtain ⟨key, value⟩ := member
        rw [Prod.mk.sizeOf_spec] at inside
        dsimp only
        omega
      ⟨rfl, refl member.2⟩)

/-- The members of an object may be listed in any order. -/
theorem of_perm (perm : members.Perm listed) : Reordered (.object members) (.object listed) :=
  of_members perm (List.forall₂_same.2 fun member _ => ⟨rfl, refl member.2⟩)

/-- The members are put in the order of the first document, where each is the same as before. -/
theorem symm (h : Reordered value other) : Reordered other value := by
  induction h with
  | null => exact .null
  | bool b => exact .bool b
  | number n => exact .number n
  | text s => exact .text s
  | array length _ ih =>
    exact of_items (List.Forall₂.flip (List.forall₂_iff_zip.2 ⟨length, fun mem => ih _ mem⟩))
  | @object members listed others keys _ perm ih =>
    have each : List.Forall₂ (UnderOneKey fun a b => Reordered b a) members listed :=
      Entries.forall₂_underOneKey_iff.2 ⟨keys, ih⟩
    have back : List.Forall₂ (UnderOneKey Reordered) listed members :=
      List.Forall₂.flip (each.imp fun _ _ both => ⟨both.1.symm, both.2⟩)
    obtain ⟨between, each', perm'⟩ := List.perm_comp_forall₂ perm.symm back
    exact of_members perm' each'

/-- Where the second document is reordered once more, its members are lined up with those that they
come from. -/
theorem trans (h : Reordered value other) (h' : Reordered other last) :
    Reordered value last := by
  induction h generalizing last with
  | null | bool | number | text => exact h'
  | array length _ ih =>
    obtain ⟨others, rfl, each⟩ := array_iff.1 h'
    have first := List.forall₂_iff_zip.2
      ⟨length, fun {item other} mem last (next : Reordered other last) => ih (item, other) mem next⟩
    refine of_items ((forall₂_comp first each).imp ?_)
    rintro _ _ ⟨_, goOn, next⟩
    exact goOn _ next
  | @object members listed others keys _ perm ih =>
    obtain ⟨between, _, rfl, each, perm'⟩ := object_iff.1 h'
    have first : List.Forall₂ (UnderOneKey fun a b => ∀ last, Reordered b last → Reordered a last)
        members listed :=
      Entries.forall₂_underOneKey_iff.2 ⟨keys, fun pair mem _ next => ih pair mem next⟩
    obtain ⟨moved, each', moves⟩ := List.perm_comp_forall₂ perm each
    refine of_members (moves.trans perm') ((forall₂_comp first each').imp ?_)
    rintro _ _ ⟨_, ⟨key, goOn⟩, ⟨key', next⟩⟩
    exact ⟨key.trans key', goOn _ next⟩

/-- **Being the same up to the order of members is an equivalence.** -/
theorem equivalence : Equivalence Reordered := ⟨refl, symm, trans⟩

/-- The reorderings of a document that is no double begin with a byte that opens a value. -/
theorem begins (h : Reordered value other) (ne_double : ∀ x, value ≠ .number (.double x)) :
    other.Begins := by
  refine Value.begins fun x double => ?_
  subst double
  cases h
  exact ne_double x rfl

/-! ## Reading what is reordered -/

/-- **A plain document is read from each of its reorderings.** -/
theorem reads {fuel depth : Nat} (h : Reordered value other) (plain : Plain depth value)
    (enough : other.bytes.length ≤ fuel) : Yields (Decoder.value fuel depth) other value := by
  rw [Decoder.value_eq_valueWith]
  induction h generalizing depth with
  | null | bool | number | text =>
    exact plain.reads (fun _ => Entries.ofLatestFirst_reverse) enough
  | @array items others length each ih =>
    cases plain with
    | @array depth _ plain =>
    refine yields_array (List.Forall₂.flip (List.forall₂_iff_zip.2 ⟨length, ?_⟩)) ?_ enough
    · intro item other mem
      obtain ⟨here, there⟩ := List.of_mem_zip mem
      exact ih _ mem (plain item here) (length_le_array there enough)
    · intro other mem
      obtain ⟨item, here, same⟩ :=
        exists_of_mem_right (List.forall₂_iff_zip.2 ⟨length, fun mem => each _ mem⟩) mem
      exact same.begins (plain item here).ne_double
  | @object members listed others keys _ perm ih =>
    cases plain with
    | @object depth _ ascending plain =>
    have read : List.Forall₂ (UnderOneKey fun value other =>
        Yields (Decoder.valueWith Entries.ofLatestFirst fuel depth) other value) members listed := by
      refine Entries.forall₂_underOneKey_iff.2 ⟨keys, fun pair mem => ?_⟩
      obtain ⟨here, there⟩ := List.of_mem_zip mem
      exact ih pair mem (plain _ here) (length_le_object (perm.mem_iff.1 there) enough)
    obtain ⟨filed, each, moves⟩ := List.perm_comp_forall₂ perm.symm (List.Forall₂.flip read)
    rw [← Entries.ofLatestFirst_of_perm ascending moves]
    exact yields_object (each.imp fun _ _ both => ⟨both.1.symm, both.2⟩) enough

end Value.Reordered

end Json

end PropertyGate
