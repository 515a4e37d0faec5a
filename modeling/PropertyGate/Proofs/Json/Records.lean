import Mathlib.Data.List.Pairwise
import PropertyGate.Proofs.Json.Reordering

/-!
# Proofs/Json/Records — values of known types are read from what they are written as

A decoder takes a document as a value (`Decoder.Takes`) if it reads the value from every reordering
of the document.  A list is taken item by item, a map entry by entry (`takes_list`, `takes_map`).  A
record is written member by member in the order of its shape, and a member that has a default may be
left out (`Shape.Writes`).  However its members are then listed, each is found under its own name
and none is read twice.  What they set they set in any order, so **a record is taken as what its
members set** (`takes_record`).
-/

namespace PropertyGate.Json

open Entries (UnderOneKey)

variable {α σ τ : Type} {depth : Nat}

/-- **The decoder takes the document as `a`**, in whatever order objects list their members. -/
def Decoder.Takes (decoder : Decoder α) (depth : Nat) (document : Value) (a : α) : Prop :=
  ∀ written : Value, document.Reordered written → ∀ fuel, written.bytes.length ≤ fuel →
    Yields (decoder fuel depth) written a

/-- **A document that is taken is decoded from each of its reorderings.** -/
theorem Decoder.Takes.decode {decoder : Decoder α} {document written : Value} {a : α}
    (takes : decoder.Takes maxDepth document a) (same : document.Reordered written) :
    Json.decode decoder written.bytes = .ok a := by
  have read := takes written same _ (Nat.le_succ _) [] nofun
  rw [List.append_nil] at read
  rw [Json.decode, read]
  rfl

/-! ## How deep a document nests -/

theorem Value.depth_le_itemsDepth {item : Value} {items : List Value} (mem : item ∈ items) :
    item.depth ≤ itemsDepth items := by
  induction items with
  | nil => cases mem
  | cons other others ih =>
    rw [itemsDepth]
    rcases List.mem_cons.1 mem with rfl | mem
    · exact Nat.le_max_left _ _
    · exact Nat.le_trans (ih mem) (Nat.le_max_right _ _)

theorem Value.depth_le_membersDepth {member : String × Value} {members : List (String × Value)}
    (mem : member ∈ members) : member.2.depth ≤ membersDepth members := by
  induction members with
  | nil => cases mem
  | cons other others ih =>
    obtain ⟨key, value⟩ := other
    rw [membersDepth]
    rcases List.mem_cons.1 mem with rfl | mem
    · exact Nat.le_max_left _ _
    · exact Nat.le_trans (ih mem) (Nat.le_max_right _ _)

/-- **A plain document is plain at every depth that it keeps to.** -/
theorem Plain.of_depth_le {limit : Nat} {value : Value} (plain : Plain depth value)
    (fits : value.depth ≤ limit) : Plain limit value := by
  induction plain generalizing limit with
  | null => exact .null
  | bool b => exact .bool b
  | integer whole => exact .integer whole
  | text text => exact .text text
  | array _ ih =>
    obtain ⟨limit, rfl⟩ := Nat.exists_eq_succ_of_ne_zero (Nat.ne_zero_of_lt fits)
    refine .array fun item mem => ih item mem ?_
    exact Nat.le_trans (Value.depth_le_itemsDepth mem) (Nat.le_of_succ_le_succ fits)
  | object ascending _ ih =>
    obtain ⟨limit, rfl⟩ := Nat.exists_eq_succ_of_ne_zero (Nat.ne_zero_of_lt fits)
    refine .object ascending fun member mem => ih member mem ?_
    exact Nat.le_trans (Value.depth_le_membersDepth mem) (Nat.le_of_succ_le_succ fits)

/-! ## Documents, scalars, lists and maps -/

theorem takes_value {value : Value} (plain : Plain depth value) :
    Decoder.Takes Decoder.value depth value value :=
  fun _ same _ enough => same.reads plain enough

theorem Value.Reordered.eq_of_scalar {scalar : Scalar} {written : Value}
    (same : scalar.value.Reordered written) : written = scalar.value := by
  cases scalar <;> cases same <;> rfl

theorem takes_scalar {expected : String} {accept : Scalar → Except Cause α} {a : α}
    (scalar : Scalar) (whole : ∀ number, scalar = .number number → number.IsInteger64)
    (accepted : accept scalar = .ok a) :
    (Decoder.scalar expected accept).Takes depth scalar.value a := by
  intro written same fuel enough rest ends
  obtain rfl := same.eq_of_scalar
  obtain ⟨b, others, back⟩ := Scalar.exists_readsBack whole enough
  rw [back.written, List.cons_append, Decoder.scalar, skipBlanks_of_leads back.leads]
  simp only [if_neg back.array, if_neg back.object, back.read ends, accepted]

theorem takes_text (text : String) : Decoder.text.Takes depth (.text text) text :=
  takes_scalar (.text text) nofun rfl

theorem takes_bool (b : Bool) : Decoder.bool.Takes depth (.bool b) b :=
  takes_scalar (.bool b) nofun rfl

theorem takes_uint16 (n : UInt16) :
    Decoder.uint16.Takes depth (.number (.integer n.toNat)) n := by
  have small : n.toNat < 65536 := n.toNat_lt
  refine takes_scalar (.number (.integer n.toNat)) (fun number same => ?_) ?_
  · cases same
    exact ⟨by omega, by omega⟩
  · dsimp only
    rw [if_pos ⟨by omega, by omega⟩]
    simp

/-- A text is taken where `null` could stand as well. -/
theorem takes_optional_text (text : String) :
    (Decoder.optional Decoder.text).Takes depth (.text text) (some text) := by
  intro written same fuel enough rest ends
  have read : Decoder.text fuel depth (written.bytes ++ rest) = .ok (text, rest) :=
    takes_text text _ same fuel enough rest ends
  cases same
  have quote : byte '"' ≠ byte 'n' := by decide
  rw [Value.bytes_text, encode_quoted, List.cons_append] at read ⊢
  rw [Decoder.optional, skipBlanks_of_leads ⟨by decide, by decide⟩]
  dsimp only
  rw [if_neg quote, read]
  rfl

/-- **A list is taken item by item.** -/
theorem takes_list {decoder : Decoder α} {encode : α → Value} (items : List α)
    (takes : ∀ item ∈ items, decoder.Takes depth (encode item) item)
    (ne_double : ∀ item ∈ items, ∀ x, encode item ≠ .number (.double x)) :
    (Decoder.list decoder).Takes (depth + 1) (.array (items.map encode)) items := by
  intro written same fuel enough rest _
  obtain ⟨listed, rfl, each⟩ := Value.Reordered.array_iff.1 same
  rw [List.forall₂_map_left_iff] at each
  have begins : ∀ document ∈ listed, document.Begins := fun document mem =>
    have ⟨item, inside, same⟩ := exists_of_mem_right each mem
    same.begins (ne_double item inside)
  have back : List.Forall₂ (fun document item => decoder.Takes depth (encode item) item ∧
      (encode item).Reordered document) listed items :=
    List.Forall₂.flip ((List.forall₂_and_left _ _).2 ⟨takes, each⟩)
  have read : List.Forall₂ (Yields (decoder fuel depth)) listed items :=
    forall₂_imp_of_mem back fun document mem item ⟨take, same⟩ =>
      take document same fuel (length_le_array mem enough)
  rw [Value.bytes_array, List.length_cons] at enough
  rw [Value.bytes_array, List.cons_append]
  exact (compound_of_lead (skipBlanks_of_leads ⟨by decide, by decide⟩) (if_pos rfl)).trans
    (items_itemsInside read begins enough)

/-- **A map is taken entry by entry.** -/
theorem takes_map {decoder : Decoder α} {encode : α → Value} (map : TextMap α)
    (takes : ∀ entry ∈ map.entries, decoder.Takes depth (encode entry.2) entry.2) :
    (Decoder.map decoder).Takes (depth + 1) (.object (map.mapValues fun _ a => encode a).entries)
      map := by
  intro written same fuel enough
  obtain ⟨between, listed, rfl, each, perm⟩ := Value.Reordered.object_iff.1 same
  have back : List.Forall₂ (fun member entry => decoder.Takes depth (encode entry.2) entry.2 ∧
      UnderOneKey Value.Reordered (entry.1, encode entry.2) member) between map.entries :=
    List.Forall₂.flip ((List.forall₂_and_left _ _).2 ⟨takes, List.forall₂_map_left_iff.1 each⟩)
  obtain ⟨entries, every, moves⟩ := List.perm_comp_forall₂ perm.symm back
  have read : List.Forall₂ (UnderOneKey (Yields (decoder fuel depth))) listed entries :=
    forall₂_imp_of_mem every fun member mem entry ⟨take, key, same⟩ =>
      ⟨key.symm, take member.2 same fuel (length_le_object mem enough)⟩
  rw [← TextMap.ofList_of_perm moves]
  exact yields_map read enough

/-- What is taken is taken as its image. -/
theorem Decoder.Takes.image {decoder : Decoder α} {document : Value} {a : α}
    (takes : decoder.Takes depth document a) (f : α → τ) :
    Decoder.Takes (fun fuel depth input => (decoder fuel depth input).map fun (a, rest) =>
      (f a, rest)) depth document (f a) := by
  intro written same fuel enough rest ends
  dsimp only
  rw [takes written same fuel enough rest ends]
  rfl

/-! ## Records -/

/-- A member of a record as it is written, and what it sets. -/
structure Part (σ : Type) where
  name : String
  document : Value
  set : σ → σ

namespace Part

/-- The member that is written. -/
def member (part : Part σ) : String × Value := (part.name, part.document)

/-- The record in which all parts are set, one after the other. -/
def setAll (parts : List (Part σ)) (record : σ) : σ :=
  parts.foldl (fun record part => part.set record) record

/-- The two parts set what they set in either order. -/
def Commutes (one other : Part σ) : Prop :=
  ∀ record, other.set (one.set record) = one.set (other.set record)

instance : Std.Symm (@Commutes σ) := ⟨fun _ _ both record => (both record).symm⟩

end Part

/-- **The parts are written for members of a shape**, one by one; a member that has a default may be
left out. -/
inductive Shape.Writes (depth : Nat) : List (Member σ) → List (Part σ) → Prop where
  | nil : Writes depth [] []
  | write {member : Member σ} {part : Part σ} {members : List (Member σ)} {parts : List (Part σ)}
      (name : part.name = member.name) (takes : member.read.Takes depth part.document part.set)
      (others : Writes depth members parts) : Writes depth (member :: members) (part :: parts)
  | leaveOut {member : Member σ} {members : List (Member σ)} {parts : List (Part σ)}
      (free : member.required = false) (others : Writes depth members parts) :
      Writes depth (member :: members) parts

section Records

variable {shape : Shape σ} {members : List (Member σ)} {parts listed : List (Part σ)}

namespace Shape.Writes

variable {decoder : Decoder τ} {name : String} {set : τ → σ → σ} {document : Value} {value : τ}

theorem needed (takes : decoder.Takes depth document value)
    (others : Shape.Writes depth members parts) :
    Shape.Writes depth (Member.needed name decoder set :: members)
      (⟨name, document, set value⟩ :: parts) :=
  .write rfl (takes.image set) others

theorem defaulted (takes : decoder.Takes depth document value)
    (others : Shape.Writes depth members parts) :
    Shape.Writes depth (Member.defaulted name decoder set :: members)
      (⟨name, document, set value⟩ :: parts) :=
  .write rfl (takes.image set) others

theorem absent (others : Shape.Writes depth members parts) :
    Shape.Writes depth (Member.defaulted name decoder set :: members) parts :=
  .leaveOut rfl others

/-- What is written bears the names of members, in their order. -/
theorem sublist (writes : Writes depth members parts) :
    (parts.map Part.name).Sublist (members.map Member.name) := by
  induction writes with
  | nil => exact .slnil
  | write name _ _ ih =>
    rw [List.map_cons, List.map_cons, name]
    exact ih.cons_cons _
  | leaveOut _ _ ih => exact ih.cons _

/-- What is written is taken by a member of its name. -/
theorem exists_takes (writes : Writes depth members parts) {part : Part σ} (mem : part ∈ parts) :
    ∃ member ∈ members, member.name = part.name ∧
      member.read.Takes depth part.document part.set := by
  induction writes with
  | nil => cases mem
  | @write member _ _ _ name takes _ ih =>
    rcases List.mem_cons.1 mem with rfl | mem
    · exact ⟨member, List.mem_cons_self, name.symm, takes⟩
    · obtain ⟨member, inside, found⟩ := ih mem
      exact ⟨member, List.mem_cons_of_mem _ inside, found⟩
  | leaveOut _ _ ih =>
    obtain ⟨member, inside, found⟩ := ih mem
    exact ⟨member, List.mem_cons_of_mem _ inside, found⟩

/-- A member that is required is written. -/
theorem exists_mem (writes : Writes depth members parts) {member : Member σ}
    (mem : member ∈ members) (required : member.required = true) :
    ∃ part ∈ parts, part.name = member.name := by
  induction writes with
  | nil => cases mem
  | @write _ part _ _ name _ _ ih =>
    rcases List.mem_cons.1 mem with rfl | mem
    · exact ⟨part, List.mem_cons_self, name⟩
    · obtain ⟨part, inside, named⟩ := ih mem
      exact ⟨part, List.mem_cons_of_mem _ inside, named⟩
  | leaveOut free _ ih =>
    rcases List.mem_cons.1 mem with rfl | mem
    · cases free.symm.trans required
    · exact ih mem

end Shape.Writes

/-- A member is found under its name, if no other has it. -/
theorem find?_name {member : Member σ} (names : (members.map Member.name).Nodup)
    (mem : member ∈ members) : members.find? (·.name == member.name) = some member := by
  induction members with
  | nil => cases mem
  | cons other others ih =>
    rw [List.map_cons, List.nodup_cons] at names
    rcases List.mem_cons.1 mem with rfl | mem
    · exact List.find?_cons_of_pos (beq_iff_eq.2 rfl)
    · have different : other.name ≠ member.name := fun same =>
        names.1 (same ▸ List.mem_map_of_mem mem)
      rw [List.find?_cons_of_neg (by simpa using different), ih names.2 mem]

/-- The part is taken by the member that is found under its name. -/
def Shape.Finds (shape : Shape σ) (depth : Nat) (part : Part σ) : Prop :=
  ∃ member, shape.members.find? (·.name == part.name) = some member ∧
    member.read.Takes depth part.document part.set

theorem Shape.Writes.finds (writes : Shape.Writes depth shape.members parts)
    (names : (shape.members.map Member.name).Nodup) : ∀ part ∈ parts, shape.Finds depth part := by
  intro part mem
  obtain ⟨member, inside, named, takes⟩ := writes.exists_takes mem
  exact ⟨member, named ▸ find?_name names inside, takes⟩

/-! ## Reading a record -/

/-- What is written of a member is read as the part of its name. -/
def Shape.Reads (shape : Shape σ) (fuel depth : Nat) (written : String × Value) (part : Part σ) :
    Prop :=
  written.1 = part.name ∧ ∃ member, shape.members.find? (·.name == part.name) = some member ∧
    Yields (member.read fuel depth) written.2 part.set

/-- What a record has come to: the names that were read, and what is set so far. -/
abbrev Progress (σ : Type) := List String × σ

/-- A member that was not read before is read, and sets what it sets. -/
def Shape.Sets (shape : Shape σ) (fuel depth : Nat) (progress : Progress σ)
    (written : String × Value) (after : Progress σ) : Prop :=
  written.1 ∉ progress.1 ∧ ∃ part, shape.Reads fuel depth written part ∧
    after = (written.1 :: progress.1, part.set progress.2)

/-- What is left once the object ends: a record, unless a member is missing. -/
def Shape.finish (shape : Shape σ) (progress : Progress σ) (rest : Bytes) : Reading σ :=
  match shape.members.find? fun member => member.required && !progress.1.contains member.name with
  | some member => stopHere (.missingField member.name) rest
  | none => .ok (progress.2, rest)

theorem passesMembers_fromMembers (shape : Shape σ) (fuel depth : Nat) :
    PassesMembers fuel
      (fun fuel' first (progress : Progress σ) =>
        shape.fromMembers fuel depth fuel' progress.1 first progress.2)
      (shape.Sets fuel depth) shape.finish where
  stop next := by
    rw [Shape.fromMembers, next]
    rfl
  goOn passed next enough ends := by
    obtain ⟨fresh, part, ⟨key, member, found, yields⟩, rfl⟩ := passed
    have colon {rest : Bytes} : readColon (byte ':' :: rest) = .ok rest := rfl
    have read := yields _ ends
    dsimp only at fresh key read ⊢
    rw [← key] at found
    rw [Shape.fromMembers, next]
    simp only [readText_quoted enough, found, List.contains_iff_mem, fresh, if_false, colon, bind,
      Except.bind, read]

/-- **The members of a record are read in the order in which they are listed.** -/
theorem turns_sets {fuel : Nat} {written : List (String × Value)}
    (reads : List.Forall₂ (shape.Reads fuel depth) written listed)
    (names : (listed.map Part.name).Nodup) {seen : List String}
    (fresh : ∀ name ∈ listed.map Part.name, name ∉ seen) (record : σ) :
    Turns (shape.Sets fuel depth) (seen, record) written
      ((listed.map Part.name).reverse ++ seen, Part.setAll listed record) := by
  induction reads generalizing seen record with
  | nil => exact .stay _
  | @cons member part _ others read _ ih =>
    rw [List.map_cons, List.nodup_cons] at names
    rw [List.map_cons, List.forall_mem_cons] at fresh
    rw [List.map_cons, List.reverse_cons, List.append_assoc, List.singleton_append]
    refine .move ⟨read.1 ▸ fresh.1, part, read, rfl⟩ ?_
    rw [read.1]
    refine ih names.2 (fun name mem => ?_) _
    rw [List.mem_cons, not_or]
    exact ⟨fun same => names.1 (same ▸ mem), fresh.2 name mem⟩

/-- Where all that is required was read, nothing is missing at the end. -/
theorem finish_of_read {progress : Progress σ} {rest : Bytes}
    (read : ∀ member ∈ shape.members, member.required = true → member.name ∈ progress.1) :
    shape.finish progress rest = .ok (progress.2, rest) := by
  have none : (shape.members.find? fun member =>
      member.required && !progress.1.contains member.name) = none := by
    refine List.find?_eq_none.2 fun member mem missing => ?_
    rw [Bool.and_eq_true, Bool.not_eq_true'] at missing
    have there := List.contains_iff_mem.2 (read member mem missing.1)
    rw [there] at missing
    cases missing.2
  rw [Shape.finish, none]

/-- Parts that commute set the same in any order. -/
theorem setAll_of_perm (commutes : parts.Pairwise Part.Commutes) (perm : parts.Perm listed)
    (record : σ) : Part.setAll parts record = Part.setAll listed record := by
  have all := commutes.forall_of_forall fun _ _ _ => rfl
  exact perm.foldl_eq' (fun one mem other mem' record => all mem mem' record) record

/-- The members of a written record are read, in some order, as its parts. -/
theorem exists_reads (writes : Shape.Writes depth shape.members parts)
    (names : (shape.members.map Member.name).Nodup) {fuel : Nat} {written : List (String × Value)}
    (same : Value.Reordered (.object (parts.map Part.member)) (.object written))
    (enough : (Value.bytes (.object written)).length ≤ fuel) :
    ∃ listed, parts.Perm listed ∧ List.Forall₂ (shape.Reads fuel depth) written listed := by
  obtain ⟨between, _, ⟨⟩, each, perm⟩ := Value.Reordered.object_iff.1 same
  have back : List.Forall₂ (fun member part => shape.Finds depth part ∧
      UnderOneKey Value.Reordered part.member member) between parts :=
    List.Forall₂.flip ((List.forall₂_and_left _ _).2
      ⟨writes.finds names, List.forall₂_map_left_iff.1 each⟩)
  -- As the members are listed in another order, so are the parts.
  obtain ⟨listed, every, moves⟩ := List.perm_comp_forall₂ perm.symm back
  refine ⟨listed, moves.symm, forall₂_imp_of_mem every ?_⟩
  rintro member mem part ⟨⟨reader, found, takes⟩, key, same⟩
  exact ⟨key.symm, reader, found, takes member.2 same fuel (length_le_object mem enough)⟩

/-- **A record is taken as what its members set**, in whatever order they are listed. -/
theorem takes_record (writes : Shape.Writes depth shape.members parts)
    (names : (shape.members.map Member.name).Nodup) (commutes : parts.Pairwise Part.Commutes)
    {record : σ} (whole : Part.setAll parts shape.blank = record) :
    shape.decoder.Takes (depth + 1) (.object (parts.map Part.member)) record := by
  intro written same fuel enough rest _
  obtain ⟨-, written, rfl, -, -⟩ := Value.Reordered.object_iff.1 same
  obtain ⟨listed, perm, reads⟩ := exists_reads writes names same enough
  have turns := turns_sets reads ((perm.map _).nodup_iff.1 (names.sublist writes.sublist))
    (fun _ _ => List.not_mem_nil) shape.blank
  have complete : ∀ member ∈ shape.members, member.required = true →
      member.name ∈ (listed.map Part.name).reverse ++ [] := by
    intro member mem required
    obtain ⟨part, inside, named⟩ := writes.exists_mem mem required
    rw [List.append_nil, List.mem_reverse, ← named]
    exact List.mem_map_of_mem (perm.mem_iff.1 inside)
  rw [Value.bytes_object, List.length_cons] at enough
  have read : shape.fromMembers fuel depth fuel [] true shape.blank
      (Value.membersInside written ++ rest) = .ok (Part.setAll listed shape.blank, rest) :=
    ((passesMembers_fromMembers shape fuel depth).membersInside turns enough).trans
      (finish_of_read complete)
  have brace : byte '{' ≠ byte '[' := by decide
  rw [← whole, setAll_of_perm commutes perm, Value.bytes_object, List.cons_append]
  exact (compound_of_lead (skipBlanks_of_leads ⟨by decide, by decide⟩)
    ((if_neg brace).trans (if_pos rfl))).trans read

end Records

end PropertyGate.Json
