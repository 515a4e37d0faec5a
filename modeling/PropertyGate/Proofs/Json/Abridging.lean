import PropertyGate.Proofs.Json.Understanding

/-!
# Proofs/Json/Abridging — records that are written in short

A record whose members all have defaults may be written in short (`AbridgedTo`): members that are as
in the blank record are left out, the others are written in any order, each in short in its turn, and
members that the record does not know stand between them.  A part that is as in the blank record sets
nothing there, so it does not matter whether it is written: **a record that is written in short is
understood as the record** (`understands_abridged`).
-/

namespace PropertyGate.Json

open Entries (UnderOneKey)

/-- The members of an object. -/
def Value.members : Value → List (String × Value)
  | .object members => members
  | _ => []

/-- **The second document writes the record of the first in short.**  Some members are dropped that
the blank record has as well; what is kept is rewritten within each member; members with other names
are added; and all are listed in any order. -/
inductive AbridgedTo (blank : Value) (within : String → Value → Value → Prop) :
    Value → Value → Prop where
  | intro {members kept dropped rewritten added listed : List (String × Value)}
      (parts : (kept ++ dropped).Perm members)
      (default : ∀ member ∈ dropped, member ∈ blank.members)
      (rewrites : List.Forall₂ (fun member other =>
        member.1 = other.1 ∧ within member.1 member.2 other.2) kept rewritten)
      (foreign : ∀ member ∈ added, member.1 ∉ members.map Prod.fst)
      (order : (rewritten ++ added).Perm listed) :
      AbridgedTo blank within (.object members) (.object listed)

/-- **The second document writes the map of the first in short**: every key is kept, and what stands
under it is rewritten. -/
inductive EachAbridged (within : Value → Value → Prop) : Value → Value → Prop where
  | intro {entries rewritten listed : List (String × Value)}
      (rewrites : List.Forall₂ (UnderOneKey within) entries rewritten)
      (order : rewritten.Perm listed) : EachAbridged within (.object entries) (.object listed)

variable {α σ : Type} {depth : Nat}

/-! ## Maps -/

/-- **A map that is written in short is understood as the map**, if its values are. -/
theorem understands_eachAbridged {decoder : Decoder α} {encode : α → Value}
    {within : Value → Value → Prop} (map : TextMap α) {written : Value}
    (understands : ∀ a written, within (encode a) written → decoder.Understands depth written a)
    (abridged : EachAbridged within (.object (map.mapValues fun _ a => encode a).entries) written) :
    (Decoder.map decoder).Understands (depth + 1) written map := by
  cases abridged with
  | intro rewrites order =>
    have back : List.Forall₂ (UnderOneKey (decoder.Understands depth)) _ map.entries :=
      List.Forall₂.flip ((List.forall₂_map_left_iff.1 rewrites).imp
        fun entry other ⟨key, same⟩ => ⟨key.symm, understands entry.2 other.2 same⟩)
    obtain ⟨entries, every, moves⟩ := List.perm_comp_forall₂ order.symm back
    rw [← TextMap.ofList_of_perm moves]
    exact understands_map every

/-! ## Records -/

section Records

variable {shape : Shape σ} {parts : List (Part σ)} {blank written : Value} {record : σ}
  {within : String → Value → Value → Prop}

/-- **The part fits the member**: it has its name, it may be left out, and it is understood from
whatever is written for it. -/
structure Part.Fits (within : String → Value → Value → Prop) (depth : Nat) (member : Member σ)
    (part : Part σ) : Prop where
  name : part.name = member.name
  free : member.required = false
  understands (written : Value) (same : within part.name part.document written) :
    member.read.Understands depth written part.set

theorem Part.names_of_fits {members : List (Member σ)}
    (fits : List.Forall₂ (Part.Fits within depth) members parts) :
    parts.map Part.name = members.map Member.name := by
  induction fits with
  | nil => rfl
  | cons here _ ih => rw [List.map_cons, List.map_cons, here.name, ih]

/-- Parts that set nothing in a record leave it. -/
theorem Part.setAll_eq_self (blank : σ) (parts : List (Part σ))
    (sets : ∀ part ∈ parts, part.set blank = blank) : Part.setAll parts blank = blank := by
  induction parts with
  | nil => rfl
  | cons part others ih =>
    rw [List.forall_mem_cons] at sets
    rw [Part.setAll, List.foldl_cons, sets.1]
    exact ih sets.2

theorem Part.setAll_append (parts others : List (Part σ)) (record : σ) :
    Part.setAll (parts ++ others) record = Part.setAll others (Part.setAll parts record) :=
  List.foldl_append ..

/-- Parts that set nothing in the blank record may be left out. -/
theorem Part.setAll_kept {kept dropped : List (Part σ)} {blank : σ}
    (commutes : (kept ++ dropped).Pairwise Part.Commutes)
    (sets : ∀ part ∈ dropped, part.set blank = blank) :
    Part.setAll (kept ++ dropped) blank = Part.setAll kept blank := by
  rw [setAll_of_perm commutes List.perm_append_comm, Part.setAll_append,
    Part.setAll_eq_self blank dropped sets]

/-- What is kept and what is dropped are parts as well. -/
theorem Part.exists_split {kept dropped : List (String × Value)}
    (perm : (kept ++ dropped).Perm (parts.map Part.member)) :
    ∃ stay go : List (Part σ), (stay ++ go).Perm parts ∧ stay.map Part.member = kept ∧
      go.map Part.member = dropped := by
  have same : List.Forall₂ (fun member part => member = Part.member part)
      (parts.map Part.member) parts :=
    List.forall₂_map_left_iff.2 (List.forall₂_same.2 fun _ _ => rfl)
  obtain ⟨moved, each, moves⟩ := List.perm_comp_forall₂ perm same
  rw [← List.forall₂_map_right_iff, List.forall₂_eq_eq_eq] at each
  obtain ⟨stay, go, rfl, stays, goes⟩ := List.map_eq_append_iff.1 each.symm
  exact ⟨stay, go, moves, stays, goes⟩

/-- What is written for a part is heeded as the part. -/
theorem heeds_of_fits (fits : List.Forall₂ (Part.Fits within depth) shape.members parts)
    (names : (shape.members.map Member.name).Nodup) {part : Part σ} (mem : part ∈ parts)
    {other : String × Value} (key : part.name = other.1)
    (same : within part.name part.document other.2) : shape.Heeds depth other (some part) := by
  obtain ⟨member, inside, fit⟩ := exists_of_mem_right fits mem
  exact ⟨key.symm, member, fit.name ▸ find?_name names inside, fit.understands _ same⟩

/-- What is written besides the parts is not heeded. -/
theorem heeds_of_foreign (fits : List.Forall₂ (Part.Fits within depth) shape.members parts)
    {other : String × Value} (foreign : other.1 ∉ parts.map Part.name) :
    shape.Heeds depth other none := by
  rw [Part.names_of_fits fits] at foreign
  refine List.find?_eq_none.2 fun member mem same => foreign ?_
  exact List.mem_map.2 ⟨member, mem, beq_iff_eq.1 same⟩

/-- The members of a record that is written in short are heeded, in some order, as the parts that are
kept. -/
theorem exists_heeded (fits : List.Forall₂ (Part.Fits within depth) shape.members parts)
    (names : (shape.members.map Member.name).Nodup) {kept : List (Part σ)} (subset : kept ⊆ parts)
    {rewritten added listed : List (String × Value)}
    (rewrites : List.Forall₂ (fun part other =>
      part.name = other.1 ∧ within part.name part.document other.2) kept rewritten)
    (foreign : ∀ member ∈ added, member.1 ∉ parts.map Part.name)
    (order : (rewritten ++ added).Perm listed) :
    ∃ heeded, List.Forall₂ (shape.Heeds depth) listed heeded ∧ heeded.reduceOption.Perm kept := by
  have known : List.Forall₂ (shape.Heeds depth) rewritten (kept.map some) :=
    List.forall₂_map_right_iff.2 (List.Forall₂.flip (forall₂_imp_of_mem rewrites
      fun part mem _ ⟨key, same⟩ => heeds_of_fits fits names (subset mem) key same))
  have unknown : List.Forall₂ (shape.Heeds depth) added (added.map fun _ => none) :=
    List.forall₂_map_right_iff.2
      (List.forall₂_same.2 fun other mem => heeds_of_foreign fits (foreign other mem))
  obtain ⟨heeded, each, moves⟩ := List.perm_comp_forall₂ order.symm (List.rel_append known unknown)
  refine ⟨heeded, each, ?_⟩
  have parts := moves.filterMap id
  rwa [List.filterMap_append, List.filterMap_map, List.filterMap_map,
    show (id ∘ some : Part σ → _) = some from rfl, List.filterMap_some,
    show (id ∘ fun _ => none : String × Value → Option (Part σ)) = fun _ => none from rfl,
    List.filterMap_none, List.append_nil] at parts

/-- **A record that is written in short is understood as the record.** -/
theorem understands_abridged
    (fits : List.Forall₂ (Part.Fits within depth) shape.members parts)
    (names : (shape.members.map Member.name).Nodup) (commutes : parts.Pairwise Part.Commutes)
    (whole : Part.setAll parts shape.blank = record)
    (default : ∀ part ∈ parts, part.member ∈ blank.members → part.set shape.blank = shape.blank)
    (abridged : AbridgedTo blank within (.object (parts.map Part.member)) written) :
    shape.decoder.Understands (depth + 1) written record := by
  generalize full : Value.object (parts.map Part.member) = document at abridged
  cases abridged with
  | intro split absent rewrites foreign order =>
    obtain rfl := Value.object.inj full
    obtain ⟨kept, dropped, perm, rfl, rfl⟩ := Part.exists_split split
    rw [List.map_map] at foreign
    rw [List.forall₂_map_left_iff] at rewrites
    have subset : kept ⊆ parts := fun part mem => perm.subset (List.mem_append_left _ mem)
    obtain ⟨heeded, heeds, same⟩ := exists_heeded fits names subset rewrites foreign order
    have commutes : (kept ++ dropped).Pairwise Part.Commutes :=
      commutes.perm perm.symm fun both record => (both record).symm
    have blanks : ∀ part ∈ dropped, part.set shape.blank = shape.blank := fun part mem =>
      default part (perm.subset (List.mem_append_right _ mem))
        (absent _ (List.mem_map_of_mem mem))
    have distinct : (kept.map Part.name).Nodup := by
      rw [← Part.names_of_fits fits] at names
      exact ((perm.map _).nodup_iff.2 names).sublist
        ((List.sublist_append_left kept dropped).map _)
    have set : Part.setAll heeded.reduceOption shape.blank = record := by
      rw [← whole, ← setAll_of_perm commutes perm, Part.setAll_kept commutes blanks]
      exact (setAll_of_perm (List.pairwise_append.1 commutes).1 same.symm _).symm
    rw [← set]
    refine understands_record heeds ((same.map _).nodup_iff.2 distinct) fun member mem => ?_
    obtain ⟨part, -, fit⟩ := exists_of_mem_right (List.Forall₂.flip fits) mem
    exact fit.free

end Records

end PropertyGate.Json
