import Mathlib.Data.List.Induction
import PropertyGate.Proofs.Patch.Grouping

/-!
# Proofs/Patch/Partition — the parts of a patch, or the field that has none

A field has its own declaration if what is filed under its id is declared under that id
(`IsDeclared`).  Where all fields of a patch have, grouping splits the patch into parts
(`Partitions`): one for each owner, none of them empty, nothing in two of them, and the patch is
what they make up together.  Where one has not, grouping fails, and **the smallest such field decides
the error** (`SmallestUndeclared`).  Declarations of other fields than those of the patch make no
difference (`groupByOwner_congr`).
-/

namespace PropertyGate

/-- A field has its own declaration. -/
def IsDeclared (fields : TextMap Field) (fieldId : String) : Prop :=
  ∃ field, fields.get? fieldId = some field ∧ field.id = fieldId

namespace GroupedValues

/-- A group has a value for a field. -/
def Holds (grouped : GroupedValues) (groupId fieldId : String) (value : Json.Value) : Prop :=
  ∃ part, grouped.get? groupId = some part ∧ part.get? fieldId = some value

/-- The values of all groups in one map. -/
def union (grouped : GroupedValues) : Values := grouped.values.foldl .overlay .empty

end GroupedValues

/-- **The parts of a patch**: one for each group that owns a field of it, and none of them empty;
every value lies in the part of the group that its field is declared for, and in no other; together
they are the patch. -/
structure Partitions (fields : TextMap Field) (patch : Values) (grouped : GroupedValues) :
    Prop where
  owners : ∀ groupId, groupId ∈ grouped.keys ↔
    ∃ fieldId ∈ patch.keys, ∃ field, fields.get? fieldId = some field ∧ field.groupId = groupId
  nonempty : ∀ {groupId part}, grouped.get? groupId = some part → part.isEmpty = false
  placed : ∀ {fieldId value}, patch.get? fieldId = some value →
    ∃ field, fields.get? fieldId = some field ∧ grouped.Holds field.groupId fieldId value ∧
      ∀ groupId other, grouped.Holds groupId fieldId other → groupId = field.groupId
  union : grouped.union = patch

/-- **The smallest field of a patch that has no declaration of its own.** -/
structure SmallestUndeclared (fields : TextMap Field) (patch : Values) (fieldId : String) :
    Prop where
  mem : fieldId ∈ patch.keys
  undeclared : ¬ IsDeclared fields fieldId
  smallest : ∀ other ∈ patch.keys, other < fieldId → IsDeclared fields other

variable {fields fields' : TextMap Field} {patch : Values} {grouped : GroupedValues}
  {groupId fieldId : String} {value : Json.Value}

theorem isDeclared_iff : IsDeclared fields fieldId ↔ ∃ owner, ownerOf fields fieldId = .ok owner := by
  simp only [IsDeclared, ownerOf_eq_ok_iff]
  constructor
  · rintro ⟨field, found, own⟩
    exact ⟨field.groupId, field, found, own, rfl⟩
  · rintro ⟨_, field, found, own, -⟩
    exact ⟨field, found, own⟩

theorem mem_keys_of_get? {β : Type} {map : TextMap β} {key : String} {value : β}
    (h : map.get? key = some value) : key ∈ map.keys :=
  TextMap.contains_iff_mem_keys.1 (by rw [TextMap.contains, h, Option.isSome_some])

/-! ## Parts -/

/-- The part of a group is its share, if it owns a field of the patch. -/
theorem get?_of_entries_eq_shares (h : grouped.entries = shares fields patch) (groupId : String) :
    grouped.get? groupId =
      if groupId ∈ owners fields patch then some (share fields patch groupId) else none := by
  rw [TextMap.get?, h]
  exact get?_map_pair _ _ _

/-- What the parts hold, the patch has, for a field that is the group's. -/
theorem holds_iff_of_entries_eq_shares (h : grouped.entries = shares fields patch) :
    grouped.Holds groupId fieldId value ↔
      patch.get? fieldId = some value ∧ ownerOf fields fieldId = .ok groupId := by
  rw [GroupedValues.Holds, get?_of_entries_eq_shares h]
  constructor
  · rintro ⟨part, found, held⟩
    split at found
    · exact get?_share_eq_some_iff.1 (Option.some.inj found ▸ held)
    · cases found
  · rintro ⟨submitted, owner⟩
    have owns : groupId ∈ owners fields patch :=
      mem_owners_iff.2 ⟨fieldId, mem_keys_of_get? submitted, owner⟩
    exact ⟨_, if_pos owns, get?_share_eq_some_iff.2 ⟨submitted, owner⟩⟩

/-- **Of maps laid over each other, the last that has a key decides.** -/
theorem get?_foldl_overlay {β : Type} (maps : List (TextMap β)) (start : TextMap β) (key : String) :
    (maps.foldl .overlay start).get? key =
      (maps.reverse.findSome? (·.get? key)).or (start.get? key) := by
  induction maps using List.reverseRecOn with
  | nil => rfl
  | append_singleton maps map ih =>
    rw [List.foldl_concat, TextMap.get?_overlay, ih, List.reverse_concat, List.findSome?_cons]
    cases map.get? key <;> rfl

/-- Where the parts hold every value of the patch and no other, they make up the patch. -/
theorem union_eq_of_holds
    (h : ∀ fieldId value, (∃ groupId, grouped.Holds groupId fieldId value) ↔
      patch.get? fieldId = some value) : grouped.union = patch := by
  refine TextMap.ext_get? fun fieldId => ?_
  rw [GroupedValues.union, get?_foldl_overlay, TextMap.get?_empty, Option.or_none]
  have part_iff (part : Values) :
      part ∈ grouped.values.reverse ↔ ∃ groupId, grouped.get? groupId = some part := by
    simp only [List.mem_reverse, TextMap.values, List.mem_map, Prod.exists, exists_eq_right,
      TextMap.mem_entries_iff]
  cases found : grouped.values.reverse.findSome? (·.get? fieldId) with
  | some value =>
    obtain ⟨part, hmem, held⟩ := List.exists_of_findSome?_eq_some found
    obtain ⟨groupId, filed⟩ := (part_iff part).1 hmem
    exact ((h fieldId value).1 ⟨groupId, part, filed, held⟩).symm
  | none =>
    refine (Option.eq_none_iff_forall_ne_some.2 fun value submitted => ?_).symm
    obtain ⟨groupId, part, filed, held⟩ := (h fieldId value).2 submitted
    have skipped := List.findSome?_eq_none_iff.1 found part ((part_iff part).2 ⟨groupId, filed⟩)
    exact nomatch skipped.symm.trans held

/-- **Shares are parts.** -/
theorem partitions_of_entries_eq_shares
    (owned : ∀ fieldId ∈ patch.keys, ∃ owner, ownerOf fields fieldId = .ok owner)
    (h : grouped.entries = shares fields patch) : Partitions fields patch grouped where
  owners groupId := by
    rw [TextMap.keys, h, shares, List.map_map]
    change groupId ∈ (owners fields patch).map id ↔ _
    rw [List.map_id, mem_owners_iff]
    refine exists_congr fun fieldId => and_congr_right fun hmem => ?_
    obtain ⟨owner, howner⟩ := owned fieldId hmem
    obtain ⟨known, found, own, -⟩ := ownerOf_eq_ok_iff.1 howner
    rw [ownerOf_eq_ok_iff]
    constructor
    · rintro ⟨field, found, -, same⟩
      exact ⟨field, found, same⟩
    · rintro ⟨field, found', same⟩
      obtain rfl : known = field := Option.some.inj (found.symm.trans found')
      exact ⟨known, found, own, same⟩
  nonempty {groupId part} found := by
    rw [get?_of_entries_eq_shares h] at found
    split at found
    · exact Option.some.inj found ▸ isEmpty_share_eq_false_iff.2 ‹_›
    · cases found
  placed {fieldId value} submitted := by
    obtain ⟨owner, howner⟩ := owned fieldId (mem_keys_of_get? submitted)
    obtain ⟨field, found, -, rfl⟩ := ownerOf_eq_ok_iff.1 howner
    refine ⟨field, found, (holds_iff_of_entries_eq_shares h).2 ⟨submitted, howner⟩,
      fun groupId other held => ?_⟩
    have howner' := ((holds_iff_of_entries_eq_shares h).1 held).2
    exact Except.ok.inj (howner'.symm.trans howner)
  union := by
    refine union_eq_of_holds fun fieldId value => ?_
    simp only [holds_iff_of_entries_eq_shares h]
    constructor
    · rintro ⟨_, submitted, -⟩
      exact submitted
    · intro submitted
      obtain ⟨owner, howner⟩ := owned fieldId (mem_keys_of_get? submitted)
      exact ⟨owner, submitted, howner⟩

/-! ## The field that decides -/

/-- The first field without an owner is the smallest. -/
theorem StopsAt.smallestUndeclared {passed : List String} {error : PatchError}
    (h : StopsAt (ownerOf fields) patch.keys passed fieldId error) :
    SmallestUndeclared fields patch fieldId := by
  obtain ⟨_, passes⟩ := h.exists_passes
  obtain ⟨rest, split⟩ := h.exists_append
  have ascending : (passed ++ fieldId :: rest).Pairwise (· < ·) :=
    split ▸ patch.pairwise_keys
  refine ⟨h.mem, fun declared => ?_, fun other hmem less => ?_⟩
  · obtain ⟨owner, howner⟩ := isDeclared_iff.1 declared
    exact nomatch howner.symm.trans h.check_failed
  · have earlier : other ∈ passed := mem_before_of_lt ascending (split ▸ hmem) less
    obtain ⟨owner, -, howner⟩ := passes.exists_of_mem earlier
    exact isDeclared_iff.2 ⟨owner, howner⟩

/-- **A field has no owner** if it is not declared, or if what is filed under its id is not its own
declaration. -/
theorem ownerOf_eq_error {error : PatchError} (h : ownerOf fields fieldId = .error error) :
    (fields.get? fieldId = none ∧ error = .unknownField fieldId) ∨
      ∃ field, fields.get? fieldId = some field ∧ field.id ≠ fieldId ∧
        error = .fieldResolutionFailed
          ⟨"registry answered field " ++ fieldId ++ " with declaration " ++ field.id, []⟩ := by
  rw [ownerOf] at h
  split at h
  · exact .inl ⟨‹_›, (Except.error.inj h).symm⟩
  · rename_i field found
    split at h
    · cases h
    · exact .inr ⟨field, found, ‹_›, (Except.error.inj h).symm⟩

/-- **Only the declarations of fields of the patch matter.** -/
theorem groupByOwner_congr
    (same : ∀ fieldId ∈ patch.keys, fields'.get? fieldId = fields.get? fieldId) :
    groupByOwner patch fields' = groupByOwner patch fields := by
  have alike (entries : List (String × Json.Value)) (sub : entries ⊆ patch.entries)
      (grouped : GroupedValues) :
      entries.foldlM (GroupedValues.fileOwned fields') grouped =
        entries.foldlM (GroupedValues.fileOwned fields) grouped := by
    induction entries generalizing grouped with
    | nil => rfl
    | cons entry rest ih =>
      have key := same entry.1 (List.mem_map_of_mem (sub List.mem_cons_self))
      simp only [List.foldlM_cons, GroupedValues.fileOwned, key,
        ih fun _ hmem => sub (List.mem_cons_of_mem _ hmem)]
  exact alike _ (List.Subset.refl _) _

/-! ## One of the two -/

/-- **A patch is split into the parts of its owners, or its smallest undeclared field decides the
error**: that the field is unknown, or that what is filed under its id is declared under another one.
Declarations of fields that are not in the patch make no difference. -/
theorem partitions_or_smallestUndeclared (patch : Values) (fields : TextMap Field) :
    ((∀ fieldId ∈ patch.keys, IsDeclared fields fieldId) →
      ∃ grouped, groupByOwner patch fields = .ok grouped ∧ Partitions fields patch grouped) ∧
    ((¬ ∀ fieldId ∈ patch.keys, IsDeclared fields fieldId) →
      ∃ fieldId, SmallestUndeclared fields patch fieldId ∧
        ((fields.get? fieldId = none ∧
            groupByOwner patch fields = .error (.unknownField fieldId)) ∨
          ∃ field, fields.get? fieldId = some field ∧ field.id ≠ fieldId ∧
            groupByOwner patch fields = .error (.fieldResolutionFailed
              ⟨"registry answered field " ++ fieldId ++ " with declaration " ++ field.id, []⟩))) ∧
    ∀ fields' : TextMap Field,
      (∀ fieldId ∈ patch.keys, fields'.get? fieldId = fields.get? fieldId) →
        groupByOwner patch fields' = groupByOwner patch fields := by
  refine ⟨fun declared => ?_, fun undeclared => ?_, fun fields' => groupByOwner_congr⟩
  · have owned := fun fieldId hmem => isDeclared_iff.1 (declared fieldId hmem)
    obtain ⟨grouped, split, entries⟩ := groupByOwner_of_owned owned
    exact ⟨grouped, split, partitions_of_entries_eq_shares owned entries⟩
  · rcases passes_or_stopsAt (ownerOf fields) patch.keys with ⟨_, pass⟩ | ⟨_, fieldId, error, stop⟩
    · refine absurd (fun fieldId hmem => isDeclared_iff.2 ?_) undeclared
      exact (pass.exists_of_mem hmem).imp fun _ found => found.2
    · have fails := groupByOwner_of_stopsAt stop
      refine ⟨fieldId, stop.smallestUndeclared, ?_⟩
      rcases ownerOf_eq_error stop.check_failed with ⟨unknown, rfl⟩ | ⟨field, found, other, rfl⟩
      · exact .inl ⟨unknown, fails⟩
      · exact .inr ⟨field, found, other, fails⟩

/-- Declarations of two fields, and one that is filed under another id than its own. -/
def sampleDeclarations : TextMap Field :=
  .ofList [("a", ⟨"a", "g", none⟩), ("b", ⟨"b", "h", none⟩), ("c", ⟨"x", "g", none⟩)]

/-- A patch of two groups falls into two parts; of one with a field that is filed under another id
and a field that is unknown, the smaller of the two decides. -/
theorem sampleDeclarations_partition :
    let whole : Values := .ofList [("b", .bool true), ("a", .null)]
    let faulty : Values := .ofList [("d", .null), ("c", .null), ("a", .null)]
    (∃ grouped, groupByOwner whole sampleDeclarations = .ok grouped ∧
      Partitions sampleDeclarations whole grouped) ∧
    groupByOwner faulty sampleDeclarations =
      .error (.fieldResolutionFailed
        ⟨"registry answered field c with declaration x", []⟩) := by
  intro whole faulty
  have a : IsDeclared sampleDeclarations "a" := ⟨⟨"a", "g", none⟩, by decide +kernel⟩
  have b : IsDeclared sampleDeclarations "b" := ⟨⟨"b", "h", none⟩, by decide +kernel⟩
  have found : sampleDeclarations.get? "c" = some ⟨"x", "g", none⟩ := by decide +kernel
  have c : ¬ IsDeclared sampleDeclarations "c" := by
    rintro ⟨field, found', own⟩
    obtain rfl := Option.some.inj (found.symm.trans found')
    exact absurd own (by decide)
  constructor
  · refine (partitions_or_smallestUndeclared whole sampleDeclarations).1 fun fieldId hmem => ?_
    rw [show whole.keys = ["a", "b"] by decide +kernel] at hmem
    rcases List.mem_pair.1 hmem with rfl | rfl
    · exact a
    · exact b
  · have keys : faulty.keys = ["a", "c", "d"] := by decide +kernel
    obtain ⟨fieldId, ⟨hmem, undeclared, smallest⟩, decided⟩ :=
      (partitions_or_smallestUndeclared faulty sampleDeclarations).2.1 fun declared =>
        c (declared "c" (by rw [keys]; decide))
    rw [keys] at hmem smallest
    obtain rfl : fieldId = "c" := by
      simp only [List.mem_cons, List.not_mem_nil, or_false] at hmem
      rcases hmem with rfl | rfl | rfl
      · exact absurd a undeclared
      · rfl
      · exact absurd (smallest "c" (by decide) (by decide)) c
    rcases decided with ⟨unknown, -⟩ | ⟨field, found', -, fails⟩
    · exact nomatch unknown.symm.trans found
    · obtain rfl := Option.some.inj (found.symm.trans found')
      exact fails

end PropertyGate
