import Mathlib.Data.List.Induction
import PropertyGate.Definitions.Lemmas
import PropertyGate.Proofs.FirstFailure
import PropertyGate.Proofs.TextMap.Distinct

/-!
# Proofs/Definitions/Seeding — which seed files are accepted

A seed file is consistent (`Seed.Consistent`) if it repeats no id and lists the group of every
field.  Groups are declared one after the other, and then fields; what was declared so far is what
was listed so far (`ofSeed_eq_ok_iff`).  So **the consistent files are the ones that are accepted,
in any order of their groups and fields**, and of any other file **the first fault decides**
(`Seed.FirstFault`): the part before it is consistent, and one item more is too much
(`accepts_consistent_seeds`).
-/

namespace PropertyGate

namespace Seed

/-- **No id is repeated, and the group of every field is listed.** -/
structure Consistent (seed : Seed) : Prop where
  groups : (seed.groups.map (·.id)).Nodup
  fields : (seed.fields.map (·.id)).Nodup
  owned : ∀ field ∈ seed.fields, field.groupId ∈ seed.groups.map (·.id)

/-- **The first fault of a file**, groups before fields: what is listed before it is consistent.  A
field that repeats an id and names a group that is not listed counts as a repetition. -/
inductive FirstFault (seed : Seed) : DeclarationError → Prop where
  | repeatedGroup {before after : List Group} {group : Group}
      (split : seed.groups = before ++ group :: after) (sound : Consistent ⟨before, []⟩)
      (repeated : group.id ∈ before.map (·.id)) : FirstFault seed (.duplicateGroup group.id)
  | repeatedField {before after : List Field} {field : Field}
      (split : seed.fields = before ++ field :: after) (sound : Consistent ⟨seed.groups, before⟩)
      (repeated : field.id ∈ before.map (·.id)) : FirstFault seed (.duplicateField field.id)
  | strayField {before after : List Field} {field : Field}
      (split : seed.fields = before ++ field :: after) (sound : Consistent ⟨seed.groups, before⟩)
      (new : field.id ∉ before.map (·.id)) (stray : field.groupId ∉ seed.groups.map (·.id)) :
      FirstFault seed (.unknownGroup field.id field.groupId)

/-- The definitions of what is listed. -/
def listed (seed : Seed) : Definitions where
  groups := .ofList (seed.groups.map fun group => (group.id, group))
  fields := .ofList (seed.fields.map fun field => (field.id, field))

variable {seed : Seed} {groups groups' : List Group} {fields fields' : List Field} {group : Group}
  {field : Field} {id : String}

/-! ## Consistent files -/

theorem consistent_groups_iff : Consistent ⟨groups, []⟩ ↔ (groups.map (·.id)).Nodup :=
  ⟨Consistent.groups, fun distinct => ⟨distinct, .nil, nofun⟩⟩

/-- One group more is consistent if its id is new. -/
theorem consistent_groups_concat_iff :
    Consistent ⟨groups ++ [group], []⟩ ↔
      Consistent ⟨groups, []⟩ ∧ group.id ∉ groups.map (·.id) := by
  rw [consistent_groups_iff, consistent_groups_iff, List.map_append, List.map_singleton,
    ← List.concat_eq_append, List.nodup_concat, and_comm]

/-- One field more is consistent if its id is new and its group is listed. -/
theorem consistent_fields_concat_iff :
    Consistent ⟨groups, fields ++ [field]⟩ ↔
      Consistent ⟨groups, fields⟩ ∧ field.id ∉ fields.map (·.id) ∧
        field.groupId ∈ groups.map (·.id) := by
  have distinct : ((fields ++ [field]).map (·.id)).Nodup ↔
      field.id ∉ fields.map (·.id) ∧ (fields.map (·.id)).Nodup := by
    rw [List.map_append, List.map_singleton, ← List.concat_eq_append, List.nodup_concat]
  constructor
  · rintro ⟨distinctGroups, distinctFields, owned⟩
    obtain ⟨new, distinctFields⟩ := distinct.1 distinctFields
    have known := owned field (List.mem_append_right _ List.mem_cons_self)
    exact ⟨⟨distinctGroups, distinctFields, fun other mem =>
      owned other (List.mem_append_left _ mem)⟩, new, known⟩
  · rintro ⟨⟨distinctGroups, distinctFields, owned⟩, new, known⟩
    refine ⟨distinctGroups, distinct.2 ⟨new, distinctFields⟩, fun other mem => ?_⟩
    rcases List.mem_append.1 mem with mem | mem
    · exact owned other mem
    · exact List.mem_singleton.1 mem ▸ known

/-- The order of groups and of fields does not matter. -/
theorem Consistent.of_perm (h : Consistent ⟨groups, fields⟩) (order : groups'.Perm groups)
    (order' : fields'.Perm fields) : Consistent ⟨groups', fields'⟩ where
  groups := (order.map (·.id)).nodup_iff.2 h.groups
  fields := (order'.map (·.id)).nodup_iff.2 h.fields
  owned field mem := (order.map (·.id)).mem_iff.2 (h.owned field (order'.mem_iff.1 mem))

/-! ## What is listed -/

/-- The ids that something is listed under. -/
theorem map_fst_map {α : Type} (ids : α → String) (items : List α) :
    (items.map fun item => (ids item, item)).map Prod.fst = items.map ids := by
  rw [List.map_map]
  rfl

theorem contains_groups_listed : seed.listed.groups.contains id ↔ id ∈ seed.groups.map (·.id) := by
  rw [listed, TextMap.contains_ofList, map_fst_map]

theorem contains_fields_listed : seed.listed.fields.contains id ↔ id ∈ seed.fields.map (·.id) := by
  rw [listed, TextMap.contains_ofList, map_fst_map]

theorem listed_groups_concat :
    listed ⟨groups ++ [group], []⟩ =
      { listed ⟨groups, []⟩ with
        groups := (listed ⟨groups, []⟩).groups.insert group.id group } := by
  simp only [listed, List.map_append, List.map_singleton, TextMap.ofList_concat]

theorem listed_fields_concat :
    listed ⟨groups, fields ++ [field]⟩ =
      { listed ⟨groups, fields⟩ with
        fields := (listed ⟨groups, fields⟩).fields.insert field.id field } := by
  simp only [listed, List.map_append, List.map_singleton, TextMap.ofList_concat]

namespace Consistent

/-- **What is listed is found under its id, and nothing else.** -/
theorem get?_groups_listed (h : seed.Consistent) :
    seed.listed.groups.get? id = some group ↔ group ∈ seed.groups ∧ group.id = id := by
  rw [listed, TextMap.get?_ofList_eq_some_iff ((map_fst_map ..).symm ▸ h.groups)]
  simp

theorem field?_listed (h : seed.Consistent) :
    seed.listed.field? id = some field ↔ field ∈ seed.fields ∧ field.id = id := by
  rw [Definitions.field?, listed,
    TextMap.get?_ofList_eq_some_iff ((map_fst_map ..).symm ▸ h.fields)]
  simp

theorem size_groups_listed (h : seed.Consistent) :
    seed.listed.groups.size = seed.groups.length := by
  rw [listed, TextMap.size_ofList ((map_fst_map ..).symm ▸ h.groups), List.length_map]

theorem size_fields_listed (h : seed.Consistent) :
    seed.listed.fields.size = seed.fields.length := by
  rw [listed, TextMap.size_ofList ((map_fst_map ..).symm ▸ h.fields), List.length_map]

theorem listed_of_perm (h : Consistent ⟨groups, fields⟩) (order : groups'.Perm groups)
    (order' : fields'.Perm fields) : listed ⟨groups', fields'⟩ = listed ⟨groups, fields⟩ := by
  rw [listed, listed, TextMap.ofList_congr ((map_fst_map ..).symm ▸ h.groups) (order.map _),
    TextMap.ofList_congr ((map_fst_map ..).symm ▸ h.fields) (order'.map _)]

end Consistent

end Seed

namespace Definitions

open Seed

variable {seed : Seed} {groups : List Group} {fields : List Field} {definitions : Definitions}
  {error : DeclarationError}

/-! ## Declaring what is listed -/

/-- Groups are declared as long as no id is repeated. -/
theorem foldlM_declareGroup_eq_ok_iff :
    groups.foldlM declareGroup empty = .ok definitions ↔
      Consistent ⟨groups, []⟩ ∧ definitions = listed ⟨groups, []⟩ := by
  -- By the last group: what was declared before it is what was listed before it.
  induction groups using List.reverseRecOn generalizing definitions with
  | nil =>
    rw [List.foldlM_nil, consistent_groups_iff]
    exact ⟨fun same => ⟨.nil, (Except.ok.inj same).symm⟩, fun ⟨_, same⟩ => same ▸ rfl⟩
  | append_singleton groups group ih =>
    simp only [foldlM_concat_eq_ok_iff, ih, declareGroup_eq_ok_iff]
    rw [consistent_groups_concat_iff, listed_groups_concat]
    constructor
    · rintro ⟨_, ⟨sound, rfl⟩, free, rfl⟩
      rw [TextMap.get?_eq_none_iff, contains_groups_listed] at free
      exact ⟨⟨sound, free⟩, rfl⟩
    · rintro ⟨⟨sound, new⟩, rfl⟩
      refine ⟨_, ⟨sound, rfl⟩, ?_, rfl⟩
      rwa [TextMap.get?_eq_none_iff, contains_groups_listed]

/-- Over groups that are declared, fields are declared as long as no id is repeated and every group
is listed. -/
theorem foldlM_declareField_eq_ok_iff (sound : Consistent ⟨groups, []⟩) :
    fields.foldlM declareField (listed ⟨groups, []⟩) = .ok definitions ↔
      Consistent ⟨groups, fields⟩ ∧ definitions = listed ⟨groups, fields⟩ := by
  induction fields using List.reverseRecOn generalizing definitions with
  | nil =>
    rw [List.foldlM_nil]
    exact ⟨fun same => ⟨sound, (Except.ok.inj same).symm⟩, fun ⟨_, same⟩ => same ▸ rfl⟩
  | append_singleton fields field ih =>
    simp only [foldlM_concat_eq_ok_iff, ih, declareField_eq_ok_iff]
    rw [consistent_fields_concat_iff, listed_fields_concat]
    constructor
    · rintro ⟨_, ⟨sound, rfl⟩, free, known, rfl⟩
      rw [TextMap.get?_eq_none_iff, contains_fields_listed] at free
      exact ⟨⟨sound, free, contains_groups_listed.1 known⟩, rfl⟩
    · rintro ⟨⟨sound, new, known⟩, rfl⟩
      refine ⟨_, ⟨sound, rfl⟩, ?_, contains_groups_listed.2 known, rfl⟩
      rwa [TextMap.get?_eq_none_iff, contains_fields_listed]

/-- **A file is accepted if it is consistent, and then declares what it lists.** -/
theorem ofSeed_eq_ok_iff :
    ofSeed seed = .ok definitions ↔ seed.Consistent ∧ definitions = seed.listed := by
  rw [ofSeed, bind_eq_ok_iff]
  constructor
  · rintro ⟨_, declared, success⟩
    obtain ⟨sound, rfl⟩ := foldlM_declareGroup_eq_ok_iff.1 declared
    exact (foldlM_declareField_eq_ok_iff sound).1 success
  · rintro ⟨sound, same⟩
    have distinct : Consistent ⟨seed.groups, []⟩ := consistent_groups_iff.2 sound.groups
    exact ⟨_, foldlM_declareGroup_eq_ok_iff.2 ⟨distinct, rfl⟩,
      (foldlM_declareField_eq_ok_iff distinct).2 ⟨sound, same⟩⟩

/-- Groups fail at the first repeated id. -/
theorem foldlM_declareGroup_eq_error_iff :
    seed.groups.foldlM declareGroup empty = .error error ↔
      ∃ before group after, seed.groups = before ++ group :: after ∧ Consistent ⟨before, []⟩ ∧
        group.id ∈ before.map (·.id) ∧ error = .duplicateGroup group.id := by
  simp only [foldlM_eq_error_iff, foldlM_declareGroup_eq_ok_iff, declareGroup_eq_error_iff]
  constructor
  · rintro ⟨before, group, after, _, split, ⟨sound, rfl⟩, repeated, rfl⟩
    exact ⟨before, group, after, split, sound, contains_groups_listed.1 repeated, rfl⟩
  · rintro ⟨before, group, after, split, sound, repeated, rfl⟩
    exact ⟨before, group, after, _, split, ⟨sound, rfl⟩, contains_groups_listed.2 repeated, rfl⟩

/-- **A file is refused for its first fault.** -/
theorem ofSeed_eq_error_iff : ofSeed seed = .error error ↔ seed.FirstFault error := by
  rw [ofSeed, bind_eq_error_iff, foldlM_declareGroup_eq_error_iff]
  constructor
  · rintro (⟨before, group, after, split, sound, repeated, rfl⟩ | ⟨_, declared, refused⟩)
    · exact .repeatedGroup split sound repeated
    · obtain ⟨distinct, rfl⟩ := foldlM_declareGroup_eq_ok_iff.1 declared
      obtain ⟨before, field, after, _, split, upTo, refused⟩ := foldlM_eq_error_iff.1 refused
      obtain ⟨sound, rfl⟩ := (foldlM_declareField_eq_ok_iff distinct).1 upTo
      rcases declareField_eq_error_iff.1 refused with ⟨repeated, rfl⟩ | ⟨new, stray, rfl⟩
      · exact .repeatedField split sound (contains_fields_listed.1 repeated)
      · rw [contains_fields_listed] at new
        rw [contains_groups_listed] at stray
        exact .strayField split sound new stray
  · have at_field {before after : List Field} {field : Field}
        (split : seed.fields = before ++ field :: after)
        (sound : Consistent ⟨seed.groups, before⟩)
        (refused : declareField (listed ⟨seed.groups, before⟩) field = .error error) :
        ∃ declared, seed.groups.foldlM declareGroup empty = .ok declared ∧
          seed.fields.foldlM declareField declared = .error error := by
      have distinct : Consistent ⟨seed.groups, []⟩ := consistent_groups_iff.2 sound.groups
      exact ⟨_, foldlM_declareGroup_eq_ok_iff.2 ⟨distinct, rfl⟩,
        foldlM_eq_error_iff.2 ⟨before, field, after, _, split,
          (foldlM_declareField_eq_ok_iff distinct).2 ⟨sound, rfl⟩, refused⟩⟩
    rintro (⟨split, sound, repeated⟩ | ⟨split, sound, repeated⟩ | ⟨split, sound, new, stray⟩)
    · exact .inl ⟨_, _, _, split, sound, repeated, rfl⟩
    · exact .inr (at_field split sound
        (declareField_eq_error_iff.2 (.inl ⟨contains_fields_listed.2 repeated, rfl⟩)))
    · exact .inr (at_field split sound (declareField_eq_error_iff.2
        (.inr ⟨mt contains_fields_listed.1 new, mt contains_groups_listed.1 stray, rfl⟩)))

/-! ## Which files are accepted -/

/-- **Just the consistent files are accepted**:

* a file that repeats no id and lists the group of every field, and no other;
* what is declared then is what is listed, each group and field under its own id;
* groups and fields may be listed in any order, and the same is declared;
* any other file is refused for its first fault: the first group that repeats an id, or else the
  first field that repeats one or names a group that is not listed. -/
theorem accepts_consistent_seeds (seed : Seed) :
    ((∃ definitions, ofSeed seed = .ok definitions) ↔ seed.Consistent) ∧
    (∀ definitions, ofSeed seed = .ok definitions →
      definitions.groups.size = seed.groups.length ∧
      definitions.fields.size = seed.fields.length ∧
      (∀ id group, definitions.groups.get? id = some group ↔ group ∈ seed.groups ∧ group.id = id) ∧
      ∀ id field, definitions.field? id = some field ↔ field ∈ seed.fields ∧ field.id = id) ∧
    (∀ groups fields, groups.Perm seed.groups → fields.Perm seed.fields → ∀ definitions,
      ofSeed ⟨groups, fields⟩ = .ok definitions ↔ ofSeed seed = .ok definitions) ∧
    ∀ error, ofSeed seed = .error error ↔ seed.FirstFault error := by
  refine ⟨?_, fun definitions success => ?_, fun groups fields order order' definitions => ?_,
    fun error => ofSeed_eq_error_iff⟩
  · simp only [ofSeed_eq_ok_iff, exists_and_left, exists_eq, and_true]
  · obtain ⟨sound, rfl⟩ := ofSeed_eq_ok_iff.1 success
    exact ⟨sound.size_groups_listed, sound.size_fields_listed, fun _ _ => sound.get?_groups_listed,
      fun _ _ => sound.field?_listed⟩
  · rw [ofSeed_eq_ok_iff, ofSeed_eq_ok_iff]
    constructor
    · rintro ⟨sound, rfl⟩
      have same := sound.listed_of_perm order.symm order'.symm
      exact ⟨sound.of_perm order.symm order'.symm, same.symm⟩
    · rintro ⟨sound, rfl⟩
      exact ⟨sound.of_perm order order', (sound.listed_of_perm order order').symm⟩

/-- Two groups with a field each. -/
def sampleSeed : Seed :=
  ⟨[⟨"g", "flags"⟩, ⟨"h", "review"⟩], [⟨"f", "h", none⟩, ⟨"e", "g", none⟩]⟩

/-- The file is accepted in any order.  A field that repeats an id for a group that is not listed is
refused for the id, and after a group that is repeated no field matters. -/
theorem sampleSeed_accepted_in_any_order :
    let turned : Seed := ⟨sampleSeed.groups.reverse, sampleSeed.fields.reverse⟩
    let faulty : Seed := ⟨[⟨"g", "flags"⟩], [⟨"f", "g", none⟩, ⟨"f", "ghost", none⟩]⟩
    let repeating : Seed := ⟨[⟨"g", "flags"⟩, ⟨"g", "review"⟩], [⟨"f", "ghost", none⟩]⟩
    (∃ definitions, ofSeed sampleSeed = .ok definitions ∧ ofSeed turned = .ok definitions ∧
      definitions.field? "f" = some ⟨"f", "h", none⟩ ∧ definitions.groups.size = 2) ∧
    ofSeed faulty = .error (.duplicateField "f") ∧
    ofSeed repeating = .error (.duplicateGroup "g") := by
  intro turned faulty repeating
  obtain ⟨accepted, contents, reordered, -⟩ := accepts_consistent_seeds sampleSeed
  obtain ⟨definitions, success⟩ := accepted.2 ⟨by decide, by decide, by decide⟩
  obtain ⟨groups, -, -, found⟩ := contents definitions success
  have order := reordered _ _ (List.reverse_perm _) (List.reverse_perm _) definitions
  refine ⟨⟨definitions, success, order.2 success, (found "f" _).2 ⟨?_, rfl⟩, groups⟩, ?_, ?_⟩
  · decide
  · refine ((accepts_consistent_seeds faulty).2.2.2 _).2 ?_
    exact @Seed.FirstFault.repeatedField faulty [⟨"f", "g", none⟩] [] ⟨"f", "ghost", none⟩ rfl
      ⟨by decide, by decide, by decide⟩ (by decide)
  · refine ((accepts_consistent_seeds repeating).2.2.2 _).2 ?_
    exact @Seed.FirstFault.repeatedGroup repeating [⟨"g", "flags"⟩] [] ⟨"g", "review"⟩ rfl
      ⟨by decide, by decide, by decide⟩ (by decide)

end Definitions

end PropertyGate
