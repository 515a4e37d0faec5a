import PropertyGate.Proofs.Patch.Declared

/-!
# Proofs/Definitions/Lasting — what is declared is declared for good

There is room for a declaration (`HasRoom`) if its id is new among its kind and, for a field, its
group is there.  Just then it succeeds, and is found from there on; otherwise nothing changes.  What
was declared earlier is declared later (`Extends`), so **every look-up that gave a declaration goes
on giving it**.  A patch whose fields are all declared is looked up and split as it was before, and
finds the same groups: **whatever else is declared afterwards, it is resolved in the same way**
(`WellFormed.resolve_of_extends`).
-/

namespace PropertyGate

namespace Definitions

variable {definitions later : Definitions} {declaration : Declaration} {handlers : HandlerRegistry}
  {config : PipelineConfig} {context : Context} {patch : Values}

/-! ## Declaring once -/

/-- **There is room for a declaration**: its id is new among its kind, and the group of a field is
there. -/
def HasRoom (definitions : Definitions) : Declaration → Prop
  | .group group => definitions.groups.get? group.id = none
  | .field field => definitions.field? field.id = none ∧
      ∃ owner, definitions.groups.get? field.groupId = some owner

/-- What was declared is found under its id. -/
def Finds (definitions : Definitions) : Declaration → Prop
  | .group group => definitions.lookupGroup group.id = .ok group
  | .field field => definitions.field? field.id = some field

/-- What comes of trying to declare something. -/
def attempt (definitions : Definitions) : Declaration → Except DeclarationError Definitions
  | .group group => definitions.declareGroup group
  | .field field => definitions.declareField field

theorem declare_eq_attempt (definitions : Definitions) (declaration : Declaration) :
    definitions.declare declaration =
      (definitions.attempt declaration).toOption.getD definitions := by
  cases declaration <;> rfl

theorem declare_of_attempt_eq_ok {declared : Definitions}
    (success : definitions.attempt declaration = .ok declared) :
    definitions.declare declaration = declared := by
  rw [declare_eq_attempt, success]
  rfl

theorem declare_of_attempt_eq_error {error : DeclarationError}
    (refused : definitions.attempt declaration = .error error) :
    definitions.declare declaration = definitions := by
  rw [declare_eq_attempt, refused]
  rfl

/-- **A declaration succeeds just if there is room for it.** -/
theorem exists_attempt_eq_ok_iff :
    (∃ declared, definitions.attempt declaration = .ok declared) ↔
      definitions.HasRoom declaration := by
  cases declaration with
  | group group =>
    simp only [attempt, declareGroup_eq_ok_iff, exists_and_left, exists_eq, and_true, HasRoom]
  | field field =>
    simp only [attempt, declareField_eq_ok_iff, exists_and_left, exists_eq, and_true, HasRoom,
      field?, TextMap.contains, Option.isSome_iff_exists]

/-- What was declared is found. -/
theorem finds_of_attempt_eq_ok {declared : Definitions}
    (success : definitions.attempt declaration = .ok declared) : declared.Finds declaration := by
  cases declaration with
  | group group =>
    obtain ⟨-, rfl⟩ := declareGroup_eq_ok_iff.1 success
    exact lookupGroup_eq_ok_iff.2 (definitions.groups.get?_insert_self group.id group)
  | field field =>
    obtain ⟨-, -, rfl⟩ := declareField_eq_ok_iff.1 success
    exact definitions.fields.get?_insert_self field.id field

/-! ## Looking up later -/

theorem extends_foldl_declare (definitions : Definitions) (declarations : List Declaration) :
    definitions.Extends (declarations.foldl declare definitions) := by
  induction declarations generalizing definitions with
  | nil => exact .refl definitions
  | cons declaration rest ih => exact (definitions.extends_declare declaration).trans (ih _)

/-- **Looking fields up answers those that are asked for and declared.** -/
theorem get?_lookupFields_eq_ite (fieldIds : List String) (fieldId : String) :
    (definitions.lookupFields fieldIds).get? fieldId =
      if fieldId ∈ fieldIds then definitions.field? fieldId else none := by
  split
  · exact get?_lookupFields ‹_›
  · rename_i absent
    rw [lookupFields, TextMap.get?_ofList]
    refine Option.eq_none_iff_forall_ne_some.2 fun field listed => ?_
    exact absent (mem_lookupFields.1 (Entries.mem_of_get? listed)).1

/-- Fields that were found are found later, whatever else is asked for. -/
theorem Extends.get?_lookupFields (grown : definitions.Extends later) {fieldIds : List String}
    {fieldId : String} {field : Field}
    (found : (definitions.lookupFields fieldIds).get? fieldId = some field) :
    (later.lookupFields fieldIds).get? fieldId = some field := by
  rw [get?_lookupFields_eq_ite] at found ⊢
  split at found
  · rw [if_pos ‹_›]
    exact grown.field found
  · cases found

theorem Extends.lookupGroup (grown : definitions.Extends later) {groupId : String} {group : Group}
    (found : definitions.lookupGroup groupId = .ok group) : later.lookupGroup groupId = .ok group :=
  lookupGroup_eq_ok_iff.2 (grown.group (lookupGroup_eq_ok_iff.1 found))

/-! ## Resolving later -/

/-- All fields of the patch are declared. -/
def Declares (definitions : Definitions) (patch : Values) : Prop :=
  ∀ fieldId ∈ patch.keys, ∃ field, definitions.field? fieldId = some field

theorem Extends.lookupFields_of_declares (grown : definitions.Extends later)
    (declares : definitions.Declares patch) :
    later.lookupFields patch.keys = definitions.lookupFields patch.keys := by
  refine TextMap.ext_get? fun fieldId => ?_
  rw [get?_lookupFields_eq_ite, get?_lookupFields_eq_ite]
  split
  · obtain ⟨field, found⟩ := declares fieldId ‹_›
    rw [found, grown.field found]
  · rfl

open Pipeline (Sized Owned Materialized)

theorem WellFormed.owned_of_declares (h : definitions.WellFormed)
    (declares : definitions.Declares patch) :
    ∀ fieldId ∈ patch.keys, ∃ owner,
      ownerOf (definitions.lookupFields patch.keys) fieldId = .ok owner := by
  intro fieldId mem
  obtain ⟨field, found⟩ := declares fieldId mem
  exact ⟨field.groupId, (ownerOf_lookupFields mem).trans
    (h.ownerOf_eq_ok_iff.2 ⟨field, found, rfl⟩)⟩

/-- **Later, the same groups are found for the same fields.** -/
theorem WellFormed.materialized_of_extends (h : definitions.WellFormed)
    (grown : definitions.Extends later) (declares : definitions.Declares patch)
    (sized : Sized (later.pipeline handlers config) patch) {groups : List Group}
    (found : Passes (definitions.pipeline handlers config).groupOf
      (owners (definitions.lookupFields patch.keys) patch) groups) :
    Materialized (later.pipeline handlers config) context patch
      (definitions.lookupFields patch.keys) groups where
  toSized := sized
  answer := congrArg Except.ok (grown.lookupFields_of_declares declares)
  owned := h.owned_of_declares declares
  found := by
    have still : ∀ groupId group,
        (definitions.pipeline handlers config).groupOf groupId = .ok group →
          (later.pipeline handlers config).groupOf groupId = .ok group := by
      intro groupId group known
      obtain ⟨answer, same⟩ := Pipeline.groupOf_eq_ok_iff.1 known
      exact Pipeline.groupOf_eq_ok_iff.2 ⟨grown.lookupGroup answer, same⟩
    rw [← List.map_id groups]
    exact found.transfer still

/-- **A patch whose fields are declared is resolved as before, whatever is declared besides**: the
same calls are made, they take as long, and the same comes of them. -/
theorem WellFormed.resolve_of_extends (h : definitions.WellFormed)
    (grown : definitions.Extends later) (declares : definitions.Declares patch) :
    (later.pipeline handlers config).resolve context patch =
      (definitions.pipeline handlers config).resolve context patch := by
  by_cases sized : Sized (definitions.pipeline handlers config) patch
  · have sizedLater : Sized (later.pipeline handlers config) patch :=
      ⟨sized.nonempty, sized.bounded⟩
    obtain ⟨groups, found⟩ :
        ∃ groups, Passes (definitions.pipeline handlers config).groupOf
          (owners (definitions.lookupFields patch.keys) patch) groups :=
      exists_passes fun _ owner => h.groupOf_eq_ok handlers config owner
    have before : Materialized (definitions.pipeline handlers config) context patch _ groups :=
      h.materialized_of_extends (.refl _) declares sized found
    have after : Materialized (later.pipeline handlers config) context patch _ groups :=
      h.materialized_of_extends grown declares sizedLater found
    rw [Pipeline.resolve_of_sized sized, Pipeline.resolve_of_sized sizedLater,
      Pipeline.prepare_of_materialized before, Pipeline.prepare_of_materialized after]
    rfl
  · -- Neither an empty patch nor one that is too large is looked up.
    rw [Pipeline.resolve, Pipeline.resolve]
    split
    · rfl
    · rename_i nonempty
      refine (if_pos ?_).trans (if_pos ?_).symm <;>
      · refine Nat.lt_of_not_le fun bounded => sized ⟨fun none => ?_, ?_⟩
        · exact nonempty (Pipeline.keys_eq_nil_iff.1 none)
        · exact (Pipeline.length_keys patch).symm ▸ bounded

/-! ## Declarations of a run -/

/-- **Declarations are well-formed and are never revised.**  Whatever was declared, in whatever
order: everything is filed under its own id and the group of every field is declared; a further
declaration succeeds just if there is room for it, is found then, and changes nothing otherwise;
looking fields up answers those that are asked for and declared.  Whatever is declared later, every
look-up that gave a declaration gives it still, and a patch whose fields were declared is resolved
as it was. -/
theorem declared_for_good (earlier more : List Declaration) :
    let definitions := ofDeclarations earlier
    let grown := ofDeclarations (earlier ++ more)
    definitions.WellFormed ∧
    (∀ declaration : Declaration,
      ((∃ declared, definitions.attempt declaration = .ok declared) ↔
        definitions.HasRoom declaration) ∧
      (∀ declared, definitions.attempt declaration = .ok declared →
        definitions.declare declaration = declared ∧ declared.Finds declaration) ∧
      (∀ error, definitions.attempt declaration = .error error →
        definitions.declare declaration = definitions)) ∧
    (∀ fieldIds fieldId, (definitions.lookupFields fieldIds).get? fieldId =
      if fieldId ∈ fieldIds then definitions.field? fieldId else none) ∧
    (∀ fieldId field, definitions.field? fieldId = some field →
      grown.field? fieldId = some field) ∧
    (∀ fieldIds fieldId field, (definitions.lookupFields fieldIds).get? fieldId = some field →
      (grown.lookupFields fieldIds).get? fieldId = some field) ∧
    (∀ groupId group, definitions.lookupGroup groupId = .ok group →
      grown.lookupGroup groupId = .ok group) ∧
    ∀ handlers config context patch, definitions.Declares patch →
      (grown.pipeline handlers config).resolve context patch =
        (definitions.pipeline handlers config).resolve context patch := by
  intro definitions grown
  have wellFormed : definitions.WellFormed := wellFormed_ofDeclarations earlier
  have growth : definitions.Extends grown := by
    change definitions.Extends ((earlier ++ more).foldl declare empty)
    rw [List.foldl_append]
    exact extends_foldl_declare _ more
  refine ⟨wellFormed, fun declaration => ⟨exists_attempt_eq_ok_iff, fun declared success => ?_,
    fun error refused => declare_of_attempt_eq_error refused⟩, get?_lookupFields_eq_ite,
    fun _ _ => growth.field, fun _ _ _ => growth.get?_lookupFields, fun _ _ => growth.lookupGroup,
    fun _ _ _ _ declares => wellFormed.resolve_of_extends growth declares⟩
  exact ⟨declare_of_attempt_eq_ok success, finds_of_attempt_eq_ok success⟩

/-- A group with a field, and what is declared afterwards: both ids once more, which is refused, and
another group with a field of its own. -/
theorem declared_for_good_beside_others :
    let earlier : List Declaration :=
      [.group ⟨"g", contentFlaggingGroup⟩, .field ⟨"f", "g", none⟩]
    let more : List Declaration :=
      [.group ⟨"g", "others"⟩, .group ⟨"h", "others"⟩, .field ⟨"f", "h", none⟩,
        .field ⟨"i", "h", none⟩]
    let definitions := ofDeclarations earlier
    let grown := ofDeclarations (earlier ++ more)
    let patch : Values := .ofList [("f", .bool true)]
    (∃ error, definitions.attempt (.group ⟨"g", "others"⟩) = .error error) ∧
      definitions.Declares patch ∧ definitions.field? "i" = none ∧
      grown.field? "i" = some ⟨"i", "h", none⟩ ∧
      grown.lookupGroup "g" = .ok ⟨"g", contentFlaggingGroup⟩ ∧
      (grown.pipeline .standard {}).resolve ⟨"p", "u"⟩ patch =
        (definitions.pipeline .standard {}).resolve ⟨"p", "u"⟩ patch := by
  intro earlier more definitions grown patch
  obtain ⟨-, -, -, -, -, group, resolved⟩ := declared_for_good earlier more
  have declares : definitions.Declares patch := by
    intro fieldId mem
    obtain rfl : fieldId = "f" := List.mem_singleton.1 mem
    exact ⟨⟨"f", "g", none⟩, rfl⟩
  exact ⟨⟨_, rfl⟩, declares, rfl, rfl, group "g" _ rfl, resolved .standard {} _ patch declares⟩

end Definitions

end PropertyGate
