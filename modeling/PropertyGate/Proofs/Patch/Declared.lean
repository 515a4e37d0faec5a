import PropertyGate.Proofs.Definitions.WellFormed
import PropertyGate.Proofs.Patch.Resolution
import PropertyGate.Store.Lemmas

/-!
# Proofs/Patch/Declared — patches over what is declared

One and the same definitions answer for fields and groups, and check what is stored.  Then looking
up never fails by itself (`not_resolutionFailed`): whatever is declared is found, under its own id.
And **what is approved can be stored unless a handler oversteps** (`commit_eq_error_iff`): unless it
returns a field that is not declared for the group it was asked about.
-/

namespace PropertyGate

namespace Definitions

/-- The pipeline over what is declared. -/
def pipeline (definitions : Definitions) (handlers : HandlerRegistry) (config : PipelineConfig) :
    Pipeline :=
  ⟨definitions.registries, handlers, config⟩

/-- **The handler of a group returned values**: the group owns a part of the patch, and the handler
that is registered under its name was asked about that part and approved the values. -/
structure Returns (definitions : Definitions) (handlers : HandlerRegistry) (config : PipelineConfig)
    (context : Context) (patch : Values) (group : Group) (values : Values) : Prop where
  declared : definitions.groups.get? group.id = some group
  concerned : (definitions.portion group.id patch).isEmpty = false
  answer : ∃ handler, handlers.get? group.name = some handler ∧
    .authorize context group.name (definitions.portion group.id patch) ∈
      ((definitions.pipeline handlers config).resolve context patch).calls ∧
    (handler context group.name (definitions.portion group.id patch)).verdict = .approved values

variable {definitions : Definitions} {handlers : HandlerRegistry} {config : PipelineConfig}
  {context : Context} {patch : Values} {approved : PatchResult}

open Pipeline (Owned Answered)

/-! ## Looking up -/

theorem fields_eq_of_answered {fields : TextMap Field}
    (h : Answered (definitions.pipeline handlers config) context patch fields) :
    definitions.lookupFields patch.keys = fields := Except.ok.inj h.answer

/-- A field without an owner is one that is not declared. -/
theorem WellFormed.ownerOf_eq_error (h : definitions.WellFormed) {fieldId : String}
    {error : PatchError} (hmem : fieldId ∈ patch.keys)
    (fail : ownerOf (definitions.lookupFields patch.keys) fieldId = .error error) :
    error = .unknownField fieldId := by
  rw [ownerOf_lookupFields hmem, h.ownerOf_fields] at fail
  cases found : definitions.field? fieldId with
  | none => exact (Except.error.inj (fail.symm.trans (by rw [found]))).symm ▸ rfl
  | some field =>
    rw [found] at fail
    cases fail

/-- Every owner of declared fields is a group that answers to its id. -/
theorem WellFormed.groupOf_eq_ok (h : definitions.WellFormed) (handlers : HandlerRegistry)
    (config : PipelineConfig) {groupId : String}
    (owner : groupId ∈ owners (definitions.lookupFields patch.keys) patch) :
    ∃ group, (definitions.pipeline handlers config).groupOf groupId = .ok group := by
  obtain ⟨fieldId, hmem, howner⟩ := mem_owners_iff.1 owner
  rw [ownerOf_lookupFields hmem, h.ownerOf_eq_ok_iff] at howner
  obtain ⟨field, found, rfl⟩ := howner
  obtain ⟨group, known, same⟩ := h.exists_group found
  exact ⟨group, Pipeline.groupOf_eq_ok_iff.2 ⟨lookupGroup_eq_ok_iff.2 known, same⟩⟩

/-- **A group that is found later was declared when its field was.** -/
theorem WellFormed.groupOf_of_extends {later : Definitions} (h : definitions.WellFormed)
    (grown : definitions.Extends later) {groupId : String} {group : Group}
    (owner : groupId ∈ owners (definitions.lookupFields patch.keys) patch)
    (found : (later.pipeline handlers config).groupOf groupId = .ok group) :
    (definitions.pipeline handlers config).groupOf groupId = .ok group := by
  obtain ⟨declared, earlier⟩ := h.groupOf_eq_ok handlers config owner
  have known := grown.group (lookupGroup_eq_ok_iff.1 (Pipeline.groupOf_eq_ok_iff.1 earlier).1)
  have known' := lookupGroup_eq_ok_iff.1 (Pipeline.groupOf_eq_ok_iff.1 found).1
  rw [earlier, Option.some.inj (known.symm.trans known')]

/-- **Looking up what is declared never fails by itself.** -/
theorem WellFormed.not_resolutionFailed (h : definitions.WellFormed) {error : PatchError}
    (fail : ((definitions.pipeline handlers config).resolve context patch).outcome =
      .error error) :
    (∀ cause, error ≠ .fieldResolutionFailed cause) ∧
      ∀ groupId cause, error ≠ .groupResolutionFailed groupId cause := by
  have rules := Pipeline.resolves_resolve (definitions.pipeline handlers config) context patch
  rw [fail] at rules
  generalize ((definitions.pipeline handlers config).resolve context patch).calls = calls at rules
  have refused : ∀ {pending : Pending}, pending.Fails context error →
      (∀ cause, error ≠ .fieldResolutionFailed cause) ∧
        ∀ groupId cause, error ≠ .groupResolutionFailed groupId cause := by
    rintro pending (⟨rejection, -⟩ | ⟨text, -⟩)
    · simp
    · simp [PatchError.ofCrash]
  cases rules with
  | tooLarge => simp
  | unanswered _ noAnswer => cases noAnswer
  | ownerless answered stop =>
    obtain rfl := fields_eq_of_answered answered
    rw [h.ownerOf_eq_error stop.mem stop.check_failed]
    simp
  | groupless owned stop =>
    obtain rfl := fields_eq_of_answered owned.toAnswered
    obtain ⟨group, found⟩ := h.groupOf_eq_ok handlers config stop.mem
    exact nomatch found.symm.trans stop.check_failed
  | unguarded => simp
  | refusedInTurn _ _ first => exact refused first.fails
  | refusedTogether _ _ first => exact refused first.fails

/-! ## Storing -/

/-- **The entries of an approved patch are what the handlers returned**, each filed under the group
that its handler was asked about. -/
theorem mem_toList_iff_returns
    (resolved : ((definitions.pipeline handlers config).resolve context patch).outcome =
      .ok approved) (key : String) (entry : GroupPatch) :
    (key, entry) ∈ approved.toList ↔
      key = entry.group.id ∧
        definitions.Returns handlers config context patch entry.group entry.values := by
  constructor
  · intro hentry
    obtain ⟨fields, handler, owned, owner, known, same, registered, asked, verdict⟩ :=
      Pipeline.exists_approval resolved hentry
    obtain rfl := fields_eq_of_answered owned.toAnswered
    rw [share_lookupFields key owned.owned, ← same] at asked verdict
    refine ⟨same.symm, ?_, ?_, handler, registered, asked, verdict⟩
    · rw [same]
      exact lookupGroup_eq_ok_iff.1 known
    · rw [same, ← share_lookupFields key owned.owned]
      exact isEmpty_share_eq_false_iff.2 owner
  · rintro ⟨rfl, declared, concerned, handler, registered, -, verdict⟩
    obtain ⟨group, values⟩ := entry
    -- A patch that somebody is asked about is not empty, so its fields have owners.
    obtain ⟨fields, owned⟩ : ∃ fields,
        Owned (definitions.pipeline handlers config) context patch fields := by
      have rules := Pipeline.resolves_resolve (definitions.pipeline handlers config) context patch
      rw [resolved] at rules
      generalize ((definitions.pipeline handlers config).resolve context patch).calls = calls
        at rules
      cases rules with
      | empty none =>
        have nothing : patch = .empty := TextMap.ext_get? fun fieldId => by
          rw [TextMap.get?, List.map_eq_nil_iff.1 none]
          rfl
        rw [nothing] at concerned
        cases concerned
      | approved h => exact ⟨_, h.toOwned⟩
    obtain rfl := fields_eq_of_answered owned.toAnswered
    rw [← share_lookupFields group.id owned.owned] at concerned verdict
    obtain ⟨entry, hentry⟩ := Pipeline.exists_entry_of_owner resolved owned
      (isEmpty_share_eq_false_iff.1 concerned)
    obtain ⟨fields, handler', owned', -, known, -, registered', -, verdict'⟩ :=
      Pipeline.exists_approval resolved hentry
    obtain rfl := fields_eq_of_answered owned'.toAnswered
    obtain ⟨group', values'⟩ := entry
    obtain rfl : group' = group :=
      Option.some.inj ((lookupGroup_eq_ok_iff.1 known).symm.trans declared)
    obtain rfl : handler' = handler := Option.some.inj (registered'.symm.trans registered)
    obtain rfl : values' = values := Verdict.approved.inj (verdict'.symm.trans verdict)
    exact hentry

/-- The field is not declared for the group: not at all, or for another one. -/
def Oversteps (definitions : Definitions) (group : Group) (fieldId : String) : Prop :=
  definitions.field? fieldId = none ∨
    ∃ field, definitions.field? fieldId = some field ∧ field.groupId ≠ group.id

theorem fieldError?_ne_none_iff {group : Group} {fieldId : String} :
    Store.fieldError? definitions group.id fieldId ≠ none ↔
      definitions.Oversteps group fieldId := by
  rw [Store.fieldError?, Oversteps]
  cases definitions.field? fieldId with
  | none => simp
  | some field => by_cases owner : field.groupId = group.id <;> simp [owner]

/-- The part of a patch that is a group's has only fields that are declared for the group. -/
theorem not_oversteps_of_mem_portion {group : Group} {fieldId : String}
    (h : fieldId ∈ (definitions.portion group.id patch).keys) :
    ¬ definitions.Oversteps group fieldId := by
  obtain ⟨entry, hentry, rfl⟩ := List.mem_map.1 h
  have declared : ((definitions.field? entry.1).any fun field => field.groupId == group.id) = true :=
    (List.mem_filter.1 hentry).2
  rintro (none | ⟨field, found, other⟩)
  · rw [none] at declared
    cases declared
  · rw [found, Option.any_some, beq_iff_eq] at declared
    exact other declared

/-- **What is approved can be stored unless a handler oversteps.** -/
theorem commit_eq_error_iff
    (resolved : ((definitions.pipeline handlers config).resolve context patch).outcome =
      .ok approved) (store : Store) (target : String) :
    (∃ error, store.commit definitions target approved = .error error) ↔
      ∃ group returned fieldId,
        definitions.Returns handlers config context patch group returned ∧
          fieldId ∈ returned.keys ∧ definitions.Oversteps group fieldId := by
  have failing : (∃ error, store.commit definitions target approved = .error error) ↔
      Store.patchError? definitions approved ≠ none := by
    rw [Store.commit]
    cases Store.patchError? definitions approved with
    | none => by_cases nothing : approved.fieldCount = 0 <;> simp [nothing]
    | some error => simp
  rw [failing, ne_eq, Store.patchError?_eq_none_iff]
  push Not
  constructor
  · rintro ⟨⟨key, entry⟩, hentry, fieldId, hmem, fault⟩
    obtain ⟨rfl, returns⟩ := (mem_toList_iff_returns resolved _ _).1 hentry
    exact ⟨entry.group, entry.values, fieldId, returns, hmem, fieldError?_ne_none_iff.1 fault⟩
  · rintro ⟨group, returned, fieldId, returns, hmem, overstep⟩
    exact ⟨(group.id, ⟨group, returned⟩), (mem_toList_iff_returns resolved _ _).2 ⟨rfl, returns⟩,
      fieldId, hmem, fieldError?_ne_none_iff.2 overstep⟩

end Definitions

end PropertyGate
