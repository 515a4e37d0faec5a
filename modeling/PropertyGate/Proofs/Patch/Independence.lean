import Mathlib.Data.List.Perm.Subperm
import PropertyGate.Policy.Rule
import PropertyGate.Proofs.Patch.Declared

/-!
# Proofs/Patch/Independence — what is decided for one group stays with that group

Resolving a patch succeeds exactly when everything is ready for its handlers and every owner is
approved, and the entry of a group is what becomes of that group alone
(`Definitions.exists_resolve_eq_ok_iff`); what a handler is shown is the share of its group
(`Definitions.authorize_mem_calls_iff`).  Laying patches over each other that have no owner in
common changes no share.  Hence **groups are authorized independently of each other**
(`Definitions.resolve_overlay`): the union of the patches is approved exactly when both are, as the
disjoint union of what is approved for each, and no handler can tell the difference.
-/

namespace PropertyGate

/-! ## Patches laid over each other -/

section Overlay

variable {fields : TextMap Field} {first second : Values} {groupId fieldId : String}

theorem mem_keys_iff {patch : Values} : fieldId ∈ patch.keys ↔ patch.get? fieldId ≠ none := by
  rw [← TextMap.contains_iff_mem_keys, TextMap.contains, Option.isSome_iff_ne_none]

theorem mem_keys_overlay_iff :
    fieldId ∈ (first.overlay second).keys ↔ fieldId ∈ first.keys ∨ fieldId ∈ second.keys := by
  rw [mem_keys_iff, mem_keys_iff, mem_keys_iff, TextMap.get?_overlay]
  cases second.get? fieldId <;> simp

theorem mem_owners_overlay_iff :
    groupId ∈ owners fields (first.overlay second) ↔
      groupId ∈ owners fields first ∨ groupId ∈ owners fields second := by
  simp only [mem_owners_iff, mem_keys_overlay_iff, or_and_right, exists_or]

theorem owners_of_keys_eq_nil {patch : Values} (h : patch.keys = []) : owners fields patch = [] := by
  refine List.eq_nil_iff_forall_not_mem.2 fun groupId owner => ?_
  obtain ⟨fieldId, hmem, -⟩ := mem_owners_iff.1 owner
  rw [h] at hmem
  cases hmem

/-- Only the fields that a group owns matter for its share. -/
theorem share_congr {patch patch' : Values}
    (same : ∀ fieldId, ownerOf fields fieldId = .ok groupId →
      patch.get? fieldId = patch'.get? fieldId) :
    share fields patch groupId = share fields patch' groupId := by
  refine TextMap.ext_get? fun fieldId => ?_
  rw [get?_share, get?_share]
  by_cases owner : owns fields groupId fieldId
  · rw [if_pos owner, if_pos owner, same fieldId (owns_iff.1 owner)]
  · rw [if_neg owner, if_neg owner]

/-- A patch has nothing for a group that is none of its owners. -/
theorem get?_of_not_mem_owners {patch : Values} (h : groupId ∉ owners fields patch)
    (owner : ownerOf fields fieldId = .ok groupId) : patch.get? fieldId = none := by
  by_contra submitted
  exact h (mem_owners_iff.2 ⟨fieldId, mem_keys_iff.2 submitted, owner⟩)

/-- **A share stays as it is under a patch with other owners**, ... -/
theorem share_overlay_of_not_mem_upper (h : groupId ∉ owners fields second) :
    share fields (first.overlay second) groupId = share fields first groupId := by
  refine share_congr fun fieldId owner => ?_
  rw [TextMap.get?_overlay, get?_of_not_mem_owners h owner, Option.none_or]

/-- ... and over one. -/
theorem share_overlay_of_not_mem_lower (h : groupId ∉ owners fields first) :
    share fields (first.overlay second) groupId = share fields second groupId := by
  refine share_congr fun fieldId owner => ?_
  rw [TextMap.get?_overlay, get?_of_not_mem_owners h owner, Option.or_none]

theorem size_le_of_keys_subset {patch patch' : Values} (h : patch.keys ⊆ patch'.keys) :
    patch.size ≤ patch'.size := by
  have shorter := (List.subperm_of_subset patch.nodup_keys h).length_le
  rwa [Pipeline.length_keys, Pipeline.length_keys] at shorter

end Overlay

/-! ## One group at a time -/

namespace Pipeline

variable {pipeline : Pipeline} {context : Context} {fields : TextMap Field} {patch : Values}
  {groupId : String} {pending : List Pending}

/-- What awaits the handler of one group, or why the group has none. -/
def pendingOf (pipeline : Pipeline) (fields : TextMap Field) (patch : Values) (groupId : String) :
    Except PatchError Pending :=
  pipeline.groupOf groupId >>= (pipeline.assign <| assigned fields patch ·)

/-- **What becomes of one group**, whatever becomes of others. -/
def approvalOf (pipeline : Pipeline) (fields : TextMap Field) (patch : Values) (context : Context)
    (groupId : String) : Except PatchError GroupPatch :=
  pipeline.pendingOf fields patch groupId >>= (·.outcome context)

/-- **Only the share of a group matters for it.** -/
theorem pendingOf_congr {patch' : Values}
    (same : share fields patch groupId = share fields patch' groupId) :
    pipeline.pendingOf fields patch groupId = pipeline.pendingOf fields patch' groupId := by
  rw [pendingOf, pendingOf]
  cases found : pipeline.groupOf groupId with
  | error error => rfl
  | ok group =>
    change pipeline.assign _ = pipeline.assign _
    rw [assigned, assigned, (groupOf_eq_ok_iff.1 found).2, same]

theorem approvalOf_congr {patch' : Values}
    (same : share fields patch groupId = share fields patch' groupId) :
    pipeline.approvalOf fields patch context groupId =
      pipeline.approvalOf fields patch' context groupId := by
  rw [approvalOf, approvalOf, pendingOf_congr same]

theorem id_of_pendingOf {one : Pending} (h : pipeline.pendingOf fields patch groupId = .ok one) :
    one.patch.group.id = groupId := by
  rw [pendingOf] at h
  cases found : pipeline.groupOf groupId with
  | error error =>
    rw [found] at h
    cases h
  | ok group =>
    rw [found] at h
    rw [(assign_eq_ok_iff.1 h).1]
    exact (groupOf_eq_ok_iff.1 found).2

theorem approvalOf_of_pendingOf {one : Pending}
    (h : pipeline.pendingOf fields patch groupId = .ok one) :
    pipeline.approvalOf fields patch context groupId = one.outcome context := by
  rw [approvalOf, h]
  rfl

theorem id_of_approvalOf {entry : GroupPatch}
    (h : pipeline.approvalOf fields patch context groupId = .ok entry) :
    entry.group.id = groupId := by
  cases found : pipeline.pendingOf fields patch groupId with
  | error error =>
    rw [approvalOf, found] at h
    cases h
  | ok one =>
    rw [approvalOf_of_pendingOf found] at h
    rw [← Pending.group_of_outcome_eq_ok h, id_of_pendingOf found]

/-- Groups that await their handlers are those that were asked for. -/
theorem ids_of_pendingOf {groupIds : List String}
    (h : Passes (pipeline.pendingOf fields patch) groupIds pending) :
    pending.map (·.patch.group.id) = groupIds := by
  have same := h.map_eq (f := id) fun _ _ pass => (id_of_pendingOf pass).symm
  rw [← same, List.map_id]

/-- All is ready when it is for every owner by itself. -/
theorem exists_prepared_iff :
    (∃ groups, Prepared pipeline context patch fields groups pending) ↔
      Owned pipeline context patch fields ∧
        Passes (pipeline.pendingOf fields patch) (owners fields patch) pending := by
  constructor
  · rintro ⟨groups, h⟩
    exact ⟨h.toOwned, passes_bind_iff.2 ⟨groups, h.found, passes_map_iff.1 h.guarded⟩⟩
  · rintro ⟨owned, ready⟩
    obtain ⟨groups, found, guarded⟩ := passes_bind_iff.1 ready
    exact ⟨groups, ⟨owned, found⟩, passes_map_iff.2 guarded⟩

end Pipeline

namespace Definitions

variable {definitions : Definitions} {handlers : HandlerRegistry} {config : PipelineConfig}
  {context : Context} {patch first second : Values}

open Pipeline (Owned Prepared)

/-! ## What is declared is all that is looked up -/

/-- A share does not depend on which other declarations were looked up. -/
theorem share_lookupFields_keys (groupId : String) :
    share (definitions.lookupFields patch.keys) patch groupId =
      share definitions.fields patch groupId := by
  refine TextMap.ext_get? fun fieldId => ?_
  rw [get?_share, get?_share]
  by_cases submitted : fieldId ∈ patch.keys
  · rw [owns, owns, ownerOf_lookupFields submitted]
  · rw [mem_keys_iff, ne_eq, not_not] at submitted
    rw [submitted, ite_self, ite_self]

theorem owners_lookupFields_keys :
    owners (definitions.lookupFields patch.keys) patch = owners definitions.fields patch := by
  rw [owners, owners]
  refine congrArg (fun ids : List String => ids.dedup.mergeSort (· ≤ ·)) ?_
  exact List.filterMap_congr fun fieldId hmem => by rw [ownerOf_lookupFields hmem]

/-- **All is ready for the handlers of a patch**, be it empty or not. -/
structure Ready (definitions : Definitions) (handlers : HandlerRegistry) (config : PipelineConfig)
    (patch : Values) : Prop where
  bounded : patch.size ≤ config.maxFields
  owned : ∀ fieldId ∈ patch.keys, ∃ owner, ownerOf definitions.fields fieldId = .ok owner
  guarded : ∀ groupId ∈ owners definitions.fields patch, ∃ one,
    (definitions.pipeline handlers config).pendingOf definitions.fields patch groupId = .ok one

theorem owned_lookupFields_iff :
    Owned (definitions.pipeline handlers config) context patch
        (definitions.lookupFields patch.keys) ↔
      patch.keys ≠ [] ∧ patch.size ≤ config.maxFields ∧
        ∀ fieldId ∈ patch.keys, ∃ owner, ownerOf definitions.fields fieldId = .ok owner := by
  constructor
  · intro h
    refine ⟨h.nonempty, Pipeline.length_keys patch ▸ h.bounded, fun fieldId hmem => ?_⟩
    rw [← ownerOf_lookupFields hmem]
    exact h.owned fieldId hmem
  · rintro ⟨nonempty, bounded, owned⟩
    refine ⟨⟨⟨nonempty, Pipeline.length_keys patch ▸ bounded⟩, rfl⟩, fun fieldId hmem => ?_⟩
    rw [ownerOf_lookupFields hmem]
    exact owned fieldId hmem

theorem pendingOf_lookupFields_keys :
    (definitions.pipeline handlers config).pendingOf (definitions.lookupFields patch.keys) patch =
      (definitions.pipeline handlers config).pendingOf definitions.fields patch := by
  funext groupId
  simp only [Pipeline.pendingOf, Pipeline.assigned, share_lookupFields_keys]

theorem ready_of_prepared {fields : TextMap Field} {groups : List Group} {pending : List Pending}
    (h : Prepared (definitions.pipeline handlers config) context patch fields groups pending) :
    definitions.Ready handlers config patch := by
  obtain rfl := fields_eq_of_answered h.toAnswered
  obtain ⟨owned, ready⟩ := Pipeline.exists_prepared_iff.1 ⟨groups, h⟩
  rw [pendingOf_lookupFields_keys, owners_lookupFields_keys] at ready
  obtain ⟨-, bounded, owned⟩ := owned_lookupFields_iff.1 owned
  exact ⟨bounded, owned, fun groupId hmem => (ready.exists_of_mem hmem).imp fun _ found => found.2⟩

/-! ## How a patch is resolved that is ready -/

/-- **Where all is ready, the handlers decide**, and only they are asked besides the registries. -/
theorem Ready.resolve (h : definitions.Ready handlers config patch) (context : Context) :
    ∃ pending lookups,
      Passes ((definitions.pipeline handlers config).pendingOf definitions.fields patch)
        (owners definitions.fields patch) pending ∧
      (∀ context groupName values, .authorize context groupName values ∉ lookups) ∧
      ((definitions.pipeline handlers config).resolve context patch).calls =
        lookups ++ (dispatch config.dispatch context pending).calls ∧
      ((definitions.pipeline handlers config).resolve context patch).outcome =
        (dispatch config.dispatch context pending).outcome := by
  by_cases nonempty : patch.keys = []
  · have nothing : owners definitions.fields patch = [] := owners_of_keys_eq_nil nonempty
    have distinct : (([] : List Pending).map (·.patch.group.id)).Nodup := .nil
    have rules : Pipeline.Resolves (definitions.pipeline handlers config) context patch [] _ :=
      .empty nonempty
    obtain ⟨calls, outcome⟩ := rules.sound
    refine ⟨[], [], nothing ▸ .nil, fun _ _ _ => List.not_mem_nil, ?_, ?_⟩
    · exact calls.trans (dispatch_of_passes distinct .nil config.dispatch).1.symm
    · exact outcome.trans (dispatch_of_passes distinct .nil config.dispatch).2.symm
  · obtain ⟨pending, ready⟩ := exists_passes h.guarded
    have owned : Owned (definitions.pipeline handlers config) context patch
        (definitions.lookupFields patch.keys) :=
      owned_lookupFields_iff.2 ⟨nonempty, h.bounded, h.owned⟩
    have ready' := ready
    rw [← pendingOf_lookupFields_keys, ← owners_lookupFields_keys] at ready'
    obtain ⟨groups, prepared⟩ := Pipeline.exists_prepared_iff.2 ⟨owned, ready'⟩
    obtain ⟨calls, outcome⟩ := Pipeline.resolve_of_prepared prepared
    exact ⟨pending, _, ready, fun _ _ _ => by simp [Pipeline.preparation, Pipeline.fieldCall],
      calls, outcome⟩

/-- Where not all is ready, a patch is refused, and no handler is asked. -/
theorem refused_of_not_ready (h : ¬ definitions.Ready handlers config patch) (context : Context) :
    (∃ error, ((definitions.pipeline handlers config).resolve context patch).outcome =
        .error error) ∧
      ∀ context' groupName values, .authorize context' groupName values ∉
        ((definitions.pipeline handlers config).resolve context patch).calls := by
  have rules := Pipeline.resolves_resolve (definitions.pipeline handlers config) context patch
  generalize ((definitions.pipeline handlers config).resolve context patch).calls = calls,
    ((definitions.pipeline handlers config).resolve context patch).outcome = outcome at rules ⊢
  cases rules with
  | empty none =>
    refine absurd ⟨?_, ?_, ?_⟩ h
    · rw [← Pipeline.length_keys, none]
      exact Nat.zero_le _
    · rw [none]
      exact fun _ => (nomatch ·)
    · rw [owners_of_keys_eq_nil none]
      exact fun _ => (nomatch ·)
  | tooLarge => exact ⟨⟨_, rfl⟩, by simp⟩
  | unanswered => exact ⟨⟨_, rfl⟩, by simp [Pipeline.fieldCall]⟩
  | ownerless => exact ⟨⟨_, rfl⟩, by simp [Pipeline.fieldCall]⟩
  | groupless => exact ⟨⟨_, rfl⟩, by simp [Pipeline.preparation, Pipeline.fieldCall]⟩
  | unguarded => exact ⟨⟨_, rfl⟩, by simp [Pipeline.preparation, Pipeline.fieldCall]⟩
  | approved prepared => exact absurd (ready_of_prepared prepared) h
  | refusedInTurn prepared => exact absurd (ready_of_prepared prepared) h
  | refusedTogether prepared => exact absurd (ready_of_prepared prepared) h

/-- **A patch is approved when all is ready for it and every owner is approved.** -/
theorem exists_resolve_eq_ok_iff :
    (∃ result, ((definitions.pipeline handlers config).resolve context patch).outcome =
        .ok result) ↔
      definitions.Ready handlers config patch ∧
      ∀ groupId ∈ owners definitions.fields patch, ∃ entry,
        (definitions.pipeline handlers config).approvalOf definitions.fields patch context groupId =
          .ok entry := by
  by_cases ready : definitions.Ready handlers config patch
  swap
  · obtain ⟨⟨error, refused⟩, -⟩ := refused_of_not_ready ready context
    simp [refused, ready]
  obtain ⟨pending, -, awaiting, -, -, outcome⟩ := ready.resolve context
  have distinct : (pending.map (·.patch.group.id)).Nodup :=
    Pipeline.ids_of_pendingOf awaiting ▸ nodup_owners _ _
  simp only [outcome, dispatch_eq_ok_iff distinct]
  constructor
  · rintro ⟨-, patches, approvals, -⟩
    have one_by_one := passes_bind_iff.2 ⟨pending, awaiting, approvals⟩
    exact ⟨ready, fun groupId owner => (one_by_one.exists_of_mem owner).imp fun _ found => found.2⟩
  · rintro ⟨-, approved⟩
    obtain ⟨patches, one_by_one⟩ := exists_passes approved
    obtain ⟨pending', awaiting', approvals⟩ := passes_bind_iff.1 one_by_one
    obtain rfl := awaiting'.values_eq awaiting
    exact ⟨_, patches, approvals, rfl⟩

/-- **What is approved, group by group**: the entry of an owner is what becomes of it. -/
theorem get?_of_resolve_eq_ok {result : PatchResult}
    (h : ((definitions.pipeline handlers config).resolve context patch).outcome = .ok result)
    (groupId : String) (entry : GroupPatch) :
    result.get? groupId = some entry ↔
      groupId ∈ owners definitions.fields patch ∧
        (definitions.pipeline handlers config).approvalOf definitions.fields patch context groupId =
          .ok entry := by
  obtain ⟨ready, -⟩ := exists_resolve_eq_ok_iff.1 ⟨result, h⟩
  obtain ⟨pending, -, awaiting, -, -, outcome⟩ := ready.resolve context
  have distinct : (pending.map (·.patch.group.id)).Nodup :=
    Pipeline.ids_of_pendingOf awaiting ▸ nodup_owners _ _
  obtain ⟨patches, approvals, rfl⟩ := (dispatch_eq_ok_iff distinct).1 (outcome.symm.trans h)
  have one_by_one := passes_bind_iff.2 ⟨pending, awaiting, approvals⟩
  have ids : patches.map (·.group.id) = owners definitions.fields patch := by
    have same := one_by_one.map_eq (f := id) fun _ _ pass => (Pipeline.id_of_approvalOf pass).symm
    rw [← same, List.map_id]
  have listed := PatchResult.toList_collect (ids ▸ pairwise_owners definitions.fields patch)
  have kept : (PatchResult.collect patches).get? groupId = some entry ↔
      (groupId, entry) ∈ (PatchResult.collect patches).toList := TextMap.mem_entries_iff.symm
  rw [kept, listed, List.mem_map]
  constructor
  · rintro ⟨found, hmem, filed⟩
    obtain ⟨rfl, rfl⟩ := Prod.mk.inj filed
    obtain ⟨groupId, owner, approved⟩ := one_by_one.exists_of_mem_values hmem
    obtain rfl := Pipeline.id_of_approvalOf approved
    exact ⟨owner, approved⟩
  · rintro ⟨owner, approved⟩
    obtain ⟨found, hmem, approved'⟩ := one_by_one.exists_of_mem owner
    obtain rfl := Except.ok.inj (approved'.symm.trans approved)
    exact ⟨found, hmem, Prod.ext (Pipeline.id_of_approvalOf approved) rfl⟩

/-- **Whom the handlers are asked about**: all is ready, and each is asked about the share of a group
— in sequence, once the groups before it are approved. -/
theorem authorize_mem_calls_iff {context' : Context} {groupName : String} {values : Values} :
    .authorize context' groupName values ∈
        ((definitions.pipeline handlers config).resolve context patch).calls ↔
      definitions.Ready handlers config patch ∧
      ∃ groupId ∈ owners definitions.fields patch, ∃ one,
        (definitions.pipeline handlers config).pendingOf definitions.fields patch groupId =
            .ok one ∧
          one.call context = .authorize context' groupName values ∧
          (config.dispatch = .sequential → ∀ earlier ∈ owners definitions.fields patch,
            earlier < groupId → ∃ entry,
              (definitions.pipeline handlers config).approvalOf definitions.fields patch context
                earlier = .ok entry) := by
  by_cases ready : definitions.Ready handlers config patch
  swap
  · simp [ready, (refused_of_not_ready ready context).2]
  obtain ⟨pending, lookups, awaiting, none, calls, -⟩ := ready.resolve context
  have ids := Pipeline.ids_of_pendingOf awaiting
  have ascending : (pending.map (·.patch.group.id)).Pairwise (· < ·) := ids ▸ pairwise_owners _ _
  have before {groupId : String} : (∀ earlier ∈ pending, earlier.patch.group.id < groupId →
        ∃ entry, earlier.outcome context = .ok entry) ↔
      ∀ earlier ∈ owners definitions.fields patch, earlier < groupId → ∃ entry,
        (definitions.pipeline handlers config).approvalOf definitions.fields patch context earlier =
          .ok entry := by
    constructor
    · intro passed earlier owner smaller
      obtain ⟨one, hmem, found⟩ := awaiting.exists_of_mem owner
      rw [Pipeline.approvalOf_of_pendingOf found]
      exact passed one hmem (Pipeline.id_of_pendingOf found ▸ smaller)
    · intro passed one hmem smaller
      obtain ⟨earlier, owner, found⟩ := awaiting.exists_of_mem_values hmem
      rw [← Pipeline.approvalOf_of_pendingOf found]
      exact passed earlier owner (Pipeline.id_of_pendingOf found ▸ smaller)
  rw [calls, List.mem_append, or_iff_right (none _ _ _), calls_dispatch, List.mem_map]
  constructor
  · rintro ⟨one, hasked, call⟩
    obtain ⟨hmem, passed⟩ := (mem_asked_iff ascending).1 hasked
    obtain ⟨groupId, owner, found⟩ := awaiting.exists_of_mem_values hmem
    obtain rfl := Pipeline.id_of_pendingOf found
    exact ⟨ready, _, owner, one, found, call, fun mode => before.1 (passed mode)⟩
  · rintro ⟨-, groupId, owner, one, found, call, passed⟩
    obtain ⟨one', hmem, found'⟩ := awaiting.exists_of_mem owner
    obtain rfl : one' = one := Except.ok.inj (found'.symm.trans found)
    obtain rfl := Pipeline.id_of_pendingOf found
    exact ⟨one', (mem_asked_iff ascending).2 ⟨hmem, fun mode => before.2 (passed mode)⟩, call⟩

/-! ## Two patches without a common owner -/

/-- **No group owns fields of both patches.** -/
def Apart (definitions : Definitions) (first second : Values) : Prop :=
  ∀ a ∈ first.keys, ∀ b ∈ second.keys, ∀ field field',
    definitions.field? a = some field → definitions.field? b = some field' →
    field.groupId ≠ field'.groupId

theorem Apart.not_mem_owners (apart : definitions.Apart first second) {groupId : String}
    (h : groupId ∈ owners definitions.fields first) :
    groupId ∉ owners definitions.fields second := by
  intro h'
  obtain ⟨a, ha, owner⟩ := mem_owners_iff.1 h
  obtain ⟨b, hb, owner'⟩ := mem_owners_iff.1 h'
  obtain ⟨field, found, -, rfl⟩ := ownerOf_eq_ok_iff.1 owner
  obtain ⟨field', found', -, same⟩ := ownerOf_eq_ok_iff.1 owner'
  exact apart a ha b hb field field' found found' same.symm

/-- **The one patch has, for its owners, what the other has for them.** -/
def Covers (definitions : Definitions) (whole part : Values) : Prop :=
  ∀ groupId ∈ owners definitions.fields part, groupId ∈ owners definitions.fields whole ∧
    share definitions.fields whole groupId = share definitions.fields part groupId

theorem Apart.covers_first (apart : definitions.Apart first second) :
    definitions.Covers (first.overlay second) first := fun _ owner =>
  ⟨mem_owners_overlay_iff.2 (.inl owner),
    share_overlay_of_not_mem_upper (apart.not_mem_owners owner)⟩

theorem Apart.covers_second (apart : definitions.Apart first second) :
    definitions.Covers (first.overlay second) second := fun _ owner =>
  ⟨mem_owners_overlay_iff.2 (.inr owner),
    share_overlay_of_not_mem_lower fun owner' => apart.not_mem_owners owner' owner⟩

/-- What a handler is asked about an owner of the part, it is asked for the part alone as well. -/
theorem Covers.authorize_mem_calls_part {whole part : Values}
    (covers : definitions.Covers whole part) (ready : definitions.Ready handlers config part)
    {groupId groupName : String} {values : Values} {one : Pending}
    (owner : groupId ∈ owners definitions.fields part)
    (found : (definitions.pipeline handlers config).pendingOf definitions.fields whole groupId =
      .ok one)
    (call : one.call context = .authorize context groupName values)
    (passed : config.dispatch = .sequential → ∀ earlier ∈ owners definitions.fields whole,
      earlier < groupId → ∃ entry,
        (definitions.pipeline handlers config).approvalOf definitions.fields whole context earlier =
          .ok entry) :
    .authorize context groupName values ∈
      ((definitions.pipeline handlers config).resolve context part).calls := by
  refine authorize_mem_calls_iff.2 ⟨ready, groupId, owner, one, ?_, call, fun mode earlier mem => ?_⟩
  · rw [← Pipeline.pendingOf_congr (covers groupId owner).2, found]
  · rw [← Pipeline.approvalOf_congr (covers earlier mem).2]
    exact passed mode earlier (covers earlier mem).1

/-- If the whole is approved, what a handler is asked for the part it is asked for the whole. -/
theorem Covers.authorize_mem_calls_whole {whole part : Values}
    (covers : definitions.Covers whole part)
    (approved : ∃ result,
      ((definitions.pipeline handlers config).resolve context whole).outcome = .ok result)
    {groupName : String} {values : Values}
    (h : .authorize context groupName values ∈
      ((definitions.pipeline handlers config).resolve context part).calls) :
    .authorize context groupName values ∈
      ((definitions.pipeline handlers config).resolve context whole).calls := by
  obtain ⟨ready, entries⟩ := exists_resolve_eq_ok_iff.1 approved
  obtain ⟨-, groupId, owner, one, found, call, -⟩ := authorize_mem_calls_iff.1 h
  obtain ⟨owner', same⟩ := covers groupId owner
  refine authorize_mem_calls_iff.2 ⟨ready, groupId, owner', one, ?_, call, fun _ earlier mem _ => ?_⟩
  · rw [Pipeline.pendingOf_congr same, found]
  · exact entries earlier mem

/-- **What a share decides about its group holds of every owner of the union when it holds of every
owner of both.** -/
theorem Apart.forall_owners_overlay_iff (apart : definitions.Apart first second)
    (holds : Values → String → Prop)
    (decided : ∀ {patch patch' groupId}, share definitions.fields patch groupId =
      share definitions.fields patch' groupId → holds patch groupId → holds patch' groupId) :
    (∀ groupId ∈ owners definitions.fields (first.overlay second),
        holds (first.overlay second) groupId) ↔
      (∀ groupId ∈ owners definitions.fields first, holds first groupId) ∧
        ∀ groupId ∈ owners definitions.fields second, holds second groupId := by
  simp only [mem_owners_overlay_iff]
  constructor
  · refine fun all => ⟨fun groupId owner => ?_, fun groupId owner => ?_⟩
    · exact decided (apart.covers_first _ owner).2 (all groupId (.inl owner))
    · exact decided (apart.covers_second _ owner).2 (all groupId (.inr owner))
  · rintro ⟨all, all'⟩ groupId (owner | owner)
    · exact decided (apart.covers_first groupId owner).2.symm (all groupId owner)
    · exact decided (apart.covers_second groupId owner).2.symm (all' groupId owner)

/-- **All is ready for the union when it is for both.** -/
theorem Apart.ready_overlay_iff (apart : definitions.Apart first second)
    (bounded : (first.overlay second).size ≤ config.maxFields) :
    definitions.Ready handlers config (first.overlay second) ↔
      definitions.Ready handlers config first ∧ definitions.Ready handlers config second := by
  have owned : (∀ fieldId ∈ (first.overlay second).keys,
        ∃ owner, ownerOf definitions.fields fieldId = .ok owner) ↔
      (∀ fieldId ∈ first.keys, ∃ owner, ownerOf definitions.fields fieldId = .ok owner) ∧
        ∀ fieldId ∈ second.keys, ∃ owner, ownerOf definitions.fields fieldId = .ok owner := by
    simp only [mem_keys_overlay_iff, or_imp, forall_and]
  have guarded := apart.forall_owners_overlay_iff (fun patch groupId => ∃ one,
      (definitions.pipeline handlers config).pendingOf definitions.fields patch groupId = .ok one)
    fun same ready => Pipeline.pendingOf_congr same ▸ ready
  constructor
  · intro h
    obtain ⟨owned_first, owned_second⟩ := owned.1 h.owned
    obtain ⟨guarded_first, guarded_second⟩ := guarded.1 h.guarded
    refine ⟨⟨Nat.le_trans ?_ bounded, owned_first, guarded_first⟩,
      ⟨Nat.le_trans ?_ bounded, owned_second, guarded_second⟩⟩
    · exact size_le_of_keys_subset fun _ hmem => mem_keys_overlay_iff.2 (.inl hmem)
    · exact size_le_of_keys_subset fun _ hmem => mem_keys_overlay_iff.2 (.inr hmem)
  · rintro ⟨h, h'⟩
    exact ⟨bounded, owned.2 ⟨h.owned, h'.owned⟩, guarded.2 ⟨h.guarded, h'.guarded⟩⟩

/-- What becomes of an owner of one of the two becomes of it in the union. -/
theorem Apart.approvalOf_overlay_eq_iff (apart : definitions.Apart first second) {groupId : String}
    {entry : GroupPatch} :
    (groupId ∈ owners definitions.fields (first.overlay second) ∧
        (definitions.pipeline handlers config).approvalOf definitions.fields (first.overlay second)
          context groupId = .ok entry) ↔
      (groupId ∈ owners definitions.fields first ∧
        (definitions.pipeline handlers config).approvalOf definitions.fields first context groupId =
          .ok entry) ∨
      (groupId ∈ owners definitions.fields second ∧
        (definitions.pipeline handlers config).approvalOf definitions.fields second context
          groupId = .ok entry) := by
  rw [mem_owners_overlay_iff, or_and_right]
  refine or_congr (and_congr_right fun owner => ?_) (and_congr_right fun owner => ?_)
  · rw [Pipeline.approvalOf_congr (apart.covers_first _ owner).2]
  · rw [Pipeline.approvalOf_congr (apart.covers_second _ owner).2]

/-- **Groups are authorized independently of each other.**  Of two patches without a common owner,
the union is approved exactly when both are, and what is approved is the disjoint union of what is
approved for each.  Whatever a handler is asked in the union it is asked for one of the two, and
conversely if the union is approved. -/
theorem resolve_overlay (definitions : Definitions) (handlers : HandlerRegistry)
    (config : PipelineConfig) (context : Context) (first second : Values)
    (apart : definitions.Apart first second)
    (bounded : (first.overlay second).size ≤ config.maxFields) :
    let resolve := (definitions.pipeline handlers config).resolve context
    ((∃ whole, (resolve (first.overlay second)).outcome = .ok whole) ↔
        (∃ left, (resolve first).outcome = .ok left) ∧
          ∃ right, (resolve second).outcome = .ok right) ∧
      (∀ whole left right, (resolve (first.overlay second)).outcome = .ok whole →
        (resolve first).outcome = .ok left → (resolve second).outcome = .ok right →
        ∀ groupId, (left.get? groupId = none ∨ right.get? groupId = none) ∧
          whole.get? groupId = (left.get? groupId).or (right.get? groupId)) ∧
      (∀ groupName values,
        .authorize context groupName values ∈ (resolve (first.overlay second)).calls →
        .authorize context groupName values ∈ (resolve first).calls ∨
          .authorize context groupName values ∈ (resolve second).calls) ∧
      ((∃ whole, (resolve (first.overlay second)).outcome = .ok whole) →
        ∀ groupName values,
          .authorize context groupName values ∈ (resolve first).calls ∨
            .authorize context groupName values ∈ (resolve second).calls →
          .authorize context groupName values ∈ (resolve (first.overlay second)).calls) := by
  intro resolve
  have ready : definitions.Ready handlers config (first.overlay second) ↔ _ :=
    apart.ready_overlay_iff bounded
  have approved := apart.forall_owners_overlay_iff (fun patch groupId => ∃ entry,
      (definitions.pipeline handlers config).approvalOf definitions.fields patch context groupId =
        .ok entry)
    fun same approved => Pipeline.approvalOf_congr same ▸ approved
  refine ⟨?_, fun whole left right hwhole hleft hright groupId => ?_, fun groupName values => ?_,
    fun whole groupName values => ?_⟩
  · simp only [resolve, exists_resolve_eq_ok_iff, ready, approved]
    exact and_and_and_comm
  · have left_iff := get?_of_resolve_eq_ok hleft groupId
    have right_iff := get?_of_resolve_eq_ok hright groupId
    have none_of_left {entry : GroupPatch} (found : left.get? groupId = some entry) :
        right.get? groupId = none := by
      refine Option.eq_none_iff_forall_ne_some.2 fun entry' found' => ?_
      exact apart.not_mem_owners ((left_iff entry).1 found).1 ((right_iff entry').1 found').1
    constructor
    · cases found : left.get? groupId with
      | none => exact .inl rfl
      | some entry => exact .inr (none_of_left found)
    · refine Option.ext fun entry => ?_
      rw [get?_of_resolve_eq_ok hwhole, apart.approvalOf_overlay_eq_iff, ← left_iff, ← right_iff]
      cases found : left.get? groupId with
      | none => simp
      | some entry' => simp [none_of_left found]
  · intro asked
    obtain ⟨all, groupId, owner, one, found, call, passed⟩ := authorize_mem_calls_iff.1 asked
    obtain ⟨ready_first, ready_second⟩ := ready.1 all
    rcases mem_owners_overlay_iff.1 owner with owner | owner
    · exact .inl (apart.covers_first.authorize_mem_calls_part ready_first owner found call passed)
    · exact .inr (apart.covers_second.authorize_mem_calls_part ready_second owner found call passed)
  · rintro (asked | asked)
    · exact apart.covers_first.authorize_mem_calls_whole whole asked
    · exact apart.covers_second.authorize_mem_calls_whole whole asked

/-- Two groups with a field each. -/
def twoGroups : Definitions :=
  ofDeclarations [.group ⟨"g1", "first"⟩, .group ⟨"g2", "second"⟩, .field ⟨"a", "g1", none⟩,
    .field ⟨"b", "g2", none⟩]

/-- The handler of the first group signs what it approves, that of the second drops its field. -/
def twoHandlers : HandlerRegistry :=
  (HandlerRegistry.empty.register "first" (Rule.context.handler 0)).register "second"
    ((Rule.deny ["b"]).handler 0)

/-- What is signed and what is dropped is the same for both fields as for either alone. -/
theorem resolve_overlay_twoGroups :
    let resolve := (twoGroups.pipeline twoHandlers ⟨.sequential, 2⟩).resolve ⟨"p1", "u1"⟩
    let first : Values := TextMap.empty.insert "a" .null
    let second : Values := TextMap.empty.insert "b" (.bool true)
    let signed : Values := TextMap.empty.insert "a" (.array [.text "p1", .text "u1", .text "first"])
    twoGroups.Apart first second ∧ (first.overlay second).size ≤ 2 ∧
      (resolve first).outcome = .ok (.collect [⟨⟨"g1", "first"⟩, signed⟩]) ∧
      (resolve second).outcome = .ok (.collect [⟨⟨"g2", "second"⟩, .empty⟩]) ∧
      ∃ whole, (resolve (first.overlay second)).outcome = .ok whole ∧
        whole.get? "g1" = some ⟨⟨"g1", "first"⟩, signed⟩ ∧
        whole.get? "g2" = some ⟨⟨"g2", "second"⟩, .empty⟩ ∧ whole.get? "g3" = none := by
  intro resolve first second signed
  have apart : twoGroups.Apart first second := by
    intro a ha b hb field field' found found'
    obtain rfl : a = "a" := List.mem_singleton.1 ha
    obtain rfl : b = "b" := List.mem_singleton.1 hb
    cases found
    cases found'
    decide
  have bounded : (first.overlay second).size ≤ 2 := by decide
  have left : (resolve first).outcome = .ok (.collect [⟨⟨"g1", "first"⟩, signed⟩]) := rfl
  have right : (resolve second).outcome = .ok (.collect [⟨⟨"g2", "second"⟩, .empty⟩]) := rfl
  have union := resolve_overlay twoGroups twoHandlers ⟨.sequential, 2⟩ ⟨"p1", "u1"⟩ first second apart
    bounded
  obtain ⟨whole, hwhole⟩ := union.1.2 ⟨⟨_, left⟩, _, right⟩
  have entries := fun groupId => (union.2.1 whole _ _ hwhole left right groupId).2
  exact ⟨apart, bounded, left, right, whole, hwhole, entries "g1", entries "g2", entries "g3"⟩

end Definitions

end PropertyGate
