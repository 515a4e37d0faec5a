import PropertyGate.Proofs.Patch.Independence
import PropertyGate.Proofs.Store.History

/-!
# Proofs/Patch/Unchanged — patches that are approved as they are

A patch goes through unchanged if every field is declared for a group whose handler approves whatever
it is asked about, and if there are not too many fields (`Unguarded`).  Every owner is then approved
with its share, and the shares of all owners are the patch; a share has only fields that are declared
for its group.  So **such a patch is approved, can be stored, and comes out as it was submitted**
(`WellFormed.exists_approved_unchanged`).
-/

namespace PropertyGate.Definitions

/-- **Nobody minds the patch**: all of its fields are declared, for groups whose handlers approve
everything unchanged, and it is not too large. -/
structure Unguarded (definitions : Definitions) (handlers : HandlerRegistry)
    (config : PipelineConfig) (patch : Values) : Prop where
  declared : ∀ fieldId ∈ patch.keys, ∃ group, definitions.Owns group fieldId ∧
    handlers.get? group.name = some Handler.identity
  bounded : patch.size ≤ config.maxFields

variable {definitions : Definitions} {handlers : HandlerRegistry} {config : PipelineConfig}
  {context : Context} {patch : Values} {approved : PatchResult} {groupId fieldId : String}

/-- The group that owns a field answers to the id of the owner. -/
theorem WellFormed.ownerOf_of_owns (h : definitions.WellFormed) {group : Group}
    (owns : definitions.Owns group fieldId) : ownerOf definitions.fields fieldId = .ok group.id := by
  obtain ⟨field, found, -, same⟩ := owns
  exact h.ownerOf_eq_ok_iff.2 ⟨field, found, same.symm⟩

/-- **Every owner is approved with its share.** -/
theorem Unguarded.exists_approval (h : definitions.Unguarded handlers config patch)
    (wellFormed : definitions.WellFormed) (context : Context)
    (owner : groupId ∈ owners definitions.fields patch) :
    ∃ one group, (definitions.pipeline handlers config).pendingOf definitions.fields patch groupId =
        .ok one ∧
      one.outcome context = .ok ⟨group, share definitions.fields patch groupId⟩ := by
  obtain ⟨fieldId, submitted, owns⟩ := mem_owners_iff.1 owner
  obtain ⟨group, declared, unguarded⟩ := h.declared fieldId submitted
  obtain rfl : group.id = groupId :=
    Except.ok.inj ((wellFormed.ownerOf_of_owns declared).symm.trans owns)
  obtain ⟨field, -, known, same⟩ := declared
  have found : (definitions.pipeline handlers config).groupOf group.id = .ok group :=
    Pipeline.groupOf_eq_ok_iff.2 ⟨lookupGroup_eq_ok_iff.2 (same ▸ known), rfl⟩
  refine ⟨⟨Pipeline.assigned definitions.fields patch group, Handler.identity⟩, group, ?_, rfl⟩
  rw [Pipeline.pendingOf, found]
  exact Pipeline.assign_eq_ok_iff.2 ⟨rfl, unguarded⟩

/-- **Nobody refuses such a patch.** -/
theorem Unguarded.exists_resolve_eq_ok (h : definitions.Unguarded handlers config patch)
    (wellFormed : definitions.WellFormed) (context : Context) :
    ∃ approved, ((definitions.pipeline handlers config).resolve context patch).outcome =
      .ok approved := by
  refine exists_resolve_eq_ok_iff.2 ⟨⟨h.bounded, fun fieldId submitted => ?_, ?_⟩, ?_⟩
  · obtain ⟨group, declared, -⟩ := h.declared fieldId submitted
    exact ⟨group.id, wellFormed.ownerOf_of_owns declared⟩
  · intro groupId owner
    obtain ⟨one, -, ready, -⟩ := h.exists_approval wellFormed context owner
    exact ⟨one, ready⟩
  · intro groupId owner
    obtain ⟨one, group, ready, approved⟩ := h.exists_approval wellFormed context owner
    exact ⟨_, (Pipeline.approvalOf_of_pendingOf ready).trans approved⟩

/-- What is approved is the share of every owner. -/
theorem Unguarded.mem_toList_iff (h : definitions.Unguarded handlers config patch)
    (wellFormed : definitions.WellFormed)
    (resolved : ((definitions.pipeline handlers config).resolve context patch).outcome =
      .ok approved) {values : Values} :
    (∃ group, (groupId, ⟨group, values⟩) ∈ approved.toList) ↔
      groupId ∈ owners definitions.fields patch ∧
        values = share definitions.fields patch groupId := by
  have listed {entry : GroupPatch} : (groupId, entry) ∈ approved.toList ↔
      approved.get? groupId = some entry := TextMap.mem_entries_iff
  simp only [listed, get?_of_resolve_eq_ok resolved]
  constructor
  · rintro ⟨group, owner, approval⟩
    obtain ⟨one, group', ready, outcome⟩ := h.exists_approval wellFormed context owner
    rw [Pipeline.approvalOf_of_pendingOf ready, outcome] at approval
    cases approval
    exact ⟨owner, rfl⟩
  · rintro ⟨owner, rfl⟩
    obtain ⟨one, group, ready, outcome⟩ := h.exists_approval wellFormed context owner
    exact ⟨group, owner, (Pipeline.approvalOf_of_pendingOf ready).trans outcome⟩

/-- **A patch that nobody minds is approved as it is, and can be stored.** -/
theorem WellFormed.exists_approved_unchanged (wellFormed : definitions.WellFormed)
    (h : definitions.Unguarded handlers config patch) (context : Context) :
    ∃ approved, ((definitions.pipeline handlers config).resolve context patch).outcome =
        .ok approved ∧
      Store.patchError? definitions approved = none ∧ approved.flatten = patch := by
  obtain ⟨approved, resolved⟩ := h.exists_resolve_eq_ok wellFormed context
  have storable : Store.patchError? definitions approved = none := by
    refine Store.patchError?_eq_none_iff.2 ?_
    rintro ⟨groupId, ⟨group, values⟩⟩ listed fieldId mem
    obtain ⟨-, rfl⟩ := (h.mem_toList_iff wellFormed resolved).1 ⟨group, listed⟩
    obtain ⟨value, held⟩ := Option.ne_none_iff_exists'.1 (mem_keys_iff.1 mem)
    exact Store.fieldError?_eq_none_iff.2
      (wellFormed.ownerOf_eq_ok_iff.1 (get?_share_eq_some_iff.1 held).2)
  refine ⟨approved, resolved, storable, TextMap.ext_get? fun fieldId => Option.ext fun value => ?_⟩
  rw [Store.get?_flatten_eq_some_iff storable]
  constructor
  · rintro ⟨⟨groupId, ⟨group, values⟩⟩, listed, held⟩
    obtain ⟨-, rfl⟩ := (h.mem_toList_iff wellFormed resolved).1 ⟨group, listed⟩
    exact (get?_share_eq_some_iff.1 held).1
  · intro submitted
    have mem : fieldId ∈ patch.keys := mem_keys_iff.2 (by rw [submitted]; simp)
    obtain ⟨group, declared, -⟩ := h.declared fieldId mem
    have owner := wellFormed.ownerOf_of_owns declared
    obtain ⟨group', listed⟩ := (h.mem_toList_iff wellFormed resolved).2
      ⟨mem_owners_iff.2 ⟨fieldId, mem, owner⟩, rfl⟩
    exact ⟨_, listed, get?_share_eq_some_iff.2 ⟨submitted, owner⟩⟩

end PropertyGate.Definitions
