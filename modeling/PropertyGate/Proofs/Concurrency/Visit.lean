import PropertyGate.Proofs.Patch.Declared
import PropertyGate.Service.Endpoint

/-!
# Proofs/Concurrency/Visit — one request among others

A request about a post takes turns with others: it looks up its fields, its groups one by one, starts
handlers and takes up their outcomes, has the result checked, writes, and answers (`Moves`).  Between
its turns more may be declared and other requests may write.  What has been declared stays declared,
so **a request that gets as far as a result has the result that the pipeline would come to over what
was declared when the fields were looked up** (`Moves.founded`).
-/

namespace PropertyGate

/-- What a request asks: to change a post, or to show it. -/
inductive Question where
  | edit (context : Context) (patch : Values)
  | view (context : Context)

/-- How far a request has come. -/
inductive Standing where
  | arrived
  /-- The fields are looked up and split; some groups are found, and the others are left. -/
  | grouping (found : List GroupPatch) (left : List (String × Values))
  /-- Some handlers have approved, others wait, others have started. -/
  | asking (finished : List GroupPatch) (waiting started : List Pending)
  | approved (result : PatchResult)
  /-- The result can be stored, as far as the store knows. -/
  | checked (result : PatchResult)
  | written (result : PatchResult)
  | seen (values : Values)
  | answered (response : Http.Response)

namespace Standing

/-- The request is answered with an error. -/
def refused (error : ApiError) : Standing := .answered (Refusal.api error).response

/-- The request is answered with values. -/
def shown (values : Values) : Standing := .answered (.json 200 values.toJson)

/-- Whether the request has neither written nor seen anything, and is not answered. -/
def isUnderWay : Standing → Bool
  | .arrived => true
  | .grouping _ _ => true
  | .asking _ _ _ => true
  | .approved _ => true
  | .checked _ => true
  | _ => false

/-- Whether the deadline cannot stop the request any more. -/
def isSettled : Standing → Bool
  | .written _ => true
  | .answered _ => true
  | _ => false

end Standing

variable (config : PipelineConfig) (definitions : Definitions) (store : Store)
  (handlers : HandlerRegistry)

/-- **A turn of a request**, given what is declared and stored at that time.  Writing is not among
them: it is the one turn that changes what others see. -/
inductive Moves : Question → Standing → Standing → Prop where
  /-- The request is turned away for its wording, or because the service is shutting down. -/
  | turnAway {question : Question} (refusal : Refusal) :
      Moves question .arrived (.answered refusal.response)
  | skip {context : Context} {patch : Values} (nothing : patch.isEmpty = true) :
      Moves (.edit context patch) .arrived (.approved .empty)
  | tooLarge {context : Context} {patch : Values} (something : patch.isEmpty = false)
      (large : config.maxFields < patch.size) :
      Moves (.edit context patch) .arrived
        (.refused (.patch (.tooLarge patch.size config.maxFields)))
  | ownerless {context : Context} {patch : Values} {error : PatchError}
      (something : patch.isEmpty = false) (bounded : patch.size ≤ config.maxFields)
      (fail : groupByOwner patch (definitions.lookupFields patch.keys) = .error error) :
      Moves (.edit context patch) .arrived (.refused (.patch error))
  | split {context : Context} {patch : Values} {grouped : GroupedValues}
      (something : patch.isEmpty = false) (bounded : patch.size ≤ config.maxFields)
      (success : groupByOwner patch (definitions.lookupFields patch.keys) = .ok grouped) :
      Moves (.edit context patch) .arrived (.grouping [] grouped.entries)
  | groupless {context : Context} {patch : Values} {found : List GroupPatch}
      {entry : String × Values} {left : List (String × Values)} {error : PatchError}
      (fail : ((definitions.pipeline handlers config).materialize entry).result = .error error) :
      Moves (.edit context patch) (.grouping found (entry :: left)) (.refused (.patch error))
  | find {context : Context} {patch : Values} {found : List GroupPatch}
      {entry : String × Values} {left : List (String × Values)} {groupPatch : GroupPatch}
      (success : ((definitions.pipeline handlers config).materialize entry).result =
        .ok groupPatch) :
      Moves (.edit context patch) (.grouping found (entry :: left))
        (.grouping (found ++ [groupPatch]) left)
  | unguarded {context : Context} {patch : Values} {found : List GroupPatch} {error : PatchError}
      (fail : found.mapM (definitions.pipeline handlers config).assign = .error error) :
      Moves (.edit context patch) (.grouping found []) (.refused (.patch error))
  | assign {context : Context} {patch : Values} {found : List GroupPatch} {pending : List Pending}
      (success : found.mapM (definitions.pipeline handlers config).assign = .ok pending) :
      Moves (.edit context patch) (.grouping found []) (.asking [] pending [])
  /-- Together, handlers start in any order; in sequence, the next starts when none is running. -/
  | start {context : Context} {patch : Values} {finished : List GroupPatch} {one : Pending}
      {before after started : List Pending}
      (order : config.dispatch = .sequential → before = [] ∧ started = []) :
      Moves (.edit context patch) (.asking finished (before ++ one :: after) started)
        (.asking finished (before ++ after) (started ++ [one]))
  /-- Handlers finish in any order. -/
  | finish {context : Context} {patch : Values} {finished : List GroupPatch} {one : Pending}
      {waiting before after : List Pending} {groupPatch : GroupPatch}
      (success : one.outcome context = .ok groupPatch) :
      Moves (.edit context patch) (.asking finished waiting (before ++ one :: after))
        (.asking (finished ++ [groupPatch]) waiting (before ++ after))
  /-- The first failure that is taken up decides. -/
  | fail {context : Context} {patch : Values} {finished : List GroupPatch} {one : Pending}
      {waiting before after : List Pending} {error : PatchError}
      (failure : one.outcome context = .error error) :
      Moves (.edit context patch) (.asking finished waiting (before ++ one :: after))
        (.refused (.patch error))
  | gather {context : Context} {patch : Values} {finished : List GroupPatch} :
      Moves (.edit context patch) (.asking finished [] []) (.approved (.collect finished))
  | unstorable {context : Context} {patch : Values} {result : PatchResult} {error : StoreError}
      (fail : Store.patchError? definitions result = some error) :
      Moves (.edit context patch) (.approved result) (.refused (.storeFailed error.failure))
  | check {context : Context} {patch : Values} {result : PatchResult}
      (success : Store.patchError? definitions result = none) :
      Moves (.edit context patch) (.approved result) (.checked result)
  | confirm {context : Context} {patch : Values} {result : PatchResult} :
      Moves (.edit context patch) (.written result) (.shown result.flatten)
  | look {context : Context} :
      Moves (.view context) .arrived (.seen (store.values context.target))
  | display {context : Context} {values : Values} :
      Moves (.view context) (.seen values) (.shown values)
  /-- The deadline passes. -/
  | giveUp {question : Question} {standing : Standing} (early : standing.isSettled = false) :
      Moves question standing (.answered (.empty 408))

variable {config definitions store handlers} {context : Context} {patch : Values}
  {question : Question} {standing next : Standing}

/-! ## The first in line -/

theorem Moves.startFirst {finished : List GroupPatch} {one : Pending} {waiting started : List Pending}
    (order : config.dispatch = .sequential → started = []) :
    Moves config definitions store handlers (.edit context patch)
      (.asking finished (one :: waiting) started) (.asking finished waiting (started ++ [one])) :=
  @Moves.start _ _ _ _ _ _ _ _ [] _ _ fun mode => ⟨rfl, order mode⟩

theorem Moves.finishFirst {finished : List GroupPatch} {one : Pending}
    {waiting started : List Pending} {groupPatch : GroupPatch}
    (success : one.outcome context = .ok groupPatch) :
    Moves config definitions store handlers (.edit context patch)
      (.asking finished waiting (one :: started)) (.asking (finished ++ [groupPatch]) waiting started) :=
  @Moves.finish _ _ _ _ _ _ _ _ _ [] _ _ success

theorem Moves.failFirst {finished : List GroupPatch} {one : Pending}
    {waiting started : List Pending} {error : PatchError}
    (failure : one.outcome context = .error error) :
    Moves config definitions store handlers (.edit context patch)
      (.asking finished waiting (one :: started)) (.refused (.patch error)) :=
  @Moves.fail _ _ _ _ _ _ _ _ _ [] _ _ failure

/-! ## The end of a request -/

/-- A request that has written is answered with what it wrote. -/
theorem Moves.eq_of_written {result : PatchResult}
    (h : Moves config definitions store handlers question (.written result) next) :
    next = .shown result.flatten := by
  cases h with
  | confirm => rfl
  | giveUp early => cases early

/-- A request is answered once. -/
theorem Moves.not_of_answered {response : Http.Response} :
    ¬ Moves config definitions store handlers question (.answered response) next := by
  rintro ⟨⟩
  rename_i early
  cases early

/-! ## What a request rests on -/

open Pipeline (Owned Prepared assigned)

/-- **The pipeline comes to this result** over something that was declared before. -/
def Grounded (config : PipelineConfig) (definitions : Definitions) (handlers : HandlerRegistry)
    (context : Context) (patch : Values) (result : PatchResult) : Prop :=
  ∃ basis : Definitions, basis.Extends definitions ∧
    ((basis.pipeline handlers config).resolve context patch).outcome = .ok result

variable (config definitions handlers) in
/-- **What the standing of a request rests on**: its fields were looked up in `basis`, and whatever
was found later is found there as well. -/
inductive Founded : Question → Standing → Prop where
  | arrived {question : Question} : Founded question .arrived
  | grouping {context : Context} {patch : Values} {found : List GroupPatch}
      {left : List (String × Values)} {basis : Definitions} {groups : List Group}
      {passed groupIds : List String} (wellFormed : basis.WellFormed)
      (earlier : basis.Extends definitions)
      (owned : Owned (basis.pipeline handlers config) context patch
        (basis.lookupFields patch.keys))
      (split : owners (basis.lookupFields patch.keys) patch = passed ++ groupIds)
      (known : Passes (basis.pipeline handlers config).groupOf passed groups)
      (assigned : found = groups.map (assigned (basis.lookupFields patch.keys) patch))
      (remaining : left =
        groupIds.map fun groupId => (groupId, share (basis.lookupFields patch.keys) patch groupId)) :
      Founded (.edit context patch) (.grouping found left)
  | asking {context : Context} {patch : Values} {finished : List GroupPatch}
      {waiting started : List Pending} {basis : Definitions} {groups : List Group}
      {pending ended : List Pending} (earlier : basis.Extends definitions)
      (prepared : Prepared (basis.pipeline handlers config) context patch
        (basis.lookupFields patch.keys) groups pending)
      (all : (ended ++ (started ++ waiting)).Perm pending)
      (approvals : Passes (Pending.outcome · context) ended finished) :
      Founded (.edit context patch) (.asking finished waiting started)
  | approved {context : Context} {patch : Values} {result : PatchResult}
      (grounded : Grounded config definitions handlers context patch result) :
      Founded (.edit context patch) (.approved result)
  | checked {context : Context} {patch : Values} {result : PatchResult}
      (grounded : Grounded config definitions handlers context patch result) :
      Founded (.edit context patch) (.checked result)
  | written {context : Context} {patch : Values} {result : PatchResult}
      (grounded : Grounded config definitions handlers context patch result) :
      Founded (.edit context patch) (.written result)
  | seen {context : Context} {values : Values} : Founded (.view context) (.seen values)
  | answered {question : Question} {response : Http.Response} :
      Founded question (.answered response)

theorem Grounded.mono {later : Definitions} {result : PatchResult}
    (h : Grounded config definitions handlers context patch result)
    (grown : definitions.Extends later) :
    Grounded config later handlers context patch result := by
  obtain ⟨basis, earlier, resolved⟩ := h
  exact ⟨basis, earlier.trans grown, resolved⟩

/-- Declarations take nothing away from what a request rests on. -/
theorem Founded.mono {later : Definitions} (h : Founded config definitions handlers question standing)
    (grown : definitions.Extends later) : Founded config later handlers question standing := by
  cases h with
  | arrived => exact .arrived
  | grouping wellFormed earlier owned split known assigned remaining =>
    exact .grouping wellFormed (earlier.trans grown) owned split known assigned remaining
  | asking earlier prepared all approvals =>
    exact .asking (earlier.trans grown) prepared all approvals
  | approved grounded => exact .approved (grounded.mono grown)
  | checked grounded => exact .checked (grounded.mono grown)
  | written grounded => exact .written (grounded.mono grown)
  | seen => exact .seen
  | answered => exact .answered

/-- **However its handlers finish, a request comes to what the pipeline comes to.** -/
theorem grounded_of_finished {basis : Definitions} {groups : List Group}
    {pending ended : List Pending} {finished : List GroupPatch}
    (earlier : basis.Extends definitions)
    (prepared : Prepared (basis.pipeline handlers config) context patch
      (basis.lookupFields patch.keys) groups pending)
    (all : ended.Perm pending) (approvals : Passes (Pending.outcome · context) ended finished) :
    Grounded config definitions handlers context patch (.collect finished) := by
  obtain ⟨patches, inOrder, same⟩ := approvals.exists_of_perm all.symm
  have ids : pending.map (·.patch.group.id) = patches.map (·.group.id) :=
    inOrder.map_eq fun _ _ pass => congrArg Group.id (Pending.group_of_outcome_eq_ok pass)
  refine ⟨basis, earlier, (Pipeline.resolve_of_prepared prepared).2.trans ?_⟩
  rw [(dispatch_of_passes prepared.nodup_ids inOrder _).2]
  exact congrArg Except.ok
    (PatchResult.collect_eq_of_perm (ids ▸ prepared.nodup_ids) same.symm).symm

/-- **Every turn of a request keeps what the request rests on.** -/
theorem Moves.founded (h : Moves config definitions store handlers question standing next)
    (wellFormed : definitions.WellFormed)
    (founded : Founded config definitions handlers question standing) :
    Founded config definitions handlers question next := by
  cases h with
  | skip nothing => exact .approved ⟨definitions, .refl _, by rw [Pipeline.resolve, if_pos nothing]⟩
  | split something bounded success =>
    obtain ⟨owned, entries⟩ := owned_of_groupByOwner success
    have sized : Pipeline.Sized (definitions.pipeline handlers config) _ :=
      ⟨fun none => Bool.false_ne_true (something.symm.trans (Pipeline.keys_eq_nil_iff.1 none)),
        Nat.le_trans (Nat.le_of_eq (Pipeline.length_keys _)) bounded⟩
    exact .grouping wellFormed (.refl _) ⟨⟨sized, rfl⟩, owned⟩ (List.nil_append _).symm .nil rfl
      entries
  | @find context patch _ _ _ _ success =>
    cases founded with
    | @grouping _ _ _ _ basis groups passed groupIds wellFormed' earlier owned split known assigned
        remaining =>
      obtain ⟨groupId, groupIds, rfl, rfl, rfl⟩ := List.map_eq_cons_iff.1 remaining.symm
      obtain ⟨group, known', rfl⟩ := Pipeline.materialize_eq_ok_iff.1 success
      have owner : groupId ∈ owners (basis.lookupFields patch.keys) patch := by simp [split]
      have knownEarlier := wellFormed'.groupOf_of_extends earlier owner known'
      refine .grouping wellFormed' earlier owned ?_ (known.append (.cons knownEarlier .nil)) ?_ rfl
      · rw [split, List.append_assoc, List.singleton_append]
      · rw [assigned, List.map_append, List.map_singleton, Pipeline.assigned,
          (Pipeline.groupOf_eq_ok_iff.1 known').2]
  | assign success =>
    cases founded with
    | grouping _ earlier owned split known assigned remaining =>
      obtain rfl := List.map_eq_nil_iff.1 remaining.symm
      rw [List.append_nil] at split
      subst assigned
      exact .asking earlier ⟨⟨owned, split ▸ known⟩, mapM_eq_ok_iff.1 success⟩
        (.refl _) .nil
  | start =>
    cases founded with
    | asking earlier prepared all approvals =>
      refine .asking earlier prepared (.trans (.append_left _ ?_) all) approvals
      rw [List.append_assoc, List.singleton_append]
      exact .append_left _ List.perm_middle.symm
  | finish success =>
    cases founded with
    | asking earlier prepared all approvals =>
      refine .asking earlier prepared (.trans ?_ all) (approvals.append (.cons success .nil))
      rw [List.append_assoc]
      exact .append_left _ (List.perm_middle.symm.append_right _)
  | gather =>
    cases founded with
    | asking earlier prepared all approvals =>
      exact .approved (grounded_of_finished earlier prepared
        ((List.Perm.of_eq (List.append_nil _).symm).trans all) approvals)
  | check =>
    cases founded with
    | approved grounded => exact .checked grounded
  | look => exact .seen
  | _ => exact .answered

end PropertyGate
