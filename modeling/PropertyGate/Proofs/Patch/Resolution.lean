import PropertyGate.Patch.Pipeline
import PropertyGate.Proofs.Patch.Dispatch
import PropertyGate.Proofs.Patch.Grouping

/-!
# Proofs/Patch/Resolution — the first step that fails decides

A patch is resolved in two phases, and each phase in steps: the size of the patch, the answer about
its fields, the owner of every field, every owning group, every handler — and only then what the
handlers say.  `Pipeline.Resolves` tells, step by step, which calls are made and what comes of the
patch if that step is the first to fail, or if none does.  **Resolving a patch does exactly that**
(`resolve_iff_resolves`), whatever the registries answer.
-/

namespace PropertyGate

namespace Pipeline

/-! ## What a patch has got past -/

/-- **The group that answers to an id**: the registry knows it, and under that id. -/
def groupOf (pipeline : Pipeline) (groupId : String) : Except PatchError Group :=
  match pipeline.registries.group groupId with
  | .error cause => .error (.groupResolutionFailed groupId cause)
  | .ok group =>
    if group.id = groupId then .ok group
    else .error (.groupResolutionFailed groupId ⟨"registry answered with group " ++ group.id, []⟩)

/-- The part of a patch that is left to the handler of a group. -/
def assigned (fields : TextMap Field) (patch : Values) (group : Group) : GroupPatch :=
  ⟨group, share fields patch group.id⟩

variable (pipeline : Pipeline) (context : Context) (patch : Values)

/-- The patch is of a size that is worked on. -/
structure Sized : Prop where
  nonempty : patch.keys ≠ []
  bounded : patch.keys.length ≤ pipeline.config.maxFields

/-- There is an answer about the fields of the patch. -/
structure Answered (fields : TextMap Field) : Prop extends Sized pipeline patch where
  answer : pipeline.registries.fields context.target patch.keys = .ok fields

/-- Every field of the patch has an owner. -/
structure Owned (fields : TextMap Field) : Prop extends Answered pipeline context patch fields where
  owned : ∀ fieldId ∈ patch.keys, ∃ owner, ownerOf fields fieldId = .ok owner

/-- Every owner is a group that answers to its id. -/
structure Materialized (fields : TextMap Field) (groups : List Group) : Prop
    extends Owned pipeline context patch fields where
  found : Passes pipeline.groupOf (owners fields patch) groups

/-- **All is ready for the handlers**: every group has its share of the patch, and a handler. -/
structure Prepared (fields : TextMap Field) (groups : List Group) (pending : List Pending) : Prop
    extends Materialized pipeline context patch fields groups where
  guarded : Passes pipeline.assign (groups.map (assigned fields patch)) pending

/-! ## What comes of it -/

/-- The call for the fields of the patch. -/
def fieldCall : Call := .lookupFields context.target patch.keys

/-- The calls that are made before any handler is asked. -/
def preparation (groupIds : List String) : List Call :=
  fieldCall context patch :: groupIds.map .lookupGroup

/-- **How a patch is resolved**: the calls that are made, in order, and what comes of the patch, by
the first step that fails. -/
inductive Resolves : List Call → Except PatchError PatchResult → Prop where
  /-- Nobody is asked about an empty patch. -/
  | empty (h : patch.keys = []) : Resolves [] (.ok .empty)
  /-- Nobody is asked about a patch with too many fields. -/
  | tooLarge (h : pipeline.config.maxFields < patch.keys.length) :
      Resolves [] (.error (.tooLarge patch.keys.length pipeline.config.maxFields))
  /-- There is no answer about the fields. -/
  | unanswered {cause : Failure} (h : Sized pipeline patch)
      (fail : pipeline.registries.fields context.target patch.keys = .error cause) :
      Resolves [fieldCall context patch] (.error (.fieldResolutionFailed cause))
  /-- The smallest field without an owner decides. -/
  | ownerless {fields : TextMap Field} {passed : List String} {fieldId : String}
      {error : PatchError} (h : Answered pipeline context patch fields)
      (stop : StopsAt (ownerOf fields) patch.keys passed fieldId error) :
      Resolves [fieldCall context patch] (.error error)
  /-- The smallest owner that is not a group decides, and none after it is looked up. -/
  | groupless {fields : TextMap Field} {passed : List String} {groupId : String}
      {error : PatchError} (h : Owned pipeline context patch fields)
      (stop : StopsAt pipeline.groupOf (owners fields patch) passed groupId error) :
      Resolves (preparation context patch (passed ++ [groupId])) (.error error)
  /-- The smallest group without a handler decides, once every group was looked up. -/
  | unguarded {fields : TextMap Field} {groups guarded rest : List Group} {bare : Group}
      (h : Materialized pipeline context patch fields groups)
      (split : groups = guarded ++ bare :: rest)
      (earlier : ∀ group ∈ guarded, ∃ handler, pipeline.handlers.get? group.name = some handler)
      (none : pipeline.handlers.get? bare.name = none) :
      Resolves (preparation context patch (owners fields patch))
        (.error (.unknownPermissionGroup bare.name))
  /-- Every handler approves: each is asked once, and every group has its entry in the result, with
  the values that its handler returned. -/
  | approved {fields : TextMap Field} {groups : List Group} {pending : List Pending}
      {patches : List GroupPatch} {result : PatchResult}
      (h : Prepared pipeline context patch fields groups pending)
      (approvals : List.Forall₂ (Pending.Approves context) pending patches)
      (filed : result.toList = patches.map fun patch => (patch.group.id, patch)) :
      Resolves (preparation context patch (owners fields patch) ++ pending.map (·.call context))
        (.ok result)
  /-- One after the other, the handlers up to the first that fails are asked.  A refusal denies the
  group, a crash is an internal error. -/
  | refusedInTurn {fields : TextMap Field} {groups : List Group} {pending passed : List Pending}
      {refused : Pending} {error : PatchError}
      (h : Prepared pipeline context patch fields groups pending)
      (mode : pipeline.config.dispatch = .sequential)
      (fails : Pending.FailsFirst context pending passed refused error) :
      Resolves (preparation context patch (owners fields patch)
        ++ (passed ++ [refused]).map (·.call context)) (.error error)
  /-- Together, all handlers are asked, and the failure that finishes first decides.  Handlers finish by
  their delays here; whatever the order, tasks that are joined come to the same kind of run
  (`Dispatching.concurrent_runs_together`). -/
  | refusedTogether {fields : TextMap Field} {groups : List Group} {pending passed : List Pending}
      {refused : Pending} {error : PatchError}
      (h : Prepared pipeline context patch fields groups pending)
      (mode : pipeline.config.dispatch = .concurrent)
      (fails : Pending.FailsFirst context (completionOrder context pending) passed refused error) :
      Resolves (preparation context patch (owners fields patch) ++ pending.map (·.call context))
        (.error error)

variable {pipeline context patch} {fields : TextMap Field} {groups : List Group}
  {pending : List Pending}

/-! ## Groups and handlers -/

theorem groupOf_eq_ok_iff {groupId : String} {group : Group} :
    pipeline.groupOf groupId = .ok group ↔
      pipeline.registries.group groupId = .ok group ∧ group.id = groupId := by
  rw [groupOf]
  cases pipeline.registries.group groupId with
  | error cause => simp
  | ok answer =>
    by_cases h : answer.id = groupId
    · simp only [if_pos h, Except.ok.injEq]
      exact ⟨fun same => ⟨same, same ▸ h⟩, And.left⟩
    · simp only [if_neg h, Except.ok.injEq, reduceCtorEq, false_iff]
      exact fun same => h (same.1 ▸ same.2)

theorem assign_eq_ok_iff {groupPatch : GroupPatch} {one : Pending} :
    pipeline.assign groupPatch = .ok one ↔
      one.patch = groupPatch ∧ pipeline.handlers.get? groupPatch.group.name = some one.handler := by
  rw [assign]
  obtain ⟨patch, handler⟩ := one
  cases pipeline.handlers.get? groupPatch.group.name with
  | none => simp
  | some registered => simp [eq_comm]

theorem exists_assign_eq_ok_iff {groupPatch : GroupPatch} :
    (∃ one, pipeline.assign groupPatch = .ok one) ↔
      ∃ handler, pipeline.handlers.get? groupPatch.group.name = some handler := by
  simp only [assign_eq_ok_iff]
  exact ⟨fun ⟨one, _, registered⟩ => ⟨one.handler, registered⟩,
    fun ⟨handler, registered⟩ => ⟨⟨groupPatch, handler⟩, rfl, registered⟩⟩

theorem assign_eq_error_iff {groupPatch : GroupPatch} {error : PatchError} :
    pipeline.assign groupPatch = .error error ↔
      pipeline.handlers.get? groupPatch.group.name = none ∧
        error = .unknownPermissionGroup groupPatch.group.name := by
  rw [assign]
  cases pipeline.handlers.get? groupPatch.group.name <;> simp [eq_comm]

/-- **The first group without a handler** is the one whose name is unknown. -/
theorem stopsAt_assign_iff {guarded : List Group} {bare : Group} {error : PatchError} :
    StopsAt (pipeline.assign ∘ assigned fields patch) groups guarded bare error ↔
      (∃ rest, groups = guarded ++ bare :: rest) ∧
        (∀ group ∈ guarded, ∃ handler, pipeline.handlers.get? group.name = some handler) ∧
        pipeline.handlers.get? bare.name = none ∧ error = .unknownPermissionGroup bare.name := by
  simp only [stopsAt_iff, Function.comp_apply, exists_assign_eq_ok_iff, assign_eq_error_iff,
    assigned]

/-- The groups that were found are those of the ids that were asked for. -/
theorem Materialized.ids (h : Materialized pipeline context patch fields groups) :
    groups.map (·.id) = owners fields patch := by
  have same := h.found.map_eq (f := id) (g := Group.id) fun _ _ pass =>
    (groupOf_eq_ok_iff.1 pass).2.symm
  rw [← same, List.map_id]

/-- What awaits the handlers is what was assigned. -/
theorem Prepared.patches (h : Prepared pipeline context patch fields groups pending) :
    pending.map (·.patch) = groups.map (assigned fields patch) := by
  have same := h.guarded.map_eq (f := id) (g := Pending.patch) fun _ _ pass =>
    (assign_eq_ok_iff.1 pass).1.symm
  rw [← same, List.map_id]

/-- **Every owner has one pending group**, owners ascending. -/
theorem Prepared.ids (h : Prepared pipeline context patch fields groups pending) :
    pending.map (·.patch.group.id) = owners fields patch := by
  have same := congrArg (List.map fun groupPatch : GroupPatch => groupPatch.group.id) h.patches
  rw [List.map_map, List.map_map] at same
  exact same.trans h.toMaterialized.ids

/-- **No two pending groups have one id**, so none takes the place of another in a result. -/
theorem Prepared.nodup_ids (h : Prepared pipeline context patch fields groups pending) :
    (pending.map (·.patch.group.id)).Nodup := h.ids ▸ nodup_owners fields patch

/-! ## Preparing -/

theorem result_materialize (entry : String × Values) :
    (pipeline.materialize entry).result =
      (pipeline.groupOf entry.1).map fun group => ⟨group, entry.2⟩ := by
  simp only [materialize, groupOf, Traced.call]
  cases pipeline.registries.group entry.1 with
  | error cause => rfl
  | ok group =>
    by_cases h : group.id = entry.1
    · simp only [if_pos h, Except.map]
    · simp only [if_neg h, Except.map]

theorem materialize_eq_ok_iff {entry : String × Values} {groupPatch : GroupPatch} :
    (pipeline.materialize entry).result = .ok groupPatch ↔
      ∃ group, pipeline.groupOf entry.1 = .ok group ∧ groupPatch = ⟨group, entry.2⟩ := by
  rw [result_materialize]
  cases pipeline.groupOf entry.1 <;> simp [Except.map, eq_comm]

/-- Looking up shares makes one call for each owner. -/
theorem flatMap_calls_materialize (groupIds : List String) :
    ((groupIds.map fun groupId => (groupId, share fields patch groupId)).flatMap fun entry =>
      (pipeline.materialize entry).calls) = groupIds.map .lookupGroup := by
  rw [List.flatMap_map]
  exact List.map_eq_flatMap.symm

theorem prepare_of_unanswered {cause : Failure}
    (fail : pipeline.registries.fields context.target patch.keys = .error cause) :
    pipeline.prepare context patch =
      ⟨[fieldCall context patch], .error (.fieldResolutionFailed cause)⟩ := by
  refine Traced.bind_of_error ?_
  change Except.mapError _ _ = _
  rw [fail]
  rfl

/-- With an answer about the fields, what remains is to group, to look up and to assign. -/
theorem prepare_of_answered (h : Answered pipeline context patch fields) :
    pipeline.prepare context patch =
      let rest : Traced PatchError (List Pending) := do
        let grouped ← Traced.ofExcept (groupByOwner patch fields)
        let patches ← grouped.entries.mapM pipeline.materialize
        Traced.ofExcept (patches.mapM pipeline.assign)
      ⟨fieldCall context patch :: rest.calls, rest.result⟩ := by
  refine Traced.bind_of_ok ?_
  change Except.mapError _ _ = _
  rw [h.answer]
  rfl

theorem prepare_of_ownerless {passed : List String} {fieldId : String} {error : PatchError}
    (h : Answered pipeline context patch fields)
    (stop : StopsAt (ownerOf fields) patch.keys passed fieldId error) :
    pipeline.prepare context patch = ⟨[fieldCall context patch], .error error⟩ := by
  rw [prepare_of_answered h, groupByOwner_of_stopsAt stop, Traced.bind_of_error rfl]
  rfl

/-- With an owner for every field, what remains is to look up and to assign. -/
theorem prepare_of_owned (h : Owned pipeline context patch fields) :
    pipeline.prepare context patch =
      let rest : Traced PatchError (List Pending) := do
        let patches ← (shares fields patch).mapM pipeline.materialize
        Traced.ofExcept (patches.mapM pipeline.assign)
      ⟨fieldCall context patch :: rest.calls, rest.result⟩ := by
  obtain ⟨grouped, hgroup, hentries⟩ := groupByOwner_of_owned h.owned
  rw [prepare_of_answered h.toAnswered, hgroup, Traced.bind_of_ok rfl, hentries]
  rfl

theorem prepare_of_groupless {passed : List String} {groupId : String} {error : PatchError}
    (h : Owned pipeline context patch fields)
    (stop : StopsAt pipeline.groupOf (owners fields patch) passed groupId error) :
    pipeline.prepare context patch =
      ⟨preparation context patch (passed ++ [groupId]), .error error⟩ := by
  have stop' : StopsAt (fun entry => (pipeline.materialize entry).result) (shares fields patch)
      (passed.map fun groupId => (groupId, share fields patch groupId))
      (groupId, share fields patch groupId) error := by
    refine StopsAt.map (stop.transfer (fun groupId group pass =>
      ⟨⟨group, share fields patch groupId⟩, ?_⟩) fun _ _ fail => ?_)
    · exact (result_materialize _).trans (congrArg _ pass)
    · exact (result_materialize _).trans (congrArg _ fail)
  rw [prepare_of_owned h, Traced.mapM_of_stopsAt stop', Traced.bind_of_error rfl]
  have calls : ((passed ++ [groupId]).map fun groupId =>
      (groupId, share fields patch groupId)).flatMap
        (fun entry => (pipeline.materialize entry).calls) =
      (passed ++ [groupId]).map .lookupGroup := flatMap_calls_materialize _
  rw [List.map_append] at calls
  exact congrArg (Traced.mk · _) (congrArg _ calls)

/-- With a group for every owner, what remains is to assign. -/
theorem prepare_of_materialized (h : Materialized pipeline context patch fields groups) :
    pipeline.prepare context patch =
      ⟨preparation context patch (owners fields patch),
        (groups.map (assigned fields patch)).mapM pipeline.assign⟩ := by
  have pass' : Passes (fun entry => (pipeline.materialize entry).result) (shares fields patch)
      (groups.map (assigned fields patch)) := by
    refine passes_map_iff.2 (h.found.transfer fun groupId group pass => ?_)
    rw [assigned, (groupOf_eq_ok_iff.1 pass).2]
    exact (result_materialize _).trans (congrArg _ pass)
  rw [prepare_of_owned h.toOwned, Traced.mapM_of_passes pass', Traced.bind_of_ok rfl]
  refine congrArg (Traced.mk · _) (congrArg _ ?_)
  exact (List.append_nil _).trans (flatMap_calls_materialize _)

/-! ## Resolving -/

theorem keys_eq_nil_iff {values : Values} : values.keys = [] ↔ values.isEmpty = true :=
  List.map_eq_nil_iff.trans List.isEmpty_iff.symm

theorem length_keys (values : Values) : values.keys.length = values.size := List.length_map ..

theorem resolve_of_sized (h : Sized pipeline patch) :
    pipeline.resolve context patch =
      match (pipeline.prepare context patch).result with
      | .error error => ⟨atOnce (pipeline.prepare context patch).calls, 0, .error error⟩
      | .ok pending =>
        let run := dispatch pipeline.config.dispatch context pending
        { run with log := atOnce (pipeline.prepare context patch).calls ++ run.log } := by
  have bounded : ¬ pipeline.config.maxFields < patch.size :=
    Nat.not_lt.2 (length_keys patch ▸ h.bounded)
  rw [resolve]
  exact (if_neg fun isEmpty => h.nonempty (keys_eq_nil_iff.2 isEmpty)).trans (if_neg bounded)

/-- A patch that cannot be prepared is refused for that. -/
theorem resolve_of_unprepared {calls : List Call} {error : PatchError} (h : Sized pipeline patch)
    (fail : pipeline.prepare context patch = ⟨calls, .error error⟩) :
    (pipeline.resolve context patch).calls = calls ∧
      (pipeline.resolve context patch).outcome = .error error := by
  rw [resolve_of_sized h, fail]
  exact ⟨map_call_atOnce calls, rfl⟩

/-- A patch that is prepared is left to its handlers. -/
theorem resolve_of_prepared (h : Prepared pipeline context patch fields groups pending) :
    (pipeline.resolve context patch).calls =
        preparation context patch (owners fields patch)
          ++ (dispatch pipeline.config.dispatch context pending).calls ∧
      (pipeline.resolve context patch).outcome =
        (dispatch pipeline.config.dispatch context pending).outcome := by
  rw [resolve_of_sized h.toSized, prepare_of_materialized h.toMaterialized,
    mapM_of_passes h.guarded]
  refine ⟨?_, rfl⟩
  rw [Run.calls, List.map_append, map_call_atOnce]
  rfl

/-- The groups that are approved are those that were prepared, in the same order. -/
theorem Prepared.ids_of_passes {patches : List GroupPatch}
    (h : Prepared pipeline context patch fields groups pending)
    (approvals : Passes (Pending.outcome · context) pending patches) :
    patches.map (·.group.id) = owners fields patch := by
  rw [← h.ids]
  exact (approvals.map_eq fun _ _ pass =>
    congrArg Group.id (Pending.group_of_outcome_eq_ok pass)).symm

/-- **The rules are followed**: whatever they say of a patch, resolving it does. -/
theorem Resolves.sound {calls : List Call} {outcome : Except PatchError PatchResult}
    (h : Resolves pipeline context patch calls outcome) :
    (pipeline.resolve context patch).calls = calls ∧
      (pipeline.resolve context patch).outcome = outcome := by
  cases h with
  | empty h =>
    rw [resolve, if_pos (keys_eq_nil_iff.1 h)]
    exact ⟨rfl, rfl⟩
  | tooLarge h =>
    have nonempty : ¬ patch.isEmpty = true := fun isEmpty => by
      rw [keys_eq_nil_iff.2 isEmpty] at h
      exact Nat.not_lt_zero _ h
    rw [length_keys] at h ⊢
    rw [resolve, if_neg nonempty, if_pos h]
    exact ⟨rfl, rfl⟩
  | unanswered h fail => exact resolve_of_unprepared h (prepare_of_unanswered fail)
  | ownerless h stop => exact resolve_of_unprepared h.toSized (prepare_of_ownerless h stop)
  | groupless h stop => exact resolve_of_unprepared h.toSized (prepare_of_groupless h stop)
  | unguarded h split earlier none =>
    refine resolve_of_unprepared h.toSized ?_
    rw [prepare_of_materialized h,
      mapM_of_stopsAt (stopsAt_assign_iff.2 ⟨⟨_, split⟩, earlier, none, rfl⟩).map]
  | @approved _ _ _ patches result h approvals filed =>
    rw [← Pending.passes_iff_approve] at approvals
    obtain ⟨hcalls, houtcome⟩ := resolve_of_prepared h
    obtain ⟨asked, collected⟩ := dispatch_of_passes h.nodup_ids approvals pipeline.config.dispatch
    have ascending : (patches.map (·.group.id)).Pairwise (· < ·) :=
      h.ids_of_passes approvals ▸ pairwise_owners _ _
    refine ⟨hcalls.trans (congrArg _ asked), houtcome.trans (collected.trans ?_)⟩
    exact congrArg Except.ok
      (PatchResult.ext_toList ((PatchResult.toList_collect ascending).trans filed.symm))
  | refusedInTurn h mode fails =>
    have stop := Pending.stopsAt_iff_failsFirst.2 fails
    obtain ⟨hcalls, houtcome⟩ := resolve_of_prepared h
    rw [mode] at hcalls houtcome
    refine ⟨hcalls.trans (congrArg _ (calls_runSequentially_of_stopsAt stop)), ?_⟩
    exact houtcome.trans ((outcome_runSequentially ..).trans (joinOutcomes_of_stopsAt stop))
  | refusedTogether h mode fails =>
    have stop := Pending.stopsAt_iff_failsFirst.2 fails
    obtain ⟨hcalls, houtcome⟩ := resolve_of_prepared h
    rw [mode] at hcalls houtcome
    exact ⟨hcalls.trans (congrArg _ (calls_runTogether ..)),
      houtcome.trans (joinOutcomes_of_stopsAt stop)⟩

/-- **The rules leave no patch out.** -/
theorem exists_resolves (pipeline : Pipeline) (context : Context) (patch : Values) :
    ∃ calls outcome, Resolves pipeline context patch calls outcome := by
  by_cases nonempty : patch.keys = []
  · exact ⟨_, _, .empty nonempty⟩
  by_cases bounded : pipeline.config.maxFields < patch.keys.length
  · exact ⟨_, _, .tooLarge bounded⟩
  have sized : Sized pipeline patch := ⟨nonempty, Nat.not_lt.1 bounded⟩
  rcases answer : pipeline.registries.fields context.target patch.keys with cause | fields
  · exact ⟨_, _, .unanswered sized answer⟩
  have answered : Answered pipeline context patch fields := ⟨sized, answer⟩
  rcases passes_or_stopsAt (ownerOf fields) patch.keys with ⟨_, pass⟩ | ⟨_, _, _, stop⟩
  swap
  · exact ⟨_, _, .ownerless answered stop⟩
  have owned : Owned pipeline context patch fields :=
    ⟨answered, fun fieldId hmem => (pass.exists_of_mem hmem).imp fun _ found => found.2⟩
  rcases passes_or_stopsAt pipeline.groupOf (owners fields patch) with
    ⟨groups, found⟩ | ⟨_, _, _, stop⟩
  swap
  · exact ⟨_, _, .groupless owned stop⟩
  have materialized : Materialized pipeline context patch fields groups := ⟨owned, found⟩
  rcases passes_or_stopsAt pipeline.assign (groups.map (assigned fields patch)) with
    ⟨pending, guarded⟩ | ⟨_, _, _, stop⟩
  swap
  · obtain ⟨_, _, rfl, rfl, first⟩ := stop.exists_of_map
    obtain ⟨⟨_, split⟩, earlier, none, rfl⟩ := stopsAt_assign_iff.1 first
    exact ⟨_, _, .unguarded materialized split earlier none⟩
  have prepared : Prepared pipeline context patch fields groups pending := ⟨materialized, guarded⟩
  rcases passes_or_stopsAt (Pending.outcome · context) pending with
    ⟨patches, approvals⟩ | ⟨_, refused, error, stop⟩
  · refine ⟨_, _, .approved prepared (Pending.passes_iff_approve.1 approvals)
      (PatchResult.toList_collect ?_)⟩
    exact prepared.ids_of_passes approvals ▸ pairwise_owners _ _
  rcases mode : pipeline.config.dispatch with _ | _
  swap
  · exact ⟨_, _, .refusedInTurn prepared mode (Pending.stopsAt_iff_failsFirst.1 stop)⟩
  rcases passes_or_stopsAt (Pending.outcome · context) (completionOrder context pending) with
    ⟨_, approvals⟩ | ⟨_, _, _, first⟩
  · obtain ⟨_, pass, -⟩ := approvals.exists_of_perm (completionOrder_perm context pending).symm
    exact absurd stop pass.not_stopsAt
  · exact ⟨_, _, .refusedTogether prepared mode (Pending.stopsAt_iff_failsFirst.1 first)⟩

/-- What resolving a patch does is what the rules say. -/
theorem resolves_resolve (pipeline : Pipeline) (context : Context) (patch : Values) :
    Resolves pipeline context patch (pipeline.resolve context patch).calls
      (pipeline.resolve context patch).outcome := by
  obtain ⟨calls, outcome, h⟩ := exists_resolves pipeline context patch
  obtain ⟨rfl, rfl⟩ := h.sound
  exact h

/-- **What resolving a patch can ask**: the fields of the patch, groups, and handlers. -/
theorem mem_calls_resolve {call : Call} (h : call ∈ (pipeline.resolve context patch).calls) :
    call = fieldCall context patch ∨ (∃ groupId, call = .lookupGroup groupId) ∨
      ∃ one : Pending, call = one.call context := by
  have prepared (groupIds : List String) (h : call ∈ preparation context patch groupIds) :
      call = fieldCall context patch ∨ ∃ groupId, call = .lookupGroup groupId := by
    refine (List.mem_cons.1 h).imp_right fun h => ?_
    obtain ⟨groupId, -, rfl⟩ := List.mem_map.1 h
    exact ⟨groupId, rfl⟩
  have both (groupIds : List String) (pending : List Pending)
      (h : call ∈ preparation context patch groupIds ++ pending.map (·.call context)) :
      (call = fieldCall context patch ∨ ∃ groupId, call = .lookupGroup groupId) ∨
        ∃ one : Pending, call = one.call context := by
    refine (List.mem_append.1 h).imp (prepared groupIds) fun asked => ?_
    obtain ⟨one, -, rfl⟩ := List.mem_map.1 asked
    exact ⟨one, rfl⟩
  rw [← or_assoc]
  have rules := resolves_resolve pipeline context patch
  generalize (pipeline.resolve context patch).calls = calls,
    (pipeline.resolve context patch).outcome = outcome at rules h
  cases rules with
  | empty | tooLarge => cases h
  | unanswered | ownerless => exact .inl (prepared [] h)
  | groupless | unguarded => exact .inl (prepared _ h)
  | approved | refusedInTurn | refusedTogether => exact both _ _ h

/-- **Where an approved entry comes from**: its group owns a share of the patch, and the handler
registered under the name of the group was asked about that share and returned the entry. -/
theorem exists_approval {approved : PatchResult} {key : String} {entry : GroupPatch}
    (resolved : (pipeline.resolve context patch).outcome = .ok approved)
    (hentry : (key, entry) ∈ approved.toList) :
    ∃ fields handler, Owned pipeline context patch fields ∧ key ∈ owners fields patch ∧
      pipeline.registries.group key = .ok entry.group ∧ entry.group.id = key ∧
      pipeline.handlers.get? entry.group.name = some handler ∧
      .authorize context entry.group.name (share fields patch key) ∈
        (pipeline.resolve context patch).calls ∧
      (handler context entry.group.name (share fields patch key)).verdict =
        .approved entry.values := by
  have rules := resolves_resolve pipeline context patch
  rw [resolved] at rules
  generalize (pipeline.resolve context patch).calls = calls at rules ⊢
  cases rules with
  | empty => cases hentry
  | @approved fields _ pending _ _ h approvals filed =>
    rw [← Pending.passes_iff_approve] at approvals
    rw [filed] at hentry
    obtain ⟨approvedPatch, hpatch, same⟩ := List.mem_map.1 hentry
    obtain ⟨rfl, rfl⟩ := Prod.mk.inj same
    obtain ⟨⟨_, handler⟩, hone, houtcome⟩ := approvals.exists_of_mem_values hpatch
    obtain ⟨values, verdict, rfl⟩ := Pending.outcome_eq_ok_iff.1 houtcome
    obtain ⟨_, hgroupPatch, hassign⟩ := h.guarded.exists_of_mem_values hone
    obtain ⟨group, hgroup, rfl⟩ := List.mem_map.1 hgroupPatch
    obtain ⟨rfl, registered⟩ := assign_eq_ok_iff.1 hassign
    obtain ⟨groupId, howner, hfound⟩ := h.found.exists_of_mem_values hgroup
    obtain ⟨known, rfl⟩ := groupOf_eq_ok_iff.1 hfound
    refine ⟨fields, handler, h.toOwned, howner, known, rfl, registered, ?_, verdict⟩
    exact List.mem_append_right _ (List.mem_map.2 ⟨_, hone, rfl⟩)

/-- **Every owner has its entry in what is approved.** -/
theorem exists_entry_of_owner {approved : PatchResult} {key : String}
    (resolved : (pipeline.resolve context patch).outcome = .ok approved)
    (owned : Owned pipeline context patch fields) (owner : key ∈ owners fields patch) :
    ∃ entry, (key, entry) ∈ approved.toList := by
  have rules := resolves_resolve pipeline context patch
  rw [resolved] at rules
  generalize (pipeline.resolve context patch).calls = calls at rules
  cases rules with
  | empty none => exact absurd none owned.nonempty
  | @approved fields' _ _ patches _ h approvals filed =>
    rw [← Pending.passes_iff_approve] at approvals
    obtain rfl : fields' = fields := Except.ok.inj (h.answer.symm.trans owned.answer)
    rw [← h.ids_of_passes approvals] at owner
    obtain ⟨entry, hentry, rfl⟩ := List.mem_map.1 owner
    exact ⟨entry, filed ▸ List.mem_map.2 ⟨entry, hentry, rfl⟩⟩

/-- **Resolving a patch follows the rules and nothing else.** -/
theorem resolve_iff_resolves (pipeline : Pipeline) (context : Context) (patch : Values)
    (calls : List Call) (outcome : Except PatchError PatchResult) :
    Resolves pipeline context patch calls outcome ↔
      (pipeline.resolve context patch).calls = calls ∧
        (pipeline.resolve context patch).outcome = outcome := by
  refine ⟨Resolves.sound, ?_⟩
  rintro ⟨rfl, rfl⟩
  exact resolves_resolve pipeline context patch

end Pipeline

end PropertyGate
