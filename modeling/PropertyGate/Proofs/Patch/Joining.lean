import PropertyGate.Proofs.Patch.Dispatch
import PropertyGate.Proofs.Turns

/-!
# Proofs/Patch/Joining — handlers as tasks that are joined

Every handler runs as a task of its own.  One loop serves both modes: it spawns a task for each
group, and in sequence it joins a task after each; a second loop joins the tasks that are left.  The
first failure that is joined ends the loop and drops the other tasks.  Tasks take their turns
whenever they like, and the loop joins any task that is finished (`Dispatching.Step`).

In either mode the turns come to an end, and the loop has returned then (`Dispatching.exists_step`,
`Dispatching.length_le`).  In sequence the loop waits for the one task that it has just spawned
(`Dispatching.InTurn`), so that **the handlers are called one after the other, up to the first that
fails, and the second loop finds no task** (`Dispatching.sequential_stops_at_first_failure`).
-/

namespace PropertyGate

/-- How far a task has come. -/
inductive TaskStage where
  | spawned
  /-- The handler is called. -/
  | running
  /-- The handler has answered or crashed. -/
  | finished
deriving DecidableEq, Repr

/-- Where the loop over the groups is. -/
inductive LoopStage where
  | spawning
  /-- A group was spawned in sequence, and a task is to be joined before the next. -/
  | awaiting
  /-- All groups were spawned, and the tasks that are left are joined. -/
  | draining
  | returned (outcome : Except PatchError PatchResult)

namespace LoopStage

/-- Whether the loop joins a task. -/
def joins : LoopStage → Bool
  | .awaiting => true
  | .draining => true
  | _ => false

/-- Where the loop is when a task was joined that did not fail. -/
def afterJoin : LoopStage → LoopStage
  | .awaiting => .spawning
  | stage => stage

/-- The turns that the loop has before it, apart from those for groups and tasks. -/
def turnsLeft : LoopStage → Nat
  | .spawning => 2
  | .awaiting => 3
  | .draining => 1
  | .returned _ => 0

theorem turnsLeft_afterJoin (stage : LoopStage) : stage.afterJoin.turnsLeft ≤ stage.turnsLeft := by
  cases stage <;> simp [afterJoin, turnsLeft]

end LoopStage

/-- **A dispatch under way**: the groups that are not spawned yet, the tasks, and what was
collected. -/
structure Dispatching where
  waiting : List Pending
  tasks : List (Pending × TaskStage) := []
  result : PatchResult := .empty
  stage : LoopStage := .spawning

/-- A turn of the loop or of a task. -/
inductive DispatchTurn where
  | spawn (one : Pending)
  /-- The task calls its handler. -/
  | call (one : Pending)
  | finish (one : Pending)
  | join (one : Pending)
  /-- There is no task to join. -/
  | joinNone
  /-- There is no group to spawn any more. -/
  | drain

/-- What a handler goes through. -/
inductive HandlerEvent where
  | called (one : Pending)
  | finished (one : Pending)

/-- The call that is made. -/
def HandlerEvent.call? (context : Context) : HandlerEvent → Option Call
  | .called one => some (one.call context)
  | .finished _ => none

/-- What a turn does to a handler. -/
def DispatchTurn.events : DispatchTurn → List HandlerEvent
  | .call one => [.called one]
  | .finish one => [.finished one]
  | .spawn _ => []
  | .join _ => []
  | .joinNone => []
  | .drain => []

/-- The turns that a task has before it. -/
def TaskStage.turnsLeft : TaskStage → Nat
  | .spawned => 3
  | .running => 2
  | .finished => 1

/-- What the handler of a task has gone through. -/
def TaskStage.events (one : Pending) : TaskStage → List HandlerEvent
  | .spawned => []
  | .running => [.called one]
  | .finished => [.called one, .finished one]

/-- **Handlers that are called one after the other**, each when the one before it has finished. -/
def oneByOne (ran : List Pending) : List HandlerEvent :=
  ran.flatMap fun one => TaskStage.finished.events one

theorem oneByOne_append (ran more : List Pending) :
    oneByOne (ran ++ more) = oneByOne ran ++ oneByOne more := List.flatMap_append ..

theorem oneByOne_concat (ran : List Pending) (one : Pending) :
    oneByOne (ran ++ [one]) = oneByOne ran ++ TaskStage.finished.events one := by
  simp [oneByOne]

theorem filterMap_oneByOne (context : Context) (ran : List Pending) :
    (oneByOne ran).filterMap (·.call? context) = ran.map (·.call context) := by
  induction ran with
  | nil => rfl
  | cons one rest ih => exact congrArg (one.call context :: ·) ih

theorem oneByOne_cons (one : Pending) (more : List Pending) :
    oneByOne (one :: more) = TaskStage.finished.events one ++ oneByOne more := rfl

namespace Dispatching

variable (mode : DispatchMode) (context : Context)

/-- **What a turn does.**  Turns of tasks can be taken in any order. -/
inductive Step : Dispatching → DispatchTurn → Dispatching → Prop where
  | spawn {now : Dispatching} {one : Pending} {rest : List Pending}
      (spawning : now.stage = .spawning) (next : now.waiting = one :: rest) :
      Step now (.spawn one)
        { now with
          waiting := rest
          tasks := now.tasks ++ [(one, .spawned)]
          stage := if mode = .sequential then .awaiting else .spawning }
  | call {now : Dispatching} {one : Pending} {before after : List (Pending × TaskStage)}
      (spawned : now.tasks = before ++ (one, .spawned) :: after) :
      Step now (.call one) { now with tasks := before ++ (one, .running) :: after }
  | finish {now : Dispatching} {one : Pending} {before after : List (Pending × TaskStage)}
      (running : now.tasks = before ++ (one, .running) :: after) :
      Step now (.finish one) { now with tasks := before ++ (one, .finished) :: after }
  | take {now : Dispatching} {one : Pending} {before after : List (Pending × TaskStage)}
      {patch : GroupPatch} (joins : now.stage.joins = true)
      (finished : now.tasks = before ++ (one, .finished) :: after)
      (success : one.outcome context = .ok patch) :
      Step now (.join one)
        { now with
          tasks := before ++ after
          result := now.result.insert patch
          stage := now.stage.afterJoin }
  /-- The other tasks are dropped. -/
  | fail {now : Dispatching} {one : Pending} {before after : List (Pending × TaskStage)}
      {error : PatchError} (joins : now.stage.joins = true)
      (finished : now.tasks = before ++ (one, .finished) :: after)
      (failure : one.outcome context = .error error) :
      Step now (.join one) { now with tasks := [], stage := .returned (.error error) }
  | skip {now : Dispatching} (awaiting : now.stage = .awaiting) (none : now.tasks = []) :
      Step now .joinNone { now with stage := .spawning }
  | drain {now : Dispatching} (spawning : now.stage = .spawning) (none : now.waiting = []) :
      Step now .drain { now with stage := .draining }
  | gather {now : Dispatching} (draining : now.stage = .draining) (none : now.tasks = []) :
      Step now .joinNone { now with stage := .returned (.ok now.result) }

variable {mode context} {before after now : Dispatching} {turn : DispatchTurn}
  {turns : List DispatchTurn} {pending : List Pending} {events : List HandlerEvent}

/-! ## The turns come to an end -/

/-- A task that is waited for can go on, or is joined. -/
theorem exists_step_of_task {task : Pending × TaskStage} {rest : List (Pending × TaskStage)}
    (joins : now.stage.joins = true) (tasks : now.tasks = task :: rest) :
    ∃ turn next, Step mode context now turn next := by
  obtain ⟨one, stage⟩ := task
  have first : now.tasks = [] ++ (one, stage) :: rest := tasks
  cases stage with
  | spawned => exact ⟨_, _, .call first⟩
  | running => exact ⟨_, _, .finish first⟩
  | finished =>
    cases outcome : one.outcome context with
    | ok patch => exact ⟨_, _, .take joins first outcome⟩
    | error error => exact ⟨_, _, .fail joins first outcome⟩

/-- **A loop that has not returned can go on**, or one of its tasks can. -/
theorem exists_step (running : ∀ outcome, now.stage ≠ .returned outcome) :
    ∃ turn next, Step mode context now turn next := by
  cases stage : now.stage with
  | spawning =>
    cases waiting : now.waiting with
    | nil => exact ⟨_, _, .drain stage waiting⟩
    | cons one rest => exact ⟨_, _, .spawn stage waiting⟩
  | awaiting =>
    cases tasks : now.tasks with
    | nil => exact ⟨_, _, .skip stage tasks⟩
    | cons task rest => exact exists_step_of_task (by rw [stage]; rfl) tasks
  | draining =>
    cases tasks : now.tasks with
    | nil => exact ⟨_, _, .gather stage tasks⟩
    | cons task rest => exact exists_step_of_task (by rw [stage]; rfl) tasks
  | returned outcome => exact absurd stage (running outcome)

/-- The turns that tasks have before them. -/
def turnsOfTasks (tasks : List (Pending × TaskStage)) : Nat :=
  tasks.foldr (fun task turns => task.2.turnsLeft + turns) 0

theorem turnsOfTasks_nil : turnsOfTasks [] = 0 := rfl

theorem turnsOfTasks_cons (task : Pending × TaskStage) (rest : List (Pending × TaskStage)) :
    turnsOfTasks (task :: rest) = task.2.turnsLeft + turnsOfTasks rest := rfl

theorem turnsOfTasks_append (tasks others : List (Pending × TaskStage)) :
    turnsOfTasks (tasks ++ others) = turnsOfTasks tasks + turnsOfTasks others := by
  induction tasks with
  | nil => exact (Nat.zero_add _).symm
  | cons task rest ih =>
    exact (congrArg (task.2.turnsLeft + ·) ih).trans (Nat.add_assoc ..).symm

/-- At most so many turns are left: five for a group that waits, fewer for a task and the loop. -/
def turnsLeft (now : Dispatching) : Nat :=
  5 * now.waiting.length + turnsOfTasks now.tasks + now.stage.turnsLeft

/-- Every turn leaves fewer turns. -/
theorem Step.turnsLeft_lt (h : Step mode context before turn after) :
    after.turnsLeft < before.turnsLeft := by
  cases h with
  | spawn spawning next =>
    simp only [turnsLeft, spawning, next, List.length_cons, turnsOfTasks_append,
      turnsOfTasks_cons, turnsOfTasks_nil, TaskStage.turnsLeft]
    split <;> simp only [LoopStage.turnsLeft] <;> omega
  | call tasks | finish tasks =>
    simp only [turnsLeft, tasks, turnsOfTasks_append, turnsOfTasks_cons, TaskStage.turnsLeft]
    omega
  | take _ tasks =>
    have := before.stage.turnsLeft_afterJoin
    simp only [turnsLeft, tasks, turnsOfTasks_append, turnsOfTasks_cons, TaskStage.turnsLeft]
    omega
  | fail _ tasks =>
    simp only [turnsLeft, tasks, turnsOfTasks_append, turnsOfTasks_cons, turnsOfTasks_nil,
      TaskStage.turnsLeft, LoopStage.turnsLeft]
    omega
  | skip stage none | gather stage none | drain stage none =>
    simp only [turnsLeft, none, stage, LoopStage.turnsLeft]
    omega

theorem length_add_turnsLeft_le (h : Turns (Step mode context) before turns after) :
    turns.length + after.turnsLeft ≤ before.turnsLeft := by
  induction h with
  | stay => exact Nat.le_of_eq (Nat.zero_add _)
  | move first _ ih =>
    have := first.turnsLeft_lt
    rw [List.length_cons]
    omega

/-- **A dispatch takes at most five turns for each group, and two more.** -/
theorem length_le (reached : Turns (Step mode context) { waiting := pending } turns now) :
    turns.length ≤ 5 * pending.length + 2 :=
  Nat.le_trans (Nat.le_add_right ..) (length_add_turnsLeft_le reached)

/-! ## In sequence -/

variable (context pending) in
/-- **How far a dispatch in sequence has come**, and what its handlers have gone through: whatever
was joined has approved, and the only task is the one that was spawned last. -/
inductive InTurn : List HandlerEvent → Dispatching → Prop where
  | spawning {joined rest : List Pending} {patches : List GroupPatch}
      (split : pending = joined ++ rest)
      (approvals : Passes (Pending.outcome · context) joined patches) :
      InTurn (oneByOne joined) ⟨rest, [], .collect patches, .spawning⟩
  | awaiting {joined rest : List Pending} {one : Pending} {patches : List GroupPatch}
      (task : TaskStage) (split : pending = joined ++ one :: rest)
      (approvals : Passes (Pending.outcome · context) joined patches) :
      InTurn (oneByOne joined ++ task.events one)
        ⟨rest, [(one, task)], .collect patches, .awaiting⟩
  | draining {patches : List GroupPatch}
      (approvals : Passes (Pending.outcome · context) pending patches) :
      InTurn (oneByOne pending) ⟨[], [], .collect patches, .draining⟩
  | approved {patches : List GroupPatch}
      (approvals : Passes (Pending.outcome · context) pending patches) :
      InTurn (oneByOne pending) ⟨[], [], .collect patches, .returned (.ok (.collect patches))⟩
  | failed {passed rest : List Pending} {one : Pending} {error : PatchError} {result : PatchResult}
      (stops : StopsAt (Pending.outcome · context) pending passed one error) :
      InTurn (oneByOne (passed ++ [one])) ⟨rest, [], result, .returned (.error error)⟩

/-- Of one task, the first is the only one. -/
theorem eq_of_singleton {α : Type} {one other : α} {before after : List α}
    (h : [one] = before ++ other :: after) : before = [] ∧ other = one ∧ after = [] := by
  cases before with
  | nil => simpa [eq_comm] using h
  | cons head rest => simp at h

section Turn

variable {waiting : List Pending} {one : Pending} {task : TaskStage} {result : PatchResult}

/-- Without a task, the loop spawns the next group, if there is one. -/
theorem Step.of_spawning
    (h : Step .sequential context ⟨waiting, [], result, .spawning⟩ turn after) :
    (∃ one rest, waiting = one :: rest ∧ turn = .spawn one ∧
        after = ⟨rest, [(one, .spawned)], result, .awaiting⟩) ∨
      waiting = [] ∧ turn = .drain ∧ after = ⟨waiting, [], result, .draining⟩ := by
  cases h with
  | spawn _ next => exact .inl ⟨_, _, next, rfl, rfl⟩
  | drain _ none => exact .inr ⟨none, rfl, rfl⟩
  | call tasks | finish tasks => simp at tasks
  | take joins | fail joins => cases joins
  | skip stage | gather stage => cases stage

/-- **The loop waits for the task that it has just spawned**, and joins it when it is finished. -/
theorem Step.of_awaiting
    (h : Step mode context ⟨waiting, [(one, task)], result, .awaiting⟩ turn after) :
    (task = .spawned ∧ turn = .call one ∧
        after = ⟨waiting, [(one, .running)], result, .awaiting⟩) ∨
      (task = .running ∧ turn = .finish one ∧
        after = ⟨waiting, [(one, .finished)], result, .awaiting⟩) ∨
      task = .finished ∧ turn = .join one ∧
        ((∃ patch, one.outcome context = .ok patch ∧
            after = ⟨waiting, [], result.insert patch, .spawning⟩) ∨
          ∃ error, one.outcome context = .error error ∧
            after = ⟨waiting, [], result, .returned (.error error)⟩) := by
  cases h with
  | spawn stage | drain stage | gather stage => cases stage
  | skip _ none => cases none
  | call tasks =>
    obtain ⟨rfl, same, rfl⟩ := eq_of_singleton tasks
    cases same
    exact .inl ⟨rfl, rfl, rfl⟩
  | finish tasks =>
    obtain ⟨rfl, same, rfl⟩ := eq_of_singleton tasks
    cases same
    exact .inr (.inl ⟨rfl, rfl, rfl⟩)
  | take _ tasks success =>
    obtain ⟨rfl, same, rfl⟩ := eq_of_singleton tasks
    cases same
    exact .inr (.inr ⟨rfl, rfl, .inl ⟨_, success, rfl⟩⟩)
  | fail _ tasks failure =>
    obtain ⟨rfl, same, rfl⟩ := eq_of_singleton tasks
    cases same
    exact .inr (.inr ⟨rfl, rfl, .inr ⟨_, failure, rfl⟩⟩)

/-- Where no task is left, the second loop returns at once. -/
theorem Step.of_draining (h : Step mode context ⟨waiting, [], result, .draining⟩ turn after) :
    turn = .joinNone ∧ after = ⟨waiting, [], result, .returned (.ok result)⟩ := by
  cases h with
  | gather => exact ⟨rfl, rfl⟩
  | spawn stage | drain stage | skip stage => cases stage
  | call tasks | finish tasks | take _ tasks | fail _ tasks => simp at tasks

/-- A loop that has returned, with no task left, takes no turn. -/
theorem not_step_of_returned {outcome : Except PatchError PatchResult} :
    ¬ Step mode context ⟨waiting, [], result, .returned outcome⟩ turn after := by
  intro h
  cases h with
  | call tasks | finish tasks => simp at tasks
  | take joins | fail joins => cases joins
  | spawn stage | drain stage | skip stage | gather stage => cases stage

end Turn

/-- A turn that does nothing to a handler. -/
theorem InTurn.quiet (h : InTurn context pending events after) (quiet : turn.events = []) :
    InTurn context pending (events ++ turn.events) after := by
  rwa [quiet, List.append_nil]

/-- A turn that takes a task further. -/
theorem InTurn.further {joined rest : List Pending} {one : Pending} {patches : List GroupPatch}
    (task next : TaskStage) (split : pending = joined ++ one :: rest)
    (approvals : Passes (Pending.outcome · context) joined patches)
    (more : next.events one = task.events one ++ turn.events) :
    InTurn context pending (oneByOne joined ++ task.events one ++ turn.events)
      ⟨rest, [(one, next)], .collect patches, .awaiting⟩ := by
  rw [List.append_assoc, ← more]
  exact .awaiting next split approvals

/-- **Every turn in sequence keeps the handlers in turn.** -/
theorem Step.inTurn (h : Step .sequential context before turn after)
    (sound : InTurn context pending events before) :
    InTurn context pending (events ++ turn.events) after := by
  cases sound with
  | spawning split approvals =>
    obtain ⟨one, rest, rfl, rfl, rfl⟩ | ⟨rfl, rfl, rfl⟩ := h.of_spawning
    · exact .awaiting .spawned split approvals
    · obtain rfl := split.trans (List.append_nil _)
      exact (InTurn.draining approvals).quiet rfl
  | awaiting task split approvals =>
    obtain ⟨rfl, rfl, rfl⟩ | ⟨rfl, rfl, rfl⟩ | ⟨rfl, rfl, joined⟩ := h.of_awaiting
    · exact .further .spawned .running split approvals rfl
    · exact .further .running .finished split approvals rfl
    · -- Whatever is joined is the task of the group that follows those that were joined before.
      rw [← oneByOne_concat]
      obtain ⟨patch, success, rfl⟩ | ⟨error, failure, rfl⟩ := joined
      · rw [← PatchResult.collect_concat]
        refine (InTurn.spawning ?_ (approvals.append (.cons success .nil))).quiet rfl
        exact split.trans (List.append_cons ..)
      · exact (InTurn.failed (split ▸ approvals.stopsAt failure _)).quiet rfl
  | draining approvals =>
    obtain ⟨rfl, rfl⟩ := h.of_draining
    exact (InTurn.approved approvals).quiet rfl
  | approved | failed => exact absurd h not_step_of_returned

theorem inTurn_of_turns
    (h : Turns (Step .sequential context) before turns after)
    (sound : InTurn context pending events before) :
    InTurn context pending (events ++ turns.flatMap DispatchTurn.events) after := by
  induction h generalizing events with
  | stay => exact (List.append_nil events).symm ▸ sound
  | move first _ ih =>
    rw [List.flatMap_cons, ← List.append_assoc]
    exact ih (first.inTurn sound)

theorem inTurn_of_reached (h : Turns (Step .sequential context) { waiting := pending } turns now) :
    InTurn context pending (turns.flatMap DispatchTurn.events) now :=
  inTurn_of_turns h (@InTurn.spawning context pending [] pending [] rfl .nil)

theorem events_prefix_finished (one : Pending) (task : TaskStage) :
    task.events one <+: TaskStage.finished.events one := by
  cases task with
  | spawned => exact List.nil_prefix
  | running => exact ⟨[.finished one], rfl⟩
  | finished => exact List.prefix_refl _

/-- **At any time, the handlers have gone through a part of what they go through one by one.** -/
theorem InTurn.isPrefix (h : InTurn context pending events now) :
    events <+: oneByOne (throughFirstFailure context pending) := by
  cases h with
  | spawning split approvals =>
    rw [split, throughFirstFailure_append approvals, oneByOne_append]
    exact List.prefix_append ..
  | @awaiting joined rest one patches task split approvals =>
    obtain ⟨more, run⟩ := exists_throughFirstFailure_cons context one rest
    rw [split, throughFirstFailure_append approvals, oneByOne_append, run, oneByOne_cons]
    refine (List.prefix_append_right_inj _).2 ?_
    exact (events_prefix_finished one task).trans (List.prefix_append ..)
  | draining approvals | approved approvals =>
    have all := congrArg oneByOne (throughFirstFailure_of_passes approvals)
    exact all.symm ▸ List.prefix_refl _
  | failed stops =>
    have all := congrArg oneByOne (throughFirstFailure_of_stopsAt stops)
    exact all.symm ▸ List.prefix_refl _

/-! ## Turns that are not interrupted -/

/-- The turns of a task from the time it is spawned. -/
def turnsOf (one : Pending) : List DispatchTurn := [.spawn one, .call one, .finish one, .join one]

theorem turns_of_approved {one : Pending} {rest : List Pending} {result : PatchResult}
    {patch : GroupPatch} (success : one.outcome context = .ok patch) :
    Turns (Step .sequential context) ⟨one :: rest, [], result, .spawning⟩ (turnsOf one)
      ⟨rest, [], result.insert patch, .spawning⟩ :=
  .move (.spawn rfl rfl) <| .move (@Step.call _ _ _ one [] [] rfl) <|
    .move (@Step.finish _ _ _ one [] [] rfl) <|
    .move (@Step.take _ _ _ one [] [] patch rfl rfl success) <| .stay _

theorem turns_of_failed {one : Pending} {rest : List Pending} {result : PatchResult}
    {error : PatchError} (failure : one.outcome context = .error error) :
    Turns (Step .sequential context) ⟨one :: rest, [], result, .spawning⟩ (turnsOf one)
      ⟨rest, [], result, .returned (.error error)⟩ :=
  .move (.spawn rfl rfl) <| .move (@Step.call _ _ _ one [] [] rfl) <|
    .move (@Step.finish _ _ _ one [] [] rfl) <|
    .move (@Step.fail _ _ _ one [] [] error rfl rfl failure) <| .stay _

theorem turns_of_passes {joined : List Pending} {patches : List GroupPatch}
    (approvals : Passes (Pending.outcome · context) joined patches) (rest : List Pending)
    (result : PatchResult) :
    Turns (Step .sequential context) ⟨joined ++ rest, [], result, .spawning⟩
      (joined.flatMap turnsOf) ⟨rest, [], patches.foldl PatchResult.insert result, .spawning⟩ := by
  induction approvals generalizing result with
  | nil => exact .stay _
  | cons success _ ih => exact (turns_of_approved success).append (ih _)

/-- **What `dispatch` does in sequence, the loop does turn by turn.** -/
theorem exists_turns_dispatch (context : Context) (pending : List Pending) :
    ∃ turns now, Turns (Step .sequential context) { waiting := pending } turns now ∧
      now.stage = .returned (dispatch .sequential context pending).outcome := by
  have joins : (dispatch .sequential context pending).outcome =
      joinOutcomes (pending.map (·.outcome context)) := outcome_runSequentially context pending
  rcases passes_or_stopsAt (Pending.outcome · context) pending with
    ⟨patches, approvals⟩ | ⟨passed, failed, error, stops⟩
  · rw [joins, joinOutcomes_of_passes approvals]
    have spawned := turns_of_passes approvals [] .empty
    rw [List.append_nil] at spawned
    exact ⟨_, _, spawned.append (.move (.drain rfl rfl) (.move (.gather rfl rfl) (.stay _))), rfl⟩
  · rw [joins, joinOutcomes_of_stopsAt stops]
    obtain ⟨rest, rfl⟩ := stops.exists_append
    obtain ⟨patches, approvals⟩ := stops.exists_passes
    exact ⟨_, _, (turns_of_passes approvals _ .empty).append (turns_of_failed stops.check_failed),
      rfl⟩

/-! ## What a dispatch in sequence comes to -/

variable (context pending) in
/-- **What a dispatch comes to**, and what the handlers went through for it. -/
inductive ComesTo : List HandlerEvent → Except PatchError PatchResult → Prop where
  /-- All handlers approve, and the result holds what they returned and nothing else. -/
  | approved {result : PatchResult}
      (holds : ∀ one ∈ pending, ∃ values, (one.reply context).verdict = .approved values ∧
        result.get? one.patch.group.id = some { one.patch with values })
      (only : result.toList.map Prod.fst = pending.map (·.patch.group.id)) :
      ComesTo (oneByOne pending) (.ok result)
  /-- A handler fails that those before it did not, and those after it are not called. -/
  | failed {passed rest : List Pending} {one : Pending} {error : PatchError}
      (split : pending = passed ++ one :: rest)
      (earlier : ∀ other ∈ passed, ∃ values, (other.reply context).verdict = .approved values)
      (fails : one.Fails context error) :
      ComesTo (oneByOne (passed ++ [one])) (.error error)

theorem comesTo_of_passes {patches : List GroupPatch}
    (ascending : (pending.map (·.patch.group.id)).Pairwise (· < ·))
    (approvals : Passes (Pending.outcome · context) pending patches) :
    ComesTo context pending (oneByOne pending) (.ok (.collect patches)) := by
  have ids : pending.map (·.patch.group.id) = patches.map (·.group.id) :=
    approvals.map_eq fun _ _ pass => congrArg Group.id (Pending.group_of_outcome_eq_ok pass)
  have listed := PatchResult.toList_collect (ids ▸ ascending)
  refine .approved (fun one mem => ?_) (by rw [listed, ids, List.map_map]; rfl)
  obtain ⟨patch, returned, success⟩ := approvals.exists_of_mem mem
  obtain ⟨values, verdict, rfl⟩ := Pending.outcome_eq_ok_iff.1 success
  have filed : (one.patch.group.id, { one.patch with values }) ∈
      (PatchResult.collect patches).toList := listed ▸ List.mem_map_of_mem returned
  exact ⟨values, verdict, TextMap.mem_entries_iff.1 filed⟩

theorem comesTo_of_stopsAt {passed : List Pending} {one : Pending} {error : PatchError}
    (stops : StopsAt (Pending.outcome · context) pending passed one error) :
    ComesTo context pending (oneByOne (passed ++ [one])) (.error error) := by
  obtain ⟨rest, split⟩ := stops.exists_append
  obtain ⟨patches, approvals⟩ := stops.exists_passes
  refine .failed split (fun other mem => ?_) (Pending.outcome_eq_error_iff.1 stops.check_failed)
  obtain ⟨patch, -, success⟩ := approvals.exists_of_mem mem
  exact (Pending.outcome_eq_ok_iff.1 success).imp fun _ approved => approved.1

/-- **A dispatch in sequence that has returned has called the handlers through the first failure**,
as `dispatch` does, and returned what comes of that. -/
theorem InTurn.returned {outcome : Except PatchError PatchResult}
    (ascending : (pending.map (·.patch.group.id)).Pairwise (· < ·))
    (h : InTurn context pending events now) (returned : now.stage = .returned outcome) :
    let run := dispatch .sequential context pending
    events = oneByOne (throughFirstFailure context pending) ∧
      events.filterMap (·.call? context) = run.calls ∧ outcome = run.outcome ∧
      ComesTo context pending events outcome := by
  intro run
  have calls : (oneByOne (throughFirstFailure context pending)).filterMap (·.call? context) =
      run.calls := (filterMap_oneByOne context _).trans (calls_runSequentially ..).symm
  have joins : run.outcome = joinOutcomes (pending.map (·.outcome context)) :=
    outcome_runSequentially context pending
  cases h with
  | spawning | awaiting | draining => cases returned
  | approved approvals =>
    cases returned
    rw [throughFirstFailure_of_passes approvals] at calls ⊢
    rw [joins, joinOutcomes_of_passes approvals]
    exact ⟨rfl, calls, rfl, comesTo_of_passes ascending approvals⟩
  | failed stops =>
    cases returned
    rw [throughFirstFailure_of_stopsAt stops] at calls ⊢
    rw [joins, joinOutcomes_of_stopsAt stops]
    exact ⟨rfl, calls, rfl, comesTo_of_stopsAt stops⟩

/-- **In sequence, the handlers of groups that ascend are called one after the other, each when the
one before it has finished, up to the first that refuses or crashes.**  However the turns of the
loop and of the tasks interleave, there are not many of them, and they do not stop before the loop
has returned: with the error of the first handler that failed, or with what every one of them
returned. -/
theorem sequential_stops_at_first_failure
    (ascending : (pending.map (·.patch.group.id)).Pairwise (· < ·))
    (reached : Turns (Step .sequential context) { waiting := pending } turns now) :
    let ran := throughFirstFailure context pending
    let run := dispatch .sequential context pending
    let events := turns.flatMap DispatchTurn.events
    (ran.map (·.patch.group.id)).Pairwise (· < ·) ∧ events <+: oneByOne ran ∧
      turns.length ≤ 5 * pending.length + 2 ∧
      ((∀ outcome, now.stage ≠ .returned outcome) →
        ∃ turn next, Step .sequential context now turn next) ∧
      ∀ outcome, now.stage = .returned outcome →
        events = oneByOne ran ∧ events.filterMap (·.call? context) = run.calls ∧
          outcome = run.outcome ∧ ComesTo context pending events outcome := by
  intro ran run events
  have sound : InTurn context pending events now := inTurn_of_reached reached
  refine ⟨ascending.sublist ?_, sound.isPrefix, length_le reached, exists_step,
    fun outcome => sound.returned ascending⟩
  exact (throughFirstFailure_sublist context pending).map _

/-- Of three handlers the second crashes: the third is not called, and the crash is returned. -/
theorem crash_stops_later_groups :
    let context : Context := ⟨"p1", "u1"⟩
    let approving : Pending := ⟨⟨⟨"g1", "first"⟩, .empty⟩, Rule.identity.handler 0⟩
    let crashing : Pending := ⟨⟨⟨"g2", "second"⟩, .empty⟩, (Rule.crash none).handler 0⟩
    let third : Pending := ⟨⟨⟨"g3", "third"⟩, .empty⟩, Rule.identity.handler 0⟩
    ∃ now, Turns (Step .sequential context) { waiting := [approving, crashing, third] }
        (turnsOf approving ++ turnsOf crashing) now ∧
      now.stage = .returned (.error (.ofCrash none)) ∧
      ComesTo context [approving, crashing, third] (oneByOne [approving, crashing])
        (.error (.ofCrash none)) := by
  intro context approving crashing third
  have reached : Turns (Step .sequential context) { waiting := [approving, crashing, third] }
      (turnsOf approving ++ turnsOf crashing) _ :=
    (turns_of_approved rfl).append (turns_of_failed rfl)
  have ascending : ([approving, crashing, third].map (·.patch.group.id)).Pairwise (· < ·) := by
    decide +kernel
  obtain ⟨-, -, -, -, returned⟩ := sequential_stops_at_first_failure ascending reached
  exact ⟨_, reached, rfl, (returned _ rfl).2.2.2⟩

end Dispatching

end PropertyGate
