import Mathlib.Data.List.Perm.Subperm
import PropertyGate.Proofs.Patch.Joining

/-!
# Proofs/Patch/Together — tasks that are joined in any order

Together, the loop spawns a task for every group before it joins any, and then joins them as they
finish.  Up to the first failure each task is joined once, and each handler is called at most once
(`Dispatching.Together`).  So **however the turns interleave, a dispatch comes to what `runTogether`
makes of the order in which the tasks were joined** (`Dispatching.concurrent_runs_together`); and
there are turns for every such order (`Dispatching.exists_turns_runTogether`), that in which handlers
finish by their delays among them.
-/

namespace PropertyGate

/-- The task that a turn joins. -/
def DispatchTurn.joined? : DispatchTurn → Option Pending
  | .join one => some one
  | _ => none

/-- The group whose handler a turn calls. -/
def DispatchTurn.called? : DispatchTurn → Option Pending
  | .call one => some one
  | _ => none

theorem DispatchTurn.filterMap_events (context : Context) (turns : List DispatchTurn) :
    (turns.flatMap DispatchTurn.events).filterMap (·.call? context) =
      (turns.filterMap DispatchTurn.called?).map (·.call context) := by
  induction turns with
  | nil => rfl
  | cons turn rest ih =>
    rw [List.flatMap_cons, List.filterMap_append, ih]
    cases turn <;> rfl

namespace Dispatching

variable {context : Context} {before after now : Dispatching} {turn : DispatchTurn}
  {turns : List DispatchTurn} {pending called joined finished : List Pending}
  {tasks others : List (Pending × TaskStage)} {one : Pending}

/-! ## Handlers that are not called yet -/

/-- The group of a task, if it has not called its handler yet. -/
def uncalled? (task : Pending × TaskStage) : Option Pending :=
  if task.2 = .spawned then some task.1 else none

/-- The groups of tasks that have not called their handlers yet. -/
def uncalled (tasks : List (Pending × TaskStage)) : List Pending := tasks.filterMap uncalled?

theorem uncalled_append : uncalled (tasks ++ others) = uncalled tasks ++ uncalled others :=
  List.filterMap_append

theorem uncalled_spawned : uncalled ((one, .spawned) :: tasks) = one :: uncalled tasks := rfl

theorem uncalled_running : uncalled ((one, .running) :: tasks) = uncalled tasks := rfl

theorem uncalled_finished : uncalled ((one, .finished) :: tasks) = uncalled tasks := rfl

/-! ## Together -/

variable (context pending) in
/-- **How far a dispatch has come whose handlers run together**: whose handlers were called and which
tasks were joined.  Whatever was joined has approved, up to the first failure; nothing is joined or
called twice, or left out. -/
inductive Together : (called joined : List Pending) → Dispatching → Prop where
  | going {called joined waiting : List Pending} {tasks : List (Pending × TaskStage)}
      {patches : List GroupPatch} {stage : LoopStage}
      (phase : stage = .spawning ∨ stage = .draining ∧ waiting = [])
      (order : (joined ++ tasks.map Prod.fst ++ waiting).Perm pending)
      (calls : (called ++ uncalled tasks ++ waiting).Perm pending)
      (approvals : Passes (Pending.outcome · context) joined patches) :
      Together called joined ⟨waiting, tasks, .collect patches, stage⟩
  | approved {called joined : List Pending} {patches : List GroupPatch}
      (order : joined.Perm pending) (calls : called.Perm pending)
      (approvals : Passes (Pending.outcome · context) joined patches) :
      Together called joined ⟨[], [], .collect patches, .returned (.ok (.collect patches))⟩
  | failed {called passed rest waiting : List Pending} {one : Pending} {error : PatchError}
      {result : PatchResult}
      (order : (passed ++ one :: rest).Perm pending) (calls : called.Subperm pending)
      (stops : StopsAt (Pending.outcome · context) (passed ++ one :: rest) passed one error) :
      Together called (passed ++ [one]) ⟨waiting, [], result, .returned (.error error)⟩

theorem together_of_waiting (context : Context) (pending : List Pending) :
    Together context pending [] [] { waiting := pending } :=
  @Together.going context pending [] [] pending [] [] .spawning (.inl rfl) (.refl _) (.refl _) .nil

/-- A turn that joins nothing leaves what was joined. -/
theorem Together.of_unjoined (h : Together context pending called joined after)
    (quiet : turn.joined? = none) :
    Together context pending called (joined ++ turn.joined?.toList) after := by
  rwa [quiet, Option.toList_none, List.append_nil]

/-- A turn that calls nobody leaves who was called. -/
theorem Together.of_uncalled (h : Together context pending called joined after)
    (quiet : turn.called? = none) :
    Together context pending (called ++ turn.called?.toList) joined after := by
  rwa [quiet, Option.toList_none, List.append_nil]

/-- One of several groups is done before the others. -/
theorem perm_further (done : List Pending) {front back : List Pending} :
    (done ++ one :: (front ++ back)).Perm (done ++ (front ++ one :: back)) :=
  List.perm_middle.symm.append_left done

/-- Tasks are joined when none is left to be spawned. -/
theorem draining_of_joins {waiting : List Pending} {stage : LoopStage}
    (phase : stage = .spawning ∨ stage = .draining ∧ waiting = []) (joins : stage.joins = true) :
    stage = .draining ∧ waiting = [] := by
  refine phase.resolve_left ?_
  rintro rfl
  cases joins

/-- **Every turn keeps what was called and joined in order.** -/
theorem Step.together (h : Step .concurrent context before turn after)
    (sound : Together context pending called joined before) :
    Together context pending (called ++ turn.called?.toList) (joined ++ turn.joined?.toList)
      after := by
  cases sound with
  | approved | failed => exact absurd h not_step_of_returned
  | @going _ waiting tasks patches stage phase order calls approvals =>
    cases h with
    | @spawn one rest spawning next =>
      obtain rfl : waiting = one :: rest := next
      refine .of_unjoined (.of_uncalled (.going (.inl rfl) ?_ ?_ approvals) rfl) rfl
      · simpa using order
      · have new : uncalled [(one, .spawned)] = [one] := rfl
        simpa [uncalled_append, new] using calls
    | @call one front back spawned =>
      obtain rfl : tasks = front ++ (one, .spawned) :: back := spawned
      refine .of_unjoined (.going phase ?_ ?_ approvals) rfl
      · simpa using order
      · refine List.Perm.trans ?_ calls
        simpa [uncalled_append, uncalled_spawned, uncalled_running, DispatchTurn.called?] using
          perm_further called
    | @finish one front back running =>
      obtain rfl : tasks = front ++ (one, .running) :: back := running
      refine .of_unjoined (.of_uncalled (.going phase ?_ ?_ approvals) rfl) rfl
      · simpa using order
      · simpa [uncalled_append, uncalled_running, uncalled_finished] using calls
    | @take one front back patch joins finished success =>
      obtain rfl : tasks = front ++ (one, .finished) :: back := finished
      obtain ⟨rfl, rfl⟩ := draining_of_joins phase joins
      refine .of_uncalled ?_ rfl
      rw [← PatchResult.collect_concat]
      refine .going (.inr ⟨rfl, rfl⟩) ?_ ?_ (approvals.append (.cons success .nil))
      · refine List.Perm.trans ?_ order
        simpa [DispatchTurn.joined?] using perm_further joined
      · simpa [uncalled_append, uncalled_finished] using calls
    | @fail one front back error joins finished failure =>
      obtain rfl : tasks = front ++ (one, .finished) :: back := finished
      obtain ⟨rfl, rfl⟩ := draining_of_joins phase joins
      -- The tasks that are dropped are joined after the failure, as it were.
      refine .of_uncalled (.failed ?_ ?_
        (approvals.stopsAt failure ((front ++ back).map Prod.fst))) rfl
      · refine List.Perm.trans ?_ order
        simpa using perm_further joined
      · rw [List.append_nil] at calls
        exact (List.sublist_append_left ..).subperm.trans calls.subperm
    | skip awaiting none =>
      obtain rfl | ⟨rfl, -⟩ := phase <;> cases awaiting
    | drain spawning none =>
      exact .of_unjoined (.of_uncalled (.going (.inr ⟨rfl, none⟩) order calls approvals) rfl) rfl
    | gather draining none =>
      obtain rfl : tasks = [] := none
      have joins : stage.joins = true := congrArg LoopStage.joins draining
      obtain ⟨rfl, rfl⟩ := draining_of_joins phase joins
      refine .of_unjoined (.of_uncalled (.approved ?_ ?_ approvals) rfl) rfl
      · simpa using order
      · simpa [uncalled] using calls

theorem together_of_turns (h : Turns (Step .concurrent context) before turns after)
    (sound : Together context pending called joined before) :
    Together context pending (called ++ turns.filterMap DispatchTurn.called?)
      (joined ++ turns.filterMap DispatchTurn.joined?) after := by
  induction h generalizing called joined with
  | stay => simpa using sound
  | @move _ _ _ turn _ first _ ih =>
    have split (f : DispatchTurn → Option Pending) (turns : List DispatchTurn) :
        (turn :: turns).filterMap f = (f turn).toList ++ turns.filterMap f := by
      cases h : f turn <;> simp [h]
    rw [split, split, ← List.append_assoc, ← List.append_assoc]
    exact ih (first.together sound)

/-- How far every concurrent dispatch has come, whatever turns it has taken. -/
theorem together_of_reached
    (h : Turns (Step .concurrent context) { waiting := pending } turns now) :
    Together context pending (turns.filterMap DispatchTurn.called?)
      (turns.filterMap DispatchTurn.joined?) now :=
  together_of_turns h (together_of_waiting context pending)

/-! ## What a dispatch together comes to -/

/-- Handlers are called at most once, and for groups of the patch only. -/
theorem Together.called_subperm (h : Together context pending called joined now) :
    called.Subperm pending := by
  cases h with
  | going _ _ calls =>
    rw [List.append_assoc] at calls
    exact (List.sublist_append_left ..).subperm.trans calls.subperm
  | approved _ calls => exact calls.subperm
  | failed _ calls => exact calls

/-- **A dispatch that has returned comes to what `runTogether` makes of some order of its groups**:
that in which their tasks were joined, up to the first failure. -/
theorem Together.returned {outcome : Except PatchError PatchResult}
    (h : Together context pending called joined now) (returned : now.stage = .returned outcome) :
    ∃ finished, finished.Perm pending ∧ joined = throughFirstFailure context finished ∧
      outcome = (runTogether context pending finished).outcome ∧
      ((∃ result, outcome = .ok result) → called.Perm pending) := by
  cases h with
  | going phase =>
    obtain rfl | ⟨rfl, -⟩ := phase <;> cases returned
  | approved order calls approvals =>
    cases returned
    refine ⟨_, order, (throughFirstFailure_of_passes approvals).symm, ?_, fun _ => calls⟩
    exact (joinOutcomes_of_passes approvals).symm
  | failed order _ stops =>
    cases returned
    refine ⟨_, order, (throughFirstFailure_of_stopsAt stops).symm, ?_, fun ⟨_, h⟩ => nomatch h⟩
    exact (joinOutcomes_of_stopsAt stops).symm

/-- **However the turns of a concurrent dispatch interleave, it comes to what `runTogether` makes of
the order in which its tasks are joined.**  There are not many turns, and they do not stop before
the loop has returned.  Nobody is called twice; whoever is left out when a handler fails is one of
those that `runTogether` calls. -/
theorem concurrent_runs_together
    (reached : Turns (Step .concurrent context) { waiting := pending } turns now) :
    let calls := (turns.flatMap DispatchTurn.events).filterMap (·.call? context)
    calls.Subperm (pending.map (·.call context)) ∧ turns.length ≤ 5 * pending.length + 2 ∧
      ((∀ outcome, now.stage ≠ .returned outcome) →
        ∃ turn next, Step .concurrent context now turn next) ∧
      ∀ outcome, now.stage = .returned outcome → ∃ finished, finished.Perm pending ∧
        let run := runTogether context pending finished
        turns.filterMap DispatchTurn.joined? = throughFirstFailure context finished ∧
          outcome = run.outcome ∧ ((∃ result, outcome = .ok result) → calls.Perm run.calls) := by
  intro calls
  have sound := together_of_reached reached
  have called : calls = (turns.filterMap DispatchTurn.called?).map (·.call context) :=
    DispatchTurn.filterMap_events context turns
  rw [called]
  obtain ⟨asked, same, part⟩ := sound.called_subperm
  refine ⟨⟨_, same.map _, part.map _⟩, length_le reached, exists_step, fun outcome returned => ?_⟩
  obtain ⟨finished, order, joined, come, all⟩ := sound.returned returned
  refine ⟨finished, order, joined, come, fun success => ?_⟩
  rw [calls_runTogether]
  exact (all success).map _

/-! ## Turns for every order -/

section Phases

variable {waiting : List Pending} {result : PatchResult} {stage : LoopStage}

theorem turns_of_spawns (waiting : List Pending) (tasks : List (Pending × TaskStage)) :
    Turns (Step .concurrent context) ⟨waiting, tasks, result, .spawning⟩
      (waiting.map .spawn) ⟨[], tasks ++ waiting.map (·, .spawned), result, .spawning⟩ := by
  induction waiting generalizing tasks with
  | nil => exact (List.append_nil tasks).symm ▸ .stay _
  | cons one rest ih =>
    have spawned := ih (tasks ++ [(one, .spawned)])
    rw [← List.append_cons] at spawned
    exact .move (.spawn rfl rfl) spawned

theorem turns_of_calls (called spawned : List Pending) :
    Turns (Step .concurrent context)
      ⟨waiting, called.map (·, .running) ++ spawned.map (·, .spawned), result, stage⟩
      (spawned.map .call)
      ⟨waiting, (called ++ spawned).map (·, .running), result, stage⟩ := by
  induction spawned generalizing called with
  | nil => simpa using .stay _
  | cons one rest ih =>
    refine .move (.call rfl) ?_
    simpa using ih (called ++ [one])

theorem turns_of_finishes (done running : List Pending) :
    Turns (Step .concurrent context)
      ⟨waiting, done.map (·, .finished) ++ running.map (·, .running), result, stage⟩
      (running.map .finish)
      ⟨waiting, (done ++ running).map (·, .finished), result, stage⟩ := by
  induction running generalizing done with
  | nil => simpa using .stay _
  | cons one rest ih =>
    refine .move (.finish rfl) ?_
    simpa using ih (done ++ [one])

/-- Tasks that are all finished can be joined in any order, up to the first failure. -/
theorem exists_turns_of_joins {tasks : List Pending} (order : finished.Perm tasks)
    (result : PatchResult) :
    ∃ turns now, Turns (Step .concurrent context)
        ⟨[], tasks.map (·, .finished), result, .draining⟩ turns now ∧
      turns.filterMap DispatchTurn.called? = [] ∧
      turns.filterMap DispatchTurn.joined? = throughFirstFailure context finished ∧
      now.stage = .returned ((finished.map (·.outcome context)).foldlM
        (fun result outcome => outcome.map result.insert) result) := by
  induction finished generalizing tasks result with
  | nil =>
    obtain rfl := order.nil_eq
    exact ⟨_, _, .move (.gather rfl rfl) (.stay _), rfl, rfl, rfl⟩
  | cons one rest ih =>
    obtain ⟨front, back, rfl⟩ := List.append_of_mem (order.subset List.mem_cons_self)
    have others : rest.Perm (front ++ back) := (order.trans List.perm_middle).cons_inv
    have found : (front ++ one :: back).map (·, TaskStage.finished) =
        front.map (·, .finished) ++ (one, .finished) :: back.map (·, .finished) :=
      List.map_append
    rw [throughFirstFailure, List.map_cons, List.foldlM_cons]
    cases outcome : one.outcome context with
    | error error =>
      exact ⟨_, _, .move (.fail rfl found outcome) (.stay _), rfl, rfl, rfl⟩
    | ok patch =>
      obtain ⟨turns, now, reached, called, joined, returned⟩ := ih others (result.insert patch)
      rw [List.map_append] at reached
      exact ⟨_, now, .move (.take rfl found outcome) reached, called,
        congrArg (one :: ·) joined, returned⟩

end Phases

/-- **For every order of the groups of a patch there are turns that join the tasks in this order**,
up to the first failure; they make the calls that `runTogether` makes, and return its outcome. -/
theorem exists_turns_runTogether (order : finished.Perm pending) :
    ∃ turns now, Turns (Step .concurrent context) { waiting := pending } turns now ∧
      let run := runTogether context pending finished
      (turns.flatMap DispatchTurn.events).filterMap (·.call? context) = run.calls ∧
        turns.filterMap DispatchTurn.joined? = throughFirstFailure context finished ∧
        now.stage = .returned run.outcome := by
  obtain ⟨turns, now, joins, called, joined, returned⟩ :=
    @exists_turns_of_joins context finished pending order .empty
  have started : Turns (Step .concurrent context) { waiting := pending }
      (pending.map .spawn ++ .drain :: pending.map .call)
      ⟨[], pending.map (·, .running), .empty, .draining⟩ :=
    (turns_of_spawns pending []).append (.move (.drain rfl rfl) (turns_of_calls [] pending))
  refine ⟨_, now, (started.append (turns_of_finishes [] pending)).append joins, ?_, ?_, returned⟩
  · rw [DispatchTurn.filterMap_events, calls_runTogether]
    simp [DispatchTurn.called?, called, List.filterMap_cons, Function.comp_def]
  · simp [DispatchTurn.joined?, joined, List.filterMap_cons, Function.comp_def]

end Dispatching

end PropertyGate
