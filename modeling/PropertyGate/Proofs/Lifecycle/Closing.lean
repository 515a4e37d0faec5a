import PropertyGate.Lifecycle.Balance
import PropertyGate.Proofs.Turns
import PropertyGate.Service.Exchange

/-!
# Proofs/Lifecycle/Closing — requests that overlap a shutdown

A request is admitted in two turns: it reads the health of the service, and later it takes a guard.
A shutdown is several turns as well: it is triggered, and the drain registers for a notification,
reads the counter and, if that was zero, stores that the service stopped.  The turns of any number of
requests and of one shutdown interleave (`Closing.Step`); taken without interruption they do what
`Service.admitWork` and `Health.stop?` do.

Between its two turns a request is not counted, so **a service can stop while a request is admitted,
and the request is worked on and stores values afterwards** (`stopped_while_admitted`).  Nothing
else can go on: **once the counter was read as zero, only such requests hold guards or store
values** (`stopped_but_for_admitted`).
-/

namespace PropertyGate

/-- How far a request has come. -/
inductive Stage where
  /-- Nothing is decided. -/
  | arrived
  /-- The service was not shutting down when its health was read. -/
  | admitted
  /-- The request holds a guard, and is worked on. -/
  | holding
  /-- The request was turned away, or is done and has dropped its guard. -/
  | over
deriving DecidableEq, Repr

/-- How far a shutdown has come. `notified` tells whether the last guard was dropped since the drain
registered for that. -/
inductive Shutdown where
  | pending
  | triggered
  | registered (notified : Bool)
  /-- The counter was not zero. -/
  | waiting (notified : Bool)
  /-- The counter was zero. -/
  | clear
  | returned (stopped : Bool)
deriving DecidableEq, Repr

/-- The shutdown after the last guard was dropped. -/
def Shutdown.notify : Shutdown → Shutdown
  | .registered _ => .registered true
  | .waiting _ => .waiting true
  | shutdown => shutdown

/-- **A service that is being closed**: its health and store, the requests that have arrived so far,
and the shutdown. -/
structure Closing where
  health : Health := {}
  store : Store := .empty
  requests : List Stage := []
  shutdown : Shutdown := .pending

/-- A turn of a request, known by its number, or of whoever closes the service. -/
inductive ClosingTurn where
  | setReady
  | arrive
  | readHealth (request : Nat)
  | takeGuard (request : Nat)
  | commit (request : Nat) (target : String) (values : Values)
  | dropGuard (request : Nat)
  | trigger
  | register
  | readCounter
  | storeStopped
  | giveUp

namespace Closing

/-- The service with a request in another stage. -/
def move (closing : Closing) (request : Nat) (stage : Stage) : Closing :=
  { closing with requests := closing.requests.set request stage }

/-- **What a turn does.**  Turns of different requests, and of the shutdown, can be taken in any
order. -/
inductive Step : Closing → ClosingTurn → Closing → Prop where
  /-- The service is made ready before it is shut down, not later. -/
  | setReady {closing : Closing} (early : closing.shutdown = .pending) :
      Step closing .setReady { closing with health := closing.health.setReady }
  | arrive (closing : Closing) :
      Step closing .arrive { closing with requests := closing.requests ++ [.arrived] }
  | letIn {closing : Closing} {request : Nat} (arrived : closing.requests[request]? = some .arrived)
      (working : closing.health.state.isShuttingDown = false) :
      Step closing (.readHealth request) (closing.move request .admitted)
  | turnAway {closing : Closing} {request : Nat}
      (arrived : closing.requests[request]? = some .arrived)
      (shutting : closing.health.state.isShuttingDown = true) :
      Step closing (.readHealth request) (closing.move request .over)
  | takeGuard {closing : Closing} {request : Nat}
      (admitted : closing.requests[request]? = some .admitted) :
      Step closing (.takeGuard request)
        { closing.move request .holding with health := closing.health.enter }
  | commit {closing : Closing} {request : Nat} {target : String} {values : Values}
      (holding : closing.requests[request]? = some .holding) :
      Step closing (.commit request target values)
        { closing with store := closing.store.write target values }
  /-- Whoever drops the last guard notifies the drain. -/
  | dropGuard {closing : Closing} {request : Nat}
      (holding : closing.requests[request]? = some .holding) :
      Step closing (.dropGuard request)
        { closing.move request .over with
          health := closing.health.leave
          shutdown :=
            if closing.health.inFlight = 1 then closing.shutdown.notify else closing.shutdown }
  | trigger {closing : Closing} (pending : closing.shutdown = .pending) :
      Step closing .trigger
        { closing with health := closing.health.triggerShutdown, shutdown := .triggered }
  | register {closing : Closing}
      (due : closing.shutdown = .triggered ∨ closing.shutdown = .waiting true) :
      Step closing .register { closing with shutdown := .registered false }
  | readZero {closing : Closing} {notified : Bool}
      (registered : closing.shutdown = .registered notified) (zero : closing.health.inFlight = 0) :
      Step closing .readCounter { closing with shutdown := .clear }
  | readMore {closing : Closing} {notified : Bool}
      (registered : closing.shutdown = .registered notified) (more : closing.health.inFlight ≠ 0) :
      Step closing .readCounter { closing with shutdown := .waiting notified }
  | storeStopped {closing : Closing} (clear : closing.shutdown = .clear) :
      Step closing .storeStopped
        { closing with
          health := { closing.health with state := .stopped }
          shutdown := .returned true }
  /-- The deadline passes while there is no notification. -/
  | giveUp {closing : Closing} (waiting : closing.shutdown = .waiting false) :
      Step closing .giveUp { closing with shutdown := .returned false }

variable {closing after checked now : Closing} {turn : ClosingTurn} {turns : List ClosingTurn}
  {request : Nat}

/-! ## Turns that are not interrupted -/

/-- **A request that is not interrupted is admitted, counted and worked on as one.** -/
theorem exists_turns_request (arrived : closing.requests[request]? = some .arrived)
    (definitions : Definitions) (uptime : Nat) (target : String) (values : Values)
    (response : Http.Response) (log : List TimedCall) (elapsed : Nat) :
    let outcome := Service.admitWork ⟨definitions, closing.store, closing.health, uptime⟩
      fun admitted =>
        ⟨response, admitted.store.write target values, admitted.health, log, elapsed⟩
    let turns : List ClosingTurn :=
      if closing.health.state.isShuttingDown then [.readHealth request]
      else [.readHealth request, .takeGuard request, .commit request target values,
        .dropGuard request]
    ∃ after, Turns Step closing turns after ∧ after.health = outcome.health ∧
      after.store = outcome.store ∧ after.requests[request]? = some .over := by
  have inside : request < closing.requests.length := (List.getElem?_eq_some_iff.1 arrived).1
  cases shutting : closing.health.state.isShuttingDown with
  | true =>
    refine ⟨_, .move (.turnAway arrived shutting) (.stay _), ?_⟩
    simp [Service.admitWork, shutting, Outcome.refuse, Outcome.answer, Closing.move, inside]
  | false =>
    refine ⟨_, .move (.letIn arrived shutting) (.move (.takeGuard ?_) (.move (.commit ?_)
      (.move (.dropGuard ?_) (.stay _)))), ?_⟩ <;>
    simp [Service.admitWork, shutting, Closing.move, inside]

/-- **A drain that is not interrupted stops the service if nothing is in flight**, and otherwise
gives up at its deadline. -/
theorem turns_drain (triggered : closing.shutdown = .triggered) :
    match closing.health.stop? with
    | some stopped =>
      Turns Step closing [.register, .readCounter, .storeStopped]
        { closing with health := stopped, shutdown := .returned true }
    | none =>
      Turns Step closing [.register, .readCounter, .giveUp]
        { closing with shutdown := .returned false } := by
  have registered : Step closing .register { closing with shutdown := .registered false } :=
    .register (.inl triggered)
  by_cases zero : closing.health.inFlight = 0
  · rw [Health.stop?, if_pos zero]
    exact .move registered (.move (.readZero rfl zero) (.move (.storeStopped rfl) (.stay _)))
  · rw [Health.stop?, if_neg zero]
    exact .move registered (.move (.readMore rfl zero) (.move (.giveUp rfl) (.stay _)))

/-! ## What every turn keeps -/

/-- Moving a request exchanges its two stages in the count. -/
theorem count_move {old : Stage} (new : Stage) (found : closing.requests[request]? = some old) :
    (closing.move request new).requests.count .holding + (if old = .holding then 1 else 0) =
      closing.requests.count .holding + (if new = .holding then 1 else 0) := by
  obtain ⟨inside, rfl⟩ := List.getElem?_eq_some_iff.1 found
  have counted : closing.requests[request] = .holding → 0 < closing.requests.count .holding :=
    fun held => List.count_pos_iff.2 (held ▸ List.getElem_mem inside)
  simp only [move, List.count_set inside, beq_iff_eq]
  by_cases held : closing.requests[request] = .holding
  · have := counted held
    simp only [held, if_true]
    omega
  · simp only [held, if_false]
    omega

theorem notify_eq_pending_iff {shutdown : Shutdown} :
    shutdown.notify = .pending ↔ shutdown = .pending := by
  cases shutdown <;> simp [Shutdown.notify]

/-- **What is in flight is what is held, and a shutdown that has begun shows.** -/
structure Sound (closing : Closing) : Prop where
  balanced : closing.health.inFlight = closing.requests.count .holding
  shows : closing.shutdown ≠ .pending → closing.health.state.isShuttingDown = true

theorem Step.sound (h : Step closing turn after) (sound : closing.Sound) : after.Sound := by
  obtain ⟨balanced, shows⟩ := sound
  cases h with
  | setReady early => exact ⟨balanced, fun begun => absurd early begun⟩
  | arrive => exact ⟨by simpa [List.count_append] using balanced, shows⟩
  | letIn arrived => exact ⟨balanced.trans (count_move .admitted arrived).symm, shows⟩
  | turnAway arrived => exact ⟨balanced.trans (count_move .over arrived).symm, shows⟩
  | takeGuard admitted =>
    have count := count_move .holding admitted
    refine ⟨?_, shows⟩
    simp only [Health.enter]
    simp at count
    omega
  | commit => exact ⟨balanced, shows⟩
  | dropGuard holding =>
    have count := count_move .over holding
    refine ⟨?_, fun begun => ?_⟩
    · simp only [Health.leave]
      simp at count
      omega
    · refine shows fun pending => begun ?_
      dsimp only
      split
      · exact notify_eq_pending_iff.2 pending
      · exact pending
  | trigger => exact ⟨balanced, fun _ => rfl⟩
  | register due => exact ⟨balanced, fun _ => shows (by rcases due with h | h <;> simp [h])⟩
  | readZero registered => exact ⟨balanced, fun _ => shows (by simp [registered])⟩
  | readMore registered => exact ⟨balanced, fun _ => shows (by simp [registered])⟩
  | storeStopped => exact ⟨balanced, fun _ => rfl⟩
  | giveUp waiting => exact ⟨balanced, fun _ => shows (by simp [waiting])⟩

/-- **Requests that overrun a reading of the counter**: none but those that were admitted then are
admitted or held now, and none is let in any more. -/
structure Overrun (checked now : Closing) : Prop where
  begun : now.shutdown ≠ .pending
  sound : now.Sound
  admitted : ∀ request : Nat, now.requests[request]? = some .admitted →
    checked.requests[request]? = some .admitted
  holding : ∀ request : Nat, now.requests[request]? = some .holding →
    checked.requests[request]? = some .admitted

theorem Step.overrun (h : Step closing turn after) (overrun : Overrun checked closing) :
    Overrun checked after := by
  have sound := h.sound overrun.sound
  obtain ⟨begun, before, admitted, holding⟩ := overrun
  cases h with
  | setReady early => exact absurd early begun
  | trigger pending => exact absurd pending begun
  | letIn _ working => exact nomatch (before.shows begun).symm.trans working
  | arrive =>
    refine ⟨begun, sound, fun request found => ?_, fun request found => ?_⟩
    · exact admitted request ((eq_or_of_concat found).resolve_left nofun)
    · exact holding request ((eq_or_of_concat found).resolve_left nofun)
  | turnAway =>
    refine ⟨begun, sound, fun other found => ?_, fun other found => ?_⟩
    · exact admitted other ((eq_or_of_set found).resolve_left (by simp)).2
    · exact holding other ((eq_or_of_set found).resolve_left (by simp)).2
  | takeGuard was =>
    refine ⟨begun, sound, fun other found => ?_, fun other found => ?_⟩
    · exact admitted other ((eq_or_of_set found).resolve_left (by simp)).2
    · rcases eq_or_of_set found with ⟨rfl, -⟩ | ⟨-, found⟩
      · exact admitted _ was
      · exact holding other found
  | commit => exact ⟨begun, sound, admitted, holding⟩
  | dropGuard =>
    refine ⟨?_, sound, fun other found => ?_, fun other found => ?_⟩
    · dsimp only
      split
      · exact fun pending => begun (notify_eq_pending_iff.1 pending)
      · exact begun
    · exact admitted other ((eq_or_of_set found).resolve_left (by simp)).2
    · exact holding other ((eq_or_of_set found).resolve_left (by simp)).2
  | register | readZero | readMore | storeStopped | giveUp =>
    exact ⟨nofun, sound, admitted, holding⟩

/-! ## Once the counter was zero -/

/-- The drain has read zero, and then nothing else. -/
def ReadZero (closing : Closing) : Prop :=
  closing.shutdown = .clear ∨ closing.shutdown = .returned true

/-- Zero is read in one turn, from a counter that is zero. -/
theorem Step.of_readZero (h : Step closing turn after) (never : ¬ closing.ReadZero)
    (now : after.ReadZero) :
    turn = .readCounter ∧ closing.shutdown ≠ .pending ∧ closing.health.inFlight = 0 ∧
      after = { closing with shutdown := .clear } := by
  cases h with
  | readZero registered zero => exact ⟨rfl, by simp [registered], zero, rfl⟩
  | storeStopped clear => exact absurd (.inl clear) never
  | dropGuard =>
    refine absurd ?_ never
    simp only [ReadZero] at now
    split at now
    · cases shutdown : closing.shutdown <;> simp_all [Shutdown.notify, ReadZero]
    · exact now
  | setReady | arrive | letIn | turnAway | takeGuard | commit => exact absurd now never
  | trigger | register | readMore | giveUp => rcases now with now | now <;> cases now

theorem Sound.not_holding (sound : closing.Sound) (zero : closing.health.inFlight = 0)
    (request : Nat) : closing.requests[request]? ≠ some .holding := fun holding =>
  List.count_eq_zero.1 (sound.balanced.symm.trans zero) (List.mem_of_getElem? holding)

/-- Values are stored by a request that holds a guard. -/
theorem Step.store_eq (h : Step closing turn after)
    (none : ∀ request : Nat, closing.requests[request]? ≠ some .holding) :
    after.store = closing.store := by
  cases h with
  | commit holding => exact absurd holding (none _)
  | _ => rfl

/-- Where no request overruns, nothing is stored and nothing is in flight. -/
theorem quiet_of_none (h : Turns Step checked turns now) (overrun : Overrun checked checked)
    (none : ∀ request : Nat, checked.requests[request]? ≠ some .admitted) :
    now.store = checked.store ∧ now.health.inFlight = 0 := by
  have quiet : Overrun checked now ∧ now.store = checked.store := by
    refine h.keeps (fun now => Overrun checked now ∧ now.store = checked.store)
      (fun step ⟨overrun, same⟩ => ⟨step.overrun overrun, ?_⟩) ⟨overrun, rfl⟩
    rw [step.store_eq fun request holding => none request (overrun.holding request holding), same]
  refine ⟨quiet.2, quiet.1.sound.balanced.trans (List.count_eq_zero.2 fun holding => ?_)⟩
  obtain ⟨request, found⟩ := List.getElem?_of_mem holding
  exact none request (quiet.1.holding request found)

/-- **When a service has stopped, there was a moment at which its counter was read as zero.  From
then on, only requests that were admitted at that moment and held no guard yet are worked on or
store values**; where there were none, nothing is stored and nothing is in flight any more. -/
theorem stopped_but_for_admitted {store : Store} (reached : Turns Step { store } turns now)
    (stopped : now.shutdown = .returned true) :
    ∃ earlier counting checked later, turns = earlier ++ .readCounter :: later ∧
      Turns Step { store } earlier counting ∧ Step counting .readCounter checked ∧
      Turns Step checked later now ∧ counting.health.inFlight = 0 ∧
      (∀ request : Nat, checked.requests[request]? ≠ some .holding) ∧
      ∀ further afterwards, Turns Step now further afterwards →
        (∀ request : Nat, afterwards.requests[request]? = some .admitted ∨
            afterwards.requests[request]? = some .holding →
          checked.requests[request]? = some .admitted) ∧
        (∀ request target values, .commit request target values ∈ later ++ further →
          checked.requests[request]? = some .admitted) ∧
        ((∀ request : Nat, checked.requests[request]? ≠ some .admitted) →
          afterwards.store = checked.store ∧ afterwards.health.inFlight = 0) := by
  obtain ⟨earlier, counting, turn, checked, later, rfl, before, read, after, never, zeroRead⟩ :=
    reached.exists_turn ReadZero (by simp [ReadZero]) (.inr stopped)
  obtain ⟨rfl, begun, zero, same⟩ := read.of_readZero never zeroRead
  have sound : counting.Sound := before.keeps Sound Step.sound ⟨rfl, (absurd rfl ·)⟩
  have none : ∀ request : Nat, checked.requests[request]? ≠ some .holding :=
    same ▸ sound.not_holding zero
  have overrun : Overrun checked checked :=
    ⟨by rw [same]; nofun, read.sound sound, fun _ => id, fun request holding =>
      absurd holding (none request)⟩
  refine ⟨earlier, counting, checked, later, rfl, before, read, after, zero, none,
    fun further afterwards onward => ?_⟩
  have all := after.append onward
  have last : Overrun checked afterwards := all.keeps (Overrun checked) Step.overrun overrun
  refine ⟨?_, fun request target values hmem => ?_, fun nobody => ?_⟩
  · rintro request (admitted | holding)
    · exact last.admitted request admitted
    · exact last.holding request holding
  · obtain ⟨_, between, _, _, -, upTo, step, -⟩ := all.exists_of_mem hmem
    have overrun : Overrun checked between := upTo.keeps (Overrun checked) Step.overrun overrun
    cases step with
    | commit holding => exact overrun.holding request holding
  · exact quiet_of_none all overrun nobody

/-- A request is admitted, and the service is closed before the request takes its guard. -/
def earlyClosing : List ClosingTurn :=
  [.setReady, .arrive, .readHealth 0, .trigger, .register, .readCounter, .storeStopped]

def closedEarly : Closing where
  health := ⟨.stopped, 0⟩
  requests := [.admitted]
  shutdown := .returned true

theorem turns_closedEarly : Turns Step {} earlyClosing closedEarly :=
  .move (.setReady rfl) <| .move (.arrive _) <| .move (.letIn rfl rfl) <| .move (.trigger rfl) <|
    .move (.register (.inl rfl)) <| .move (.readZero rfl rfl) <| .move (.storeStopped rfl) <| .stay _

/-- The request that goes on in the closed service was admitted when the counter was read. -/
theorem closedEarly_was_admitted :
    Turns Step {} earlyClosing closedEarly ∧ closedEarly.shutdown = .returned true ∧
      ∃ counting checked, Step counting .readCounter checked ∧ counting.health.inFlight = 0 ∧
        checked.requests[0]? = some .admitted := by
  obtain ⟨_, counting, checked, _, -, -, read, -, zero, -, onward⟩ :=
    stopped_but_for_admitted turns_closedEarly rfl
  exact ⟨turns_closedEarly, rfl, counting, checked, read, zero,
    (onward [] closedEarly (.stay _)).1 0 (.inl rfl)⟩

/-- **A service can stop while a request is admitted.**  The drain has returned that the service
stopped, and then the request takes its guard and stores values. -/
theorem stopped_while_admitted :
    let values : Values := TextMap.empty.insert "f" (.bool true)
    let after : Closing :=
      { closedEarly with
        health := ⟨.stopped, 1⟩
        store := Store.empty.write "p1" values
        requests := [.holding] }
    Turns Step {} earlyClosing closedEarly ∧ closedEarly.shutdown = .returned true ∧
      closedEarly.requests = [.admitted] ∧
      Turns Step closedEarly [.takeGuard 0, .commit 0 "p1" values] after ∧
      after.requests = [.holding] ∧ closedEarly.store.values "p1" = .empty ∧
      after.store.values "p1" = values := by
  intro values after
  exact ⟨turns_closedEarly, rfl, rfl, .move (.takeGuard rfl) (.move (.commit rfl) (.stay _)), rfl,
    rfl, rfl⟩

end Closing

end PropertyGate
