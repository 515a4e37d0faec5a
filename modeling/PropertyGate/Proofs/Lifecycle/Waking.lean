import PropertyGate.Lifecycle.Balance
import PropertyGate.Proofs.Turns

/-!
# Proofs/Lifecycle/Waking — drains that wait for the last guard

A drain registers for a notification and then reads the counter.  It stops the service if that was
zero, and otherwise parks until it is notified and starts over, or until its deadline passes.  A
guard is dropped in two turns: the counter goes down, and whoever brought it to zero notifies all
that are registered then.  In between, guards are handed out and dropped by others, so that the
counter can pass through zero any number of times; the turns interleave as they like
(`Waking.Step`).

Since a drain registers before it reads the counter, **a drain that is parked and not notified waits
for something**: the counter is positive, or a drop that brought it to zero has still to notify
(`Waking.Sound`).  What a drain returns follows from that (`Waking.no_wake_up_is_lost`).  Taken
without interruption, the turns do what `Lifecycle.drain` does (`Waking.exists_turns_drain`).
-/

namespace PropertyGate

/-- What has become of a guard. -/
inductive Hold where
  | held
  /-- The guard is off the counter, which it brought to zero; nobody is notified of that yet. -/
  | last
  | gone
deriving DecidableEq, Repr

/-- How far a drain has come. `notified` tells whether it was notified since it registered. -/
inductive Wait where
  | begun
  | registered (notified : Bool)
  /-- The counter was zero. -/
  | clear
  /-- The counter was not zero. -/
  | busy (notified : Bool)
  | parked (notified : Bool)
  | returned (stopped : Bool)
deriving DecidableEq, Repr

namespace Wait

/-- The drain after all that are registered were notified. -/
def notify : Wait → Wait
  | .registered _ => .registered true
  | .busy _ => .busy true
  | .parked _ => .parked true
  | wait => wait

/-- The drain has seen a guard in flight, and was not notified since. -/
def isUnheard : Wait → Bool
  | .busy false => true
  | .parked false => true
  | _ => false

/-- Whether a notification makes a difference. -/
def listens : Wait → Bool
  | .registered _ => true
  | .busy _ => true
  | .parked _ => true
  | _ => false

theorem eq_of_notify {old new : Wait} (deaf : new.listens = false)
    (same : new = old ∨ new = old.notify) : new = old := by
  rcases same with rfl | rfl
  · rfl
  · cases old <;> first | rfl | cases deaf

theorem isUnheard_notify (wait : Wait) : wait.notify.isUnheard = false := by
  cases wait <;> rfl

end Wait

/-- A turn of a drain. -/
inductive WaitTurn where
  | register
  | readCounter
  | storeStopped
  | park
  | wake
  | giveUp
deriving DecidableEq, Repr

/-- What a drain does to the health of the service in a turn. -/
def WaitTurn.apply : WaitTurn → Health → Health
  | .storeStopped, health => { health with state := .stopped }
  | _, health => health

theorem WaitTurn.inFlight_apply (turn : WaitTurn) (health : Health) :
    (turn.apply health).inFlight = health.inFlight := by
  cases turn <;> rfl

/-- Nothing but storing that the service stopped changes the health of the service. -/
theorem WaitTurn.apply_eq_self {turn : WaitTurn} (other : turn ≠ .storeStopped) (health : Health) :
    turn.apply health = health := by
  cases turn <;> first | rfl | exact absurd rfl other

/-- **What a drain does in a turn**, given the counter at that time.  The notification is looked for
before the deadline, so that a drain that was notified does not give up. -/
inductive Wait.Moves (inFlight : Nat) : WaitTurn → Wait → Wait → Prop where
  | register : Wait.Moves inFlight .register .begun (.registered false)
  | readZero {notified : Bool} (zero : inFlight = 0) :
      Wait.Moves inFlight .readCounter (.registered notified) .clear
  | readMore {notified : Bool} (more : inFlight ≠ 0) :
      Wait.Moves inFlight .readCounter (.registered notified) (.busy notified)
  | storeStopped : Wait.Moves inFlight .storeStopped .clear (.returned true)
  | park {notified : Bool} : Wait.Moves inFlight .park (.busy notified) (.parked notified)
  | wake : Wait.Moves inFlight .wake (.parked true) .begun
  /-- The deadline passes. -/
  | giveUp : Wait.Moves inFlight .giveUp (.parked false) (.returned false)

/-- A drain sees a guard in flight when it reads the counter, and then misses no notification. -/
theorem Wait.Moves.isUnheard {inFlight : Nat} {turn : WaitTurn} {old new : Wait}
    (h : old.Moves inFlight turn new) (unheard : new.isUnheard = true) :
    0 < inFlight ∨ old.isUnheard = true := by
  cases h with
  | readMore more => exact .inl (Nat.pos_of_ne_zero more)
  | @park notified => cases notified <;> first | exact .inr rfl | cases unheard
  | _ => cases unheard

/-- **A service whose guards are waited for**: its health, the guards handed out so far, and the
drains that were called so far. -/
structure Waking where
  health : Health := {}
  guards : List Hold := []
  waits : List Wait := []
deriving DecidableEq, Repr

/-- A turn of whoever runs the service, of the holder of a guard, or of a drain; guards and drains
are known by their numbers. -/
inductive WakingTurn where
  | setReady
  | trigger
  | acquire
  | decrement (guard : Nat)
  | notify (guard : Nat)
  | call
  | wait (drain : Nat) (turn : WaitTurn)
deriving DecidableEq, Repr

namespace Waking

/-- The counter is positive, or a drop that brought it to zero has still to notify. -/
def Outstanding (waking : Waking) : Prop :=
  0 < waking.health.inFlight ∨ .last ∈ waking.guards

/-- **What a turn does.**  Turns of different guards and drains can be taken in any order. -/
inductive Step : Waking → WakingTurn → Waking → Prop where
  | setReady (waking : Waking) :
      Step waking .setReady { waking with health := waking.health.setReady }
  | trigger (waking : Waking) :
      Step waking .trigger { waking with health := waking.health.triggerShutdown }
  | acquire (waking : Waking) :
      Step waking .acquire
        { waking with health := waking.health.enter, guards := waking.guards ++ [.held] }
  | decrement {waking : Waking} {guard : Nat} (held : waking.guards[guard]? = some .held) :
      Step waking (.decrement guard)
        { waking with
          health := waking.health.leave
          guards := waking.guards.set guard
            (if waking.health.inFlight = 1 then .last else .gone) }
  | notify {waking : Waking} {guard : Nat} (last : waking.guards[guard]? = some .last) :
      Step waking (.notify guard)
        { waking with
          guards := waking.guards.set guard .gone
          waits := waking.waits.map Wait.notify }
  | call (waking : Waking) : Step waking .call { waking with waits := waking.waits ++ [.begun] }
  | wait {waking : Waking} {drain : Nat} {turn : WaitTurn} {old new : Wait}
      (found : waking.waits[drain]? = some old)
      (moves : old.Moves waking.health.inFlight turn new) :
      Step waking (.wait drain turn)
        { waking with health := turn.apply waking.health, waits := waking.waits.set drain new }

variable {waking before after now : Waking} {turn : WakingTurn} {turns : List WakingTurn}
  {drain : Nat} {old new : Wait} {stopped : Bool}

/-! ## Nothing is waited for in vain -/

/-- **The counter counts the guards that are held, and whoever has seen one of them and was not
notified since waits for something.** -/
structure Sound (waking : Waking) : Prop where
  balanced : waking.health.inFlight = waking.guards.count .held
  waitsFor : ∀ wait ∈ waking.waits, wait.isUnheard = true → waking.Outstanding

theorem Sound.initial : Sound {} := ⟨rfl, nofun⟩

/-- A guard that is exchanged for one that is not held leaves the count. -/
theorem count_set {guards : List Hold} {guard : Nat} {old : Hold} (new : Hold)
    (found : guards[guard]? = some old) (off : new ≠ .held) :
    (guards.set guard new).count .held + (if old = .held then 1 else 0) = guards.count .held := by
  have count := countP_set (· == .held) new found
  simpa [List.count, off] using count

/-- **A drop of a guard that was held leaves a guard in flight or a notification due.** -/
theorem outstanding_decrement {guard : Nat} (sound : waking.Sound)
    (held : waking.guards[guard]? = some .held) :
    0 < waking.health.inFlight - 1 ∨
      .last ∈ waking.guards.set guard (if waking.health.inFlight = 1 then .last else .gone) := by
  have positive : 0 < waking.health.inFlight :=
    sound.balanced ▸ List.count_pos_iff.2 (List.mem_of_getElem? held)
  by_cases one : waking.health.inFlight = 1
  · rw [if_pos one]
    exact .inr (List.mem_set (List.getElem?_eq_some_iff.1 held).1 _)
  · exact .inl (by omega)

/-- **Every turn keeps this.** -/
theorem Step.sound (h : Step before turn after) (sound : before.Sound) : after.Sound := by
  obtain ⟨balanced, waitsFor⟩ := id sound
  cases h with
  | setReady => exact ⟨balanced, waitsFor⟩
  | trigger => exact ⟨balanced, waitsFor⟩
  | acquire =>
    refine ⟨?_, fun _ _ _ => .inl (Nat.succ_pos _)⟩
    simpa [Health.enter, List.count_append] using balanced
  | decrement held =>
    -- Whoever is parked may lose the guard it waits for, but then the drop has still to notify.
    refine ⟨?_, fun _ _ _ => outstanding_decrement sound held⟩
    have count := count_set (if before.health.inFlight = 1 then .last else .gone) held
      (by split <;> decide)
    simp only [Health.leave, if_true] at count ⊢
    omega
  | notify last =>
    refine ⟨balanced.trans (count_set .gone last (by decide)).symm, fun wait mem unheard => ?_⟩
    obtain ⟨was, -, rfl⟩ := List.mem_map.1 mem
    exact absurd ((Wait.isUnheard_notify was).symm.trans unheard) Bool.false_ne_true
  | call =>
    refine ⟨balanced, fun wait mem unheard => ?_⟩
    rcases List.mem_append.1 mem with mem | mem
    · exact waitsFor wait mem unheard
    · obtain rfl := List.mem_singleton.1 mem
      cases unheard
  | @wait drain turn old new found moves =>
    have same := WaitTurn.inFlight_apply turn before.health
    refine ⟨same.trans balanced, fun wait mem unheard => ?_⟩
    have outstanding : before.Outstanding := by
      rcases List.mem_or_eq_of_mem_set mem with mem | rfl
      · exact waitsFor wait mem unheard
      · exact (moves.isUnheard unheard).elim .inl (waitsFor old (List.mem_of_getElem? found))
    exact outstanding.imp_left same.symm.subst

theorem Sound.of_turns (reached : Turns Step {} turns now) : now.Sound :=
  reached.keeps Sound Step.sound .initial

/-! ## The turns of one drain -/

/-- **A drain comes to where it is by a turn of its own**, or it was there before, or was notified
there, or was just called. -/
theorem Step.eq_or_moves (h : Step before turn after) (found : after.waits[drain]? = some new) :
    new = .begun ∨
      (∃ old, before.waits[drain]? = some old ∧ (new = old ∨ new = old.notify)) ∨
      ∃ own old, turn = .wait drain own ∧ before.waits[drain]? = some old ∧
        old.Moves before.health.inFlight own new ∧ after.health = own.apply before.health := by
  cases h with
  | setReady | trigger | acquire | decrement => exact .inr (.inl ⟨new, found, .inl rfl⟩)
  | notify =>
    obtain ⟨old, was, rfl⟩ : ∃ old, before.waits[drain]? = some old ∧ old.notify = new := by
      simpa using found
    exact .inr (.inl ⟨old, was, .inr rfl⟩)
  | call =>
    rcases eq_or_of_concat found with rfl | was
    · exact .inl rfl
    · exact .inr (.inl ⟨new, was, .inl rfl⟩)
  | wait was moves =>
    rcases eq_or_of_set found with ⟨rfl, rfl⟩ | ⟨-, same⟩
    · exact .inr (.inr ⟨_, _, rfl, was, moves, rfl⟩)
    · exact .inr (.inl ⟨new, same, .inl rfl⟩)

/-- **Only a drain's own turns take it further**; others notify it at most. -/
theorem Step.of_waits (h : Step before turn after) (found : before.waits[drain]? = some old) :
    (∃ own new, turn = .wait drain own ∧ old.Moves before.health.inFlight own new ∧
        after.waits[drain]? = some new ∧ after.health = own.apply before.health) ∨
      (∀ own, turn ≠ .wait drain own) ∧
        (after.waits[drain]? = some old ∨ after.waits[drain]? = some old.notify) := by
  have inside := (List.getElem?_eq_some_iff.1 found).1
  cases h with
  | setReady | trigger | acquire | decrement => exact .inr ⟨nofun, .inl found⟩
  | notify => exact .inr ⟨nofun, .inr (by simp [found])⟩
  | call => exact .inr ⟨nofun, .inl (getElem?_append_of_eq_some found _)⟩
  | @wait other own was new foundOther moves =>
    by_cases same : other = drain
    · obtain rfl := same
      obtain rfl : was = old := Option.some.inj (foundOther.symm.trans found)
      exact .inl ⟨own, new, rfl, moves, List.getElem?_set_self inside, rfl⟩
    · refine .inr ⟨fun _ turns => same (WakingTurn.wait.inj turns).1, .inl ?_⟩
      exact (List.getElem?_set_ne same).trans found

/-- **A drain that has returned takes no further turn**, and what it returned stays. -/
theorem Step.returned (h : Step before turn after)
    (returned : before.waits[drain]? = some (.returned stopped)) :
    (∀ own, turn ≠ .wait drain own) ∧ after.waits[drain]? = some (.returned stopped) := by
  rcases h.of_waits returned with ⟨_, _, -, moves, -⟩ | ⟨others, kept⟩
  · cases moves
  · exact ⟨others, kept.elim id id⟩

theorem returned_of_turns (h : Turns Step before turns after)
    (returned : before.waits[drain]? = some (.returned stopped)) :
    after.waits[drain]? = some (.returned stopped) :=
  h.keeps (·.waits[drain]? = some (.returned stopped)) (fun step was => (step.returned was).2)
    returned

/-- **What no notification leads to, a drain comes to by a turn of its own.** -/
theorem Step.moves_of_deaf (h : Step before turn after)
    (never : before.waits[drain]? ≠ some new) (found : after.waits[drain]? = some new)
    (begun : new ≠ .begun) (deaf : new.listens = false) :
    ∃ own old, turn = .wait drain own ∧ before.waits[drain]? = some old ∧
      old.Moves before.health.inFlight own new ∧ after.health = own.apply before.health := by
  rcases h.eq_or_moves found with rfl | ⟨old, was, same⟩ | moves
  · exact absurd rfl begun
  · exact absurd (Wait.eq_of_notify deaf same ▸ was) never
  · exact moves

/-- A drain returns that it stopped the service where the counter was zero, and that it did not
where it was parked and not notified. -/
theorem Step.returns (h : Step before turn after)
    (never : before.waits[drain]? ≠ some (.returned stopped))
    (returned : after.waits[drain]? = some (.returned stopped)) :
    stopped = true ∧ turn = .wait drain .storeStopped ∧ before.waits[drain]? = some .clear ∧
        after.health.state = .stopped ∨
      stopped = false ∧ turn = .wait drain .giveUp ∧
        before.waits[drain]? = some (.parked false) := by
  obtain ⟨own, old, rfl, was, moves, health⟩ := h.moves_of_deaf never returned (by simp) rfl
  cases moves with
  | storeStopped => exact .inl ⟨rfl, rfl, was, congrArg Health.state health⟩
  | giveUp => exact .inr ⟨rfl, rfl, was⟩

theorem Step.readsZero (h : Step before turn after) (never : before.waits[drain]? ≠ some .clear)
    (clear : after.waits[drain]? = some .clear) :
    turn = .wait drain .readCounter ∧ before.health.inFlight = 0 := by
  obtain ⟨own, old, rfl, -, moves, -⟩ := h.moves_of_deaf never clear (by simp) rfl
  cases moves with
  | readZero zero => exact ⟨rfl, zero⟩

/-- A drain that found the counter at zero has one turn left, to store that the service stopped. -/
theorem Step.of_clear (h : Step before turn after)
    (clear : before.waits[drain]? = some .clear) :
    turn = .wait drain .storeStopped ∧ after.waits[drain]? = some (.returned true) ∨
      (∀ own, turn ≠ .wait drain own) ∧ after.waits[drain]? = some .clear := by
  rcases h.of_waits clear with ⟨own, new, rfl, moves, found, -⟩ | ⟨others, kept⟩
  · cases moves with
    | storeStopped => exact .inl ⟨rfl, found⟩
  · exact .inr ⟨others, kept.elim id id⟩

theorem no_turn_while_clear (h : Turns Step before turns after)
    (clear : before.waits[drain]? = some .clear) (still : after.waits[drain]? = some .clear)
    (own : WaitTurn) : .wait drain own ∉ turns := by
  induction h with
  | stay => exact List.not_mem_nil
  | move first rest ih =>
    rcases first.of_clear clear with ⟨-, returned⟩ | ⟨others, clear⟩
    · exact nomatch still.symm.trans (returned_of_turns rest returned)
    · exact fun mem => (List.mem_cons.1 mem).elim (others own ·.symm) (ih clear still)

/-! ## What a drain returns -/

/-- **A drain found the counter at zero and then stored that the service stopped**, with no turn of
its own in between. -/
def StopsAtZero (turns : List WakingTurn) (now : Waking) (drain : Nat) : Prop :=
  ∃ earlier seen checked between last stopped later,
    turns =
        earlier ++ .wait drain .readCounter :: (between ++ .wait drain .storeStopped :: later) ∧
      Turns Step {} earlier seen ∧ seen.health.inFlight = 0 ∧
      Step seen (.wait drain .readCounter) checked ∧
      Turns Step checked between last ∧ (∀ own, .wait drain own ∉ between) ∧
      Step last (.wait drain .storeStopped) stopped ∧ stopped.health.state = .stopped ∧
      Turns Step stopped later now

/-- **A drain gave up while a guard was held, or a drop that brought the counter to zero had still
to notify**, and no turn of the drain changed the health of the service. -/
def GivesUpInFlight (turns : List WakingTurn) (now : Waking) (drain : Nat) : Prop :=
  (∃ last next, Turns.Include Step {} turns now last (.wait drain .giveUp) next ∧
      (.held ∈ last.guards ∨ .last ∈ last.guards)) ∧
    ∀ own before after, Turns.Include Step {} turns now before (.wait drain own) after →
      after.health = before.health

theorem stopsAtZero_of_returned (reached : Turns Step {} turns now)
    (returned : now.waits[drain]? = some (.returned true)) : StopsAtZero turns now drain := by
  obtain ⟨_, last, _, stopped, later, rfl, upTo, stops, onward, never, returned⟩ :=
    reached.exists_turn (·.waits[drain]? = some (.returned true)) nofun returned
  obtain ⟨-, rfl, clear, state⟩ | ⟨wrong, -⟩ := stops.returns never returned
  · obtain ⟨earlier, seen, _, checked, between, rfl, before, reads, meanwhile, never, cleared⟩ :=
      upTo.exists_turn (·.waits[drain]? = some .clear) nofun clear
    obtain ⟨rfl, zero⟩ := reads.readsZero never cleared
    exact ⟨earlier, seen, checked, between, last, stopped, later, by simp, before, zero, reads,
      meanwhile, no_turn_while_clear meanwhile cleared clear, stops, state, onward⟩
  · cases wrong

theorem givesUpInFlight_of_returned (reached : Turns Step {} turns now)
    (returned : now.waits[drain]? = some (.returned false)) : GivesUpInFlight turns now drain := by
  refine ⟨?_, ?_⟩
  · obtain ⟨earlier, last, _, next, later, rfl, upTo, ends, onward, never, returned⟩ :=
      reached.exists_turn (·.waits[drain]? = some (.returned false)) nofun returned
    obtain ⟨wrong, -⟩ | ⟨-, rfl, parked⟩ := ends.returns never returned
    · cases wrong
    · have sound : last.Sound := .of_turns upTo
      refine ⟨last, next, ⟨earlier, later, rfl, upTo, ends, onward⟩, ?_⟩
      refine (sound.waitsFor _ (List.mem_of_getElem? parked) rfl).imp_left fun positive => ?_
      exact List.count_pos_iff.1 (sound.balanced ▸ positive)
  · rintro own before after ⟨earlier, later, rfl, -, moved, onward⟩
    cases moved with
    | wait found moves =>
      refine WaitTurn.apply_eq_self ?_ _
      -- Had the drain stored that the service stopped, it would have returned that.
      rintro rfl
      cases moves
      have stopped := returned_of_turns onward
        (List.getElem?_set_self (List.getElem?_eq_some_iff.1 found).1)
      exact nomatch returned.symm.trans stopped

/-- **No wake-up of a drain is lost**, however the turns of any number of guards and drains
interleave. Whoever is parked and not notified waits for something; so a drain returns that the
service stopped only after it found the counter at zero, and returns that it did not only while a
guard is held or a drop has still to notify. -/
theorem no_wake_up_is_lost (reached : Turns Step {} turns now) (drain : Nat) :
    (now.waits[drain]? = some (.parked false) → now.Outstanding) ∧
      (now.waits[drain]? = some (.returned true) → StopsAtZero turns now drain) ∧
      (now.waits[drain]? = some (.returned false) → GivesUpInFlight turns now drain) :=
  ⟨fun parked => (Sound.of_turns reached).waitsFor _ (List.mem_of_getElem? parked) rfl,
    stopsAtZero_of_returned reached, givesUpInFlight_of_returned reached⟩

/-- The last guard is dropped while a drain is parked, and another is handed out before the drop
notifies; the drain wakes to find that one, and its deadline passes. -/
def wokenTooLate : List WakingTurn :=
  [.acquire, .trigger, .call, .wait 0 .register, .wait 0 .readCounter, .wait 0 .park, .decrement 0,
    .acquire, .notify 0, .wait 0 .wake, .wait 0 .register, .wait 0 .readCounter, .wait 0 .park,
    .wait 0 .giveUp]

def heldAgain : Waking where
  health := ⟨.draining, 1⟩
  guards := [.gone, .held]
  waits := [.returned false]

theorem turns_wokenTooLate : Turns Step {} wokenTooLate heldAgain :=
  .move (.acquire _) <| .move (.trigger _) <| .move (.call _) <| .move (.wait rfl .register) <|
    .move (.wait rfl (.readMore nofun)) <| .move (.wait rfl .park) <| .move (.decrement rfl) <|
    .move (.acquire _) <| .move (.notify rfl) <| .move (.wait rfl .wake) <|
    .move (.wait rfl .register) <| .move (.wait rfl (.readMore nofun)) <| .move (.wait rfl .park) <|
    .move (.wait rfl .giveUp) <| .stay _

/-- The drain that was woken too late gave up while a guard was in flight. -/
theorem heldAgain_gave_up_in_flight :
    Turns Step {} wokenTooLate heldAgain ∧ heldAgain.waits[0]? = some (.returned false) ∧
      GivesUpInFlight wokenTooLate heldAgain 0 :=
  ⟨turns_wokenTooLate, rfl, (no_wake_up_is_lost turns_wokenTooLate 0).2.2 rfl⟩

/-! ## Turns that are not interrupted -/

/-- **A drop that is not interrupted notifies if it was the last**, and otherwise nobody. -/
theorem exists_turns_drop {guard : Nat} (held : waking.guards[guard]? = some .held) :
    ∃ turns, Turns Step waking turns
      { waking with
        health := waking.health.leave
        guards := waking.guards.set guard .gone
        waits :=
          if waking.health.inFlight = 1 then waking.waits.map Wait.notify else waking.waits } := by
  have drop := Step.decrement held
  by_cases one : waking.health.inFlight = 1
  · rw [if_pos one] at drop ⊢
    refine ⟨[.decrement guard, .notify guard], .move drop (.move (.notify ?_) ?_)⟩
    · exact List.getElem?_set_self (List.getElem?_eq_some_iff.1 held).1
    · rw [List.set_set]
      exact .stay _
  · rw [if_neg one] at drop ⊢
    exact ⟨[.decrement guard], .move drop (.stay _)⟩

end Waking

/-- A guard as those who wait for it see it. -/
def Guard.hold : Guard → Hold
  | .gone => .gone
  | _ => .held

@[simp] theorem Guard.hold_gone : Guard.gone.hold = .gone := rfl

theorem Guard.hold_of_isCounted {guard : Guard} (counted : guard.isCounted = true) :
    guard.hold = .held := by
  cases guard <;> first | rfl | cases counted

theorem Guard.count_hold (guard : Guard) :
    [guard.hold].count .held = if guard.isCounted then 1 else 0 := by
  cases guard <;> rfl

namespace Waking

/-- The life of a service as one drain sees it. -/
def ofLife (life : Lifecycle) (wait : Wait) : Waking :=
  ⟨life.health, life.guards.map Guard.hold, [wait]⟩

/-- A drain that is parked is notified just if nothing is in flight. -/
def watched (health : Health) (guards : List Hold) : Waking :=
  ⟨health, guards, [.parked (decide (health.inFlight = 0))]⟩

/-- The next guard is dropped. -/
theorem exists_turns_dropNext {health : Health} (passed rest : List Hold)
    (positive : 0 < health.inFlight) :
    ∃ turns, Turns Step (watched health (passed ++ .held :: rest)) turns
      (watched health.leave (passed ++ .gone :: rest)) := by
  obtain ⟨turns, dropped⟩ := exists_turns_drop
    (show (watched health (passed ++ .held :: rest)).guards[passed.length]? = some .held by
      simp [watched])
  have waits : (if health.inFlight = 1
        then [Wait.parked (decide (health.inFlight = 0))].map Wait.notify
        else [.parked (decide (health.inFlight = 0))]) =
      [.parked (decide (health.leave.inFlight = 0))] := by
    by_cases one : health.inFlight = 1
    · simp [one, Wait.notify, Health.leave]
    · have more : health.inFlight - 1 ≠ 0 := by omega
      simp [one, Health.leave, more, Nat.ne_of_gt positive]
  have guards : (passed ++ .held :: rest).set passed.length .gone = passed ++ .gone :: rest := by
    simp
  have reached := congr (congrArg (Waking.mk health.leave) guards) waits
  exact ⟨turns, (show _ = watched health.leave (passed ++ .gone :: rest) from reached) ▸ dropped⟩

/-- **Guards that leave one after the other** notify a drain that is parked just if nothing is in
flight then.  The induction is on the guards that are left, with those before them in `passed`. -/
theorem exists_turns_leave (passes : Nat → Bool) (guards : List Guard) (health : Health)
    (passed : List Hold)
    (balanced : health.inFlight = passed.count .held + guards.countP Guard.isCounted) :
    ∃ turns, Turns Step (watched health (passed ++ guards.map Guard.hold)) turns
      (watched
        { health with inFlight := health.inFlight - guards.countP (Guard.leavesWhen passes) }
        (passed ++ (guards.map fun guard =>
          if guard.leavesWhen passes then .gone else guard).map Guard.hold)) := by
  induction guards generalizing health passed with
  | nil => exact ⟨[], .stay _⟩
  | cons guard rest ih =>
    have balanced' : health.inFlight =
        (passed ++ [guard.hold]).count .held + rest.countP Guard.isCounted := by
      rw [balanced, List.countP_cons, List.count_append, Guard.count_hold]
      omega
    by_cases leaves : guard.leavesWhen passes = true
    · have counted : guard.isCounted = true := Guard.isCounted_of_leavesWhen leaves
      have held : guard.hold = .held := Guard.hold_of_isCounted counted
      rw [held, List.count_append, List.count_singleton_self] at balanced'
      obtain ⟨first, dropped⟩ := exists_turns_dropNext passed (rest.map Guard.hold)
        (show 0 < health.inFlight by omega)
      have afterwards : health.inFlight - 1 =
          (passed ++ [Hold.gone]).count .held + rest.countP Guard.isCounted := by
        rw [List.count_append, show [Hold.gone].count .held = 0 from rfl]
        omega
      obtain ⟨others, left⟩ := ih health.leave (passed ++ [Hold.gone]) afterwards
      have fewer : health.leave.inFlight - rest.countP (Guard.leavesWhen passes) =
          health.inFlight - (rest.countP (Guard.leavesWhen passes) + 1) := by
        rw [Nat.add_comm]
        exact Nat.sub_sub ..
      rw [List.append_assoc, List.append_assoc, fewer] at left
      refine ⟨first ++ others, ?_⟩
      simpa [leaves, held] using dropped.append left
    · obtain ⟨turns, left⟩ := ih health (passed ++ [guard.hold]) balanced'
      refine ⟨turns, ?_⟩
      simpa [leaves] using left

theorem exists_turns_depart {life : Lifecycle} (balanced : life.Balanced) (passes : Nat → Bool) :
    ∃ turns, Turns Step (watched life.health (life.guards.map Guard.hold)) turns
      (watched (life.depart passes).health ((life.depart passes).guards.map Guard.hold)) :=
  exists_turns_leave passes life.guards life.health [] (balanced.trans (Nat.zero_add _).symm)

/-- Any turn but the one that stops the service takes the drain further and nothing else. -/
theorem step_ofLife {life : Lifecycle} {own : WaitTurn}
    (moves : old.Moves life.health.inFlight own new) (other : own ≠ .storeStopped) :
    Step (ofLife life old) (.wait 0 own) (ofLife life new) := by
  have step := Step.wait (show (ofLife life old).waits[0]? = some old from rfl) moves
  rw [WaitTurn.apply_eq_self other] at step
  exact step

/-- A drain that begins while nothing is in flight stops the service. -/
theorem turns_stop {life : Lifecycle} (quiet : life.health.inFlight = 0) :
    Turns Step (ofLife life .begun)
      [.wait 0 .register, .wait 0 .readCounter, .wait 0 .storeStopped]
      (ofLife { life with health := ⟨.stopped, 0⟩ } (.returned true)) := by
  have stop := Step.wait (show (ofLife life .clear).waits[0]? = some .clear from rfl) .storeStopped
  have stopped : WaitTurn.apply .storeStopped life.health = ⟨.stopped, 0⟩ := by
    rw [WaitTurn.apply, quiet]
  rw [show (ofLife life .clear).health = life.health from rfl, stopped] at stop
  exact .move (step_ofLife .register (by decide)) <|
    .move (step_ofLife (.readZero quiet) (by decide)) <| .move stop <| .stay _

/-- A drain that begins while a guard is in flight parks. -/
theorem turns_park {life : Lifecycle} (busy : life.health.inFlight ≠ 0) :
    Turns Step (ofLife life .begun) [.wait 0 .register, .wait 0 .readCounter, .wait 0 .park]
      (watched life.health (life.guards.map Guard.hold)) := by
  rw [watched, decide_eq_false busy]
  exact .move (step_ofLife .register (by decide)) <|
    .move (step_ofLife (.readMore busy) (by decide)) <|
    .move (step_ofLife .park (by decide)) <| .stay _

/-- **What `Lifecycle.drain` does, a drain does turn by turn** while the guards leave. -/
theorem exists_turns_drain {life : Lifecycle} (balanced : life.Balanced) (timeout : Nat) :
    ∃ turns, Turns Step (ofLife life .begun) turns
      (ofLife (life.drain timeout).1 (.returned (life.drain timeout).2)) := by
  rw [Lifecycle.drain]
  by_cases quiet : life.health.inFlight = 0
  · rw [Health.stop?_of_zero quiet]
    exact ⟨_, turns_stop quiet⟩
  rw [Health.stop?, if_neg quiet]
  dsimp only
  obtain ⟨turns, leave⟩ := exists_turns_depart balanced (· < life.clock + timeout)
  have reached := (turns_park quiet).append leave
  have departed := Lifecycle.inFlight_depart balanced (life.clock + timeout)
  generalize life.depart (· < life.clock + timeout) = after at reached departed
  cases last : life.lastLeaving? (life.clock + timeout) with
  | none =>
    have staying := departed ▸ (Lifecycle.lastLeaving?_eq_none_iff _).1 last
    rw [watched, decide_eq_false staying] at reached
    exact ⟨_, reached.append (.move (step_ofLife .giveUp (by decide)) (.stay _))⟩
  | some time =>
    have left : after.health.inFlight = 0 := by
      refine Decidable.byContradiction fun staying => ?_
      rw [(Lifecycle.lastLeaving?_eq_none_iff _).2 (departed ▸ staying)] at last
      cases last
    rw [watched, decide_eq_true left] at reached
    dsimp only
    rw [Health.stop?_of_zero left]
    exact ⟨_, reached.append (.move (step_ofLife .wake (by decide)) (turns_stop left))⟩

end Waking

end PropertyGate
