import PropertyGate.Lifecycle.Guard

/-!
# Lifecycle/Balance — what is in flight is what is held

**Every operation on a life keeps it balanced**: the number in flight is the number of guards that
are held or leaving, and of whatever else was in flight before. A guard that is released or leaves
is taken off once and no more. A drain goes by the guards that stay until its deadline: if there are
none the service stops, otherwise they are in flight still (`Lifecycle.health_drain`).
-/

namespace PropertyGate

/-- Replacing one of a list changes the count by the two that are exchanged. -/
theorem countP_set {α : Type} (counts : α → Bool) {list : List α} {index : Nat} {old : α} (new : α)
    (h : list[index]? = some old) :
    (list.set index new).countP counts + (if counts old then 1 else 0) =
      list.countP counts + (if counts new then 1 else 0) := by
  induction list generalizing index with
  | nil => cases h
  | cons one rest ih =>
    cases index with
    | zero =>
      obtain rfl : one = old := by simpa using h
      simp only [List.set_cons_zero, List.countP_cons]
      omega
    | succ index =>
      have := ih (show rest[index]? = some old by simpa using h)
      simp only [List.set_cons_succ, List.countP_cons]
      omega

/-- Guards that are gone do not count. -/
theorem Guard.not_isCounted_gone : Guard.gone.isCounted = false := rfl

theorem Guard.isCounted_of_leavesWhen {guard : Guard} {passes : Nat → Bool}
    (h : guard.leavesWhen passes = true) : guard.isCounted = true := by
  cases guard with
  | leaving due => rfl
  | held => cases h
  | gone => cases h

namespace Lifecycle

/-- Every guard that counts is in flight, and `others` besides. -/
def Carries (others : Nat) (life : Lifecycle) : Prop :=
  life.health.inFlight = life.guards.countP Guard.isCounted + others

variable {others : Nat} {life : Lifecycle}

theorem carries_zero_iff : life.Carries 0 ↔ life.Balanced := Iff.rfl

theorem balanced_initial : ({} : Lifecycle).Balanced := rfl

theorem Carries.acquire (h : life.Carries others) : life.acquire.Carries others := by
  simp only [Carries, Lifecycle.acquire, Health.enter, List.countP_append, List.countP_singleton,
    Guard.isCounted] at h ⊢
  simp only [if_true]
  omega

theorem holds_iff {life : Lifecycle} {index : Nat} :
    life.holds index = true ↔ life.guards[index]? = some .held := by
  simp [holds]

theorem Carries.release (h : life.Carries others) (index : Nat) :
    (life.release index).Carries others := by
  rw [Lifecycle.release]
  split
  · rename_i held
    have count := countP_set Guard.isCounted .gone (holds_iff.1 held)
    simp only [Carries, Health.leave, Guard.isCounted] at h count ⊢
    simp at count
    omega
  · exact h

theorem Carries.leaveAfter (h : life.Carries others) (delay : Nat) :
    (life.leaveAfter delay).Carries others := by
  rw [Lifecycle.leaveAfter]
  split
  · rename_i index found
    obtain ⟨inside, held, -⟩ := List.findIdx?_eq_some_iff_getElem.1 found
    have first : life.guards[index]? = some .held := by
      rw [List.getElem?_eq_getElem inside]
      exact congrArg some (by simpa using held)
    have count := countP_set Guard.isCounted (.leaving (life.clock + delay)) first
    simp only [Carries, Guard.isCounted] at h count ⊢
    simp at count
    omega
  · exact h

/-- The guards that leave are among those that count, and the others stay. -/
theorem countP_depart (guards : List Guard) (passes : Nat → Bool) :
    (guards.map fun guard => if guard.leavesWhen passes then Guard.gone else guard).countP
        Guard.isCounted + guards.countP (Guard.leavesWhen passes) =
      guards.countP Guard.isCounted := by
  induction guards with
  | nil => rfl
  | cons guard rest ih =>
    simp only [List.map_cons, List.countP_cons]
    by_cases leaves : guard.leavesWhen passes = true
    · have counted := Guard.isCounted_of_leavesWhen leaves
      rw [if_pos leaves, if_pos leaves, if_pos counted, Guard.not_isCounted_gone]
      simp only [Bool.false_eq_true, if_false]
      omega
    · rw [if_neg leaves, if_neg leaves]
      omega

theorem Carries.depart (h : life.Carries others) (passes : Nat → Bool) :
    (life.depart passes).Carries others := by
  have count := countP_depart life.guards passes
  simp only [Carries, Lifecycle.depart] at h ⊢
  omega

theorem Carries.elapse (h : life.Carries others) (time : Nat) :
    (life.elapse time).Carries others := h.depart _

/-- A service that stops has nothing in flight, before and after. -/
theorem inFlight_of_stop? {health stopped : Health} (h : health.stop? = some stopped) :
    stopped.inFlight = health.inFlight ∧ health.inFlight = 0 := by
  rw [Health.stop?] at h
  split at h
  · cases h
    exact ⟨rfl, by assumption⟩
  · cases h

/-- **A drain keeps a life balanced**, however it ends. -/
theorem Carries.drain (h : life.Carries others) (timeout : Nat) :
    (life.drain timeout).1.Carries others := by
  rw [Lifecycle.drain]
  split
  · rename_i stopped found
    exact (inFlight_of_stop? found).1.trans h
  · dsimp only
    split
    · have departed := h.depart (· < life.clock + timeout)
      split
      · rename_i found
        exact (inFlight_of_stop? found).1.trans departed
      · exact departed
    · exact h.depart _

end Lifecycle

/-! ## What a drain leaves -/

/-- The guard counts and does not leave before the given time. -/
def Guard.staysUntil (time : Nat) (guard : Guard) : Bool :=
  guard.isCounted && !guard.leavesWhen (· < time)

theorem Health.stop?_of_zero {health : Health} (quiet : health.inFlight = 0) :
    health.stop? = some ⟨.stopped, 0⟩ := by
  rw [stop?, if_pos quiet, quiet]

namespace Lifecycle

variable {life : Lifecycle}

theorem inFlight_depart (balanced : life.Balanced) (time : Nat) :
    (life.depart (· < time)).health.inFlight = life.guards.countP (Guard.staysUntil time) := by
  refine ((carries_zero_iff.2 balanced).depart (· < time)).trans ?_
  rw [Nat.add_zero, depart, List.countP_map]
  refine List.countP_congr fun guard _ => ?_
  rw [Function.comp_apply, Guard.staysUntil]
  split
  · simp [*, Guard.isCounted]
  · simp [*]

theorem lastLeaving?_eq_none_iff (deadline : Nat) :
    life.lastLeaving? deadline = none ↔ life.guards.countP (Guard.staysUntil deadline) ≠ 0 := by
  simp [lastLeaving?, Guard.staysUntil]

/-- **A drain goes by the guards that stay until its deadline.** -/
theorem health_drain (balanced : life.Balanced) (timeout : Nat) :
    let staying := life.guards.countP (Guard.staysUntil (life.clock + timeout))
    (life.drain timeout).1.health =
      ⟨if staying = 0 then .stopped else life.health.state, staying⟩ := by
  intro staying
  have departed : (life.depart (· < life.clock + timeout)).health.inFlight = staying :=
    inFlight_depart balanced _
  have fewer : staying ≤ life.health.inFlight := by
    rw [show life.health.inFlight = _ from balanced]
    exact List.countP_mono_left fun guard _ stays => (Bool.and_eq_true_iff.1 stays).1
  rw [drain]
  by_cases quiet : life.health.inFlight = 0
  · have nobody : staying = 0 := by omega
    rw [Health.stop?_of_zero quiet, nobody, if_pos rfl]
  rw [Health.stop?, if_neg quiet]
  dsimp only
  cases last : life.lastLeaving? (life.clock + timeout) with
  | none =>
    rw [if_neg ((lastLeaving?_eq_none_iff _).1 last), ← departed]
    rfl
  | some time =>
    have nobody : staying = 0 := by
      refine Decidable.byContradiction fun some => ?_
      rw [(lastLeaving?_eq_none_iff _).2 some] at last
      cases last
    dsimp only
    rw [Health.stop?_of_zero (departed.trans nobody), nobody, if_pos rfl]

end Lifecycle

end PropertyGate
