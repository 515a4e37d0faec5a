import PropertyGate.Lifecycle.Health

/-!
# Lifecycle/Guard — guards that keep a service from stopping

Guards are handed out one after the other and known by their number. A guard is held until it is
released, or leaves at a time that is fixed; until then it counts as in flight. A drain waits for
the last guard to leave, up to a deadline: `drain` moves the clock to whichever comes first.
-/

namespace PropertyGate

/-- What has become of a guard. -/
inductive Guard where
  | held
  /-- Gone at a time on the clock, in milliseconds. -/
  | leaving (due : Nat)
  | gone
deriving DecidableEq, Repr

namespace Guard

/-- Whether the guard counts as in flight. -/
def isCounted : Guard → Bool
  | .held => true
  | .leaving _ => true
  | .gone => false

/-- Whether the guard leaves at a time that passes the test. -/
def leavesWhen (passes : Nat → Bool) : Guard → Bool
  | .leaving due => passes due
  | _ => false

end Guard

/-- **The life of a service**: its health, the guards handed out so far, and the time. -/
structure Lifecycle where
  health : Health := {}
  guards : List Guard := []
  clock : Nat := 0
deriving DecidableEq, Repr, Inhabited

namespace Lifecycle

/-- Every guard that counts is in flight, and nothing else is. -/
def Balanced (life : Lifecycle) : Prop :=
  life.health.inFlight = life.guards.countP Guard.isCounted

/-- Hands out a guard; its number is the number of guards before it. -/
def acquire (life : Lifecycle) : Lifecycle :=
  { life with health := life.health.enter, guards := life.guards ++ [.held] }

/-- Whether the guard of a number is held. -/
def holds (life : Lifecycle) (index : Nat) : Bool := life.guards[index]? == some .held

/-- Releases a guard that is held. -/
def release (life : Lifecycle) (index : Nat) : Lifecycle :=
  if life.holds index then
    { life with health := life.health.leave, guards := life.guards.set index .gone }
  else life

/-- Fixes the time at which the first guard that is held leaves. -/
def leaveAfter (life : Lifecycle) (delay : Nat) : Lifecycle :=
  match life.guards.findIdx? (· = .held) with
  | some index =>
    { life with guards := life.guards.set index (.leaving (life.clock + delay)) }
  | none => life

/-- Lets the guards leave whose time passes the test. -/
def depart (life : Lifecycle) (passes : Nat → Bool) : Lifecycle :=
  let departed := life.guards.countP (Guard.leavesWhen passes)
  { life with
    health := { life.health with inFlight := life.health.inFlight - departed }
    guards := life.guards.map fun guard => if guard.leavesWhen passes then .gone else guard }

/-- Lets time pass; guards whose time has come leave. -/
def elapse (life : Lifecycle) (time : Nat) : Lifecycle :=
  let now := life.clock + time
  { life.depart (· ≤ now) with clock := now }

/-- The time at which the last guard leaves, if all leave before the deadline. -/
def lastLeaving? (life : Lifecycle) (deadline : Nat) : Option Nat :=
  if life.guards.all fun guard => !guard.isCounted || guard.leavesWhen (· < deadline) then
    some (life.guards.foldl (fun last guard =>
      match guard with
      | .leaving due => max last due
      | _ => last) life.clock)
  else none

/-- **Waits until nothing is in flight**, up to a time; says whether the service stopped. A wait
that ends at its deadline leaves the state as it is. -/
def drain (life : Lifecycle) (timeout : Nat) : Lifecycle × Bool :=
  match life.health.stop? with
  | some stopped => ({ life with health := stopped }, true)
  | none =>
    let deadline := life.clock + timeout
    match life.lastLeaving? deadline with
    | some last =>
      let departed := { life.depart (· < deadline) with clock := last }
      match departed.health.stop? with
      | some stopped => ({ departed with health := stopped }, true)
      | none => (departed, false)
    | none => ({ life.depart (· < deadline) with clock := deadline }, false)

end Lifecycle

end PropertyGate
