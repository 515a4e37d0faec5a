/-!
# Lifecycle/Health — how a service comes up and goes down

A service is starting, ready, draining or stopped, and counts the requests in flight. While it is
draining or stopped it admits no request. It stops when a check finds nothing in flight.
-/

namespace PropertyGate

/-- Where a service is in its life. -/
inductive HealthState where
  | starting
  | ready
  | draining
  | stopped
deriving DecidableEq, Repr, Inhabited

namespace HealthState

/-- The name that health answers show. -/
def name : HealthState → String
  | .starting => "starting"
  | .ready => "ready"
  | .draining => "draining"
  | .stopped => "stopped"

/-- Whether requests are turned away. -/
def isShuttingDown : HealthState → Bool
  | .starting => false
  | .ready => false
  | .draining => true
  | .stopped => true

/-- The place in the order in which a life runs. -/
def rank : HealthState → Nat
  | .starting => 0
  | .ready => 1
  | .draining => 2
  | .stopped => 3

end HealthState

/-- **The health of a service**: its state, and the number of requests in flight. -/
structure Health where
  state : HealthState := .starting
  inFlight : Nat := 0
deriving DecidableEq, Repr, Inhabited

namespace Health

def setReady (health : Health) : Health := { health with state := .ready }

def triggerShutdown (health : Health) : Health := { health with state := .draining }

/-- One more request is in flight. -/
def enter (health : Health) : Health := { health with inFlight := health.inFlight + 1 }

/-- One request less is in flight. -/
def leave (health : Health) : Health := { health with inFlight := health.inFlight - 1 }

/-- The stopped service, if nothing is in flight. -/
def stop? (health : Health) : Option Health :=
  if health.inFlight = 0 then some { health with state := .stopped } else none

/-- Whoever enters and leaves again changes nothing. -/
@[simp] theorem leave_enter (health : Health) : health.enter.leave = health := rfl

@[simp] theorem state_leave (health : Health) : health.leave.state = health.state := rfl

end Health

end PropertyGate
