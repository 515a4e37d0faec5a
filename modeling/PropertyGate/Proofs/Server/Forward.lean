import Mathlib.Data.List.Chain
import PropertyGate.Proofs.Server.AllOrNothing
import PropertyGate.Proofs.Service.Layers

/-!
# Proofs/Server/Forward — when a server goes back to an earlier state

A server is to come up, be ready, drain and stop, in this order.  What moves it looks at nothing but
the event, so two events can take it back: whoever makes a server ready, or serves with it, opens a
server that shuts down already (`Reopens`), and whoever tells a stopped server to shut down has it
drain once more (`Retreats`).  Nothing else does.  Hence, over a whole run and everything that the
server goes through on its way, **the states come in their order just if no event retreats, and a
server that refuses work goes on refusing just if no event reopens it** (`run_forward_iff`).

A server that starts and serves has no such event to it.  **In another order a server that drains is
ready again** (`ready_after_draining`).

What happens while a server serves is a run in which these events stand between those that serving
is made of: `setReady`, `triggerShutdown` twice, and `drain`.
-/

namespace PropertyGate

/-! ## What moves the state of a life -/

namespace HealthState

/-- **To shut down is to be past the point of being ready.** -/
theorem isShuttingDown_iff {state : HealthState} :
    state.isShuttingDown = true ↔ ready.rank < state.rank := by
  cases state <;> decide

theorem rank_le_stopped (state : HealthState) : state.rank ≤ stopped.rank := by
  cases state <;> decide

end HealthState

/-- Whatever stops is stopped. -/
theorem Health.state_of_stop? {health stopped : Health} (h : health.stop? = some stopped) :
    stopped.state = .stopped := by
  rw [Health.stop?] at h
  split at h
  · obtain rfl := Option.some.inj h
    rfl
  · cases h

namespace Lifecycle

variable (life : Lifecycle)

theorem state_release (index : Nat) :
    (life.release index).health.state = life.health.state := by
  rw [release]
  split <;> rfl

theorem state_leaveAfter (delay : Nat) :
    (life.leaveAfter delay).health.state = life.health.state := by
  rw [leaveAfter]
  split <;> rfl

/-- **A drain either stops a service or leaves its state as it is.** -/
theorem state_drain (timeout : Nat) :
    (life.drain timeout).1.health.state = .stopped ∨
      (life.drain timeout).1.health.state = life.health.state := by
  rw [drain]
  cases now : life.health.stop? with
  | some stopped => exact .inl (Health.state_of_stop? now)
  | none =>
    dsimp only
    cases life.lastLeaving? (life.clock + timeout) with
    | none => exact .inr rfl
    | some last =>
      dsimp only
      cases later : (life.depart (· < life.clock + timeout)).health.stop? with
      | some stopped => exact .inl (Health.state_of_stop? later)
      | none => exact .inr rfl

end Lifecycle

/-! ## Relations of states -/

/-- **A relation of states that the usual order of a life keeps**: from ready to draining, and from
anywhere to stopped. -/
structure HealthState.Onward (R : HealthState → HealthState → Prop) : Prop where
  refl (state : HealthState) : R state state
  trans {early late last : HealthState} : R early late → R late last → R early last
  drains : R .ready .draining
  stops (state : HealthState) : R state .stopped

namespace HealthState

/-- The later state is no earlier one. -/
def NoEarlier (before after : HealthState) : Prop := before.rank ≤ after.rank

/-- Whoever is turned away in the first state is turned away in the second. -/
def StaysShut (before after : HealthState) : Prop :=
  before.isShuttingDown = true → after.isShuttingDown = true

theorem onward_noEarlier : Onward NoEarlier where
  refl _ := Nat.le_refl _
  trans := Nat.le_trans
  drains := Nat.le_succ _
  stops := rank_le_stopped

theorem onward_staysShut : Onward StaysShut where
  refl _ := id
  trans first second := second ∘ first
  drains _ := rfl
  stops _ _ := rfl

end HealthState

/-- Whether an event sets the state of a server by itself. -/
def Event.setsState : Event → Bool
  | .setReady => true
  | .triggerShutdown => true
  | .serve => true
  | _ => false

namespace Server

variable {service : Service} {machine : Machine} {server : Server} {event : Event}
  {events : List Event} {R : HealthState → HealthState → Prop}

/-! ## What a server goes through -/

/-- **What a server goes through between the start and the end of an event.**  Serving alone comes in
several steps: the server is ready, it is told to shut down, and once nothing is served any longer it
is told so again, before it is drained. -/
def onTheWay (service : Service) (machine : Machine) (server : Server) : Event → List Server
  | .serve =>
    if server.listener = .bound ∧ service.network.tlsFault? machine = none then
      let ready := { server with listener := .consumed }.mapHealth Health.setReady
      let draining := ready.mapHealth Health.triggerShutdown
      [ready, draining, draining.mapHealth Health.triggerShutdown]
    else []
  | _ => []

/-- **Everything that a server goes through in a run**, from where it starts. -/
def passage (service : Service) (machine : Machine) : Server → List Event → List Server
  | server, [] => [server]
  | server, event :: events =>
    server :: (server.onTheWay service machine event ++
      passage service machine (server.step service machine event).1 events)

/-- Every event of a run is fine for the server that it finds. -/
def Throughout (service : Service) (machine : Machine) (fine : Server → Event → Prop) :
    Server → List Event → Prop
  | _, [] => True
  | server, event :: events =>
    fine server event ∧ Throughout service machine fine (server.step service machine event).1 events

/-- The states of two servers are in a relation. -/
def Related (R : HealthState → HealthState → Prop) (before after : Server) : Prop :=
  R before.health.state after.health.state

/-- What has to hold for the states that a server goes through in an event to be in a relation. -/
def Allows (R : HealthState → HealthState → Prop) (server : Server) : Event → Prop
  | .setReady => R server.health.state .ready
  | .triggerShutdown => R server.health.state .draining
  | .serve => server.listener = .bound → R server.health.state .ready
  | _ => True

/-! ## One event -/

/-- **Apart from those that set the state by themselves, an event stops a server or leaves its state
as it is.** -/
theorem state_step (plain : event.setsState = false) :
    (server.step service machine event).1.health.state = .stopped ∨
      (server.step service machine event).1.health.state = server.health.state := by
  cases event with
  | setReady | triggerShutdown | serve => cases plain
  | request request generatedId uptime =>
    right
    have kept : (server.outcome service request generatedId uptime).health = server.health :=
      Service.health_respond
    change (server.outcome service request generatedId uptime).health.state = _
    rw [kept]
  | declareGroup group =>
    right
    simp only [step, declare]
    split <;> rfl
  | declareField field =>
    right
    simp only [step, declare]
    split <;> rfl
  | acquire => exact .inr rfl
  | release index => exact .inr (Lifecycle.state_release _ _)
  | drain timeout leaveAfter =>
    cases leaveAfter with
    | none => exact server.life.state_drain timeout
    | some delay =>
      refine ((server.life.leaveAfter delay).state_drain timeout).imp_right fun same => ?_
      exact same.trans (server.life.state_leaveAfter delay)
  | start =>
    obtain ⟨listener, moved⟩ := server.exists_start_eq service.network machine
    rw [step, moved]
    exact .inr rfl

theorem related_of_state (onward : HealthState.Onward R) {before after : Server}
    (h : after.health.state = .stopped ∨ after.health.state = before.health.state) :
    Related R before after := by
  rcases h with stopped | same
  · rw [Related, stopped]
    exact onward.stops _
  · rw [Related, same]
    exact onward.refl _

/-- **Serving keeps a relation just if being ready does**: what follows is the usual order. -/
theorem isChain_serve_iff (onward : HealthState.Onward R) :
    (server :: (server.onTheWay service machine .serve ++
      [(server.step service machine .serve).1])).IsChain (Related R) ↔
      server.Allows R .serve := by
  simp only [onTheWay, step, serve, Allows]
  cases server.listener with
  | consumed => exact iff_of_true (List.isChain_pair.2 (onward.refl _)) nofun
  | unbound => exact iff_of_true (List.isChain_pair.2 (onward.refl _)) nofun
  | bound =>
    simp only [true_implies]
    cases service.network.tlsFault? machine with
    | some fault => exact List.isChain_pair
    | none =>
      -- Ready, told to shut down, told once more, drained: only the first can go back.
      simp only [if_true, List.cons_append, List.nil_append, List.isChain_cons_cons,
        List.isChain_singleton, and_true]
      refine and_iff_left ⟨onward.drains, onward.refl _, related_of_state onward ?_⟩
      exact Lifecycle.state_drain _ _

/-- **One event keeps a relation just if the states that it sets by itself do.** -/
theorem isChain_event_iff (onward : HealthState.Onward R) (server : Server) (event : Event) :
    (server :: (server.onTheWay service machine event ++
      [(server.step service machine event).1])).IsChain (Related R) ↔ server.Allows R event := by
  cases plain : event.setsState with
  | false =>
    have way : server.onTheWay service machine event = [] := by
      cases event with
      | setReady | triggerShutdown | serve => cases plain
      | _ => rfl
    have allows : server.Allows R event := by
      cases event with
      | setReady | triggerShutdown | serve => cases plain
      | _ => trivial
    rw [way]
    exact iff_of_true (List.isChain_pair.2 (related_of_state onward (state_step plain))) allows
  | true =>
    cases event with
    | setReady => exact List.isChain_pair
    | triggerShutdown => exact List.isChain_pair
    | serve => exact isChain_serve_iff onward
    | _ => cases plain

/-! ## A run -/

theorem passage_eq_cons (service : Service) (machine : Machine) (server : Server)
    (events : List Event) : ∃ rest, server.passage service machine events = server :: rest := by
  cases events with
  | nil => exact ⟨[], rfl⟩
  | cons event events => exact ⟨_, rfl⟩

/-- **A run keeps a relation just if each of its events does.** -/
theorem pairwise_passage_iff (onward : HealthState.Onward R) {fine : Server → Event → Prop}
    (allows : ∀ server event, Allows R server event ↔ fine server event) (server : Server)
    (events : List Event) :
    (server.passage service machine events).Pairwise (Related R) ↔
      server.Throughout service machine fine events := by
  have : Trans (Related R) (Related R) (Related R) := ⟨onward.trans⟩
  rw [← List.isChain_iff_pairwise]
  induction events generalizing server with
  | nil => exact iff_of_true (.singleton _) trivial
  | cons event events ih =>
    -- What is left of the run goes on from the server that the event comes to.
    obtain ⟨rest, later⟩ := passage_eq_cons service machine
      (server.step service machine event).1 events
    rw [passage, later, List.isChain_cons_split, ← later, isChain_event_iff onward, allows]
    exact and_congr_right fun _ => ih _

/-! ## Going back -/

/-- **The server refuses whatever work there is for the API.** -/
def Refuses (server : Server) : Prop :=
  ∀ uptime work, Service.admitWork (server.snapshot uptime) work =
    .refuse (server.snapshot uptime) .shuttingDown

theorem refuses_iff : server.Refuses ↔ server.health.state.isShuttingDown = true := by
  constructor
  · intro refuses
    refine Decidable.byContradiction fun admits => ?_
    -- A server that admits work would answer it.
    have answered := refuses 0 fun found => .answer found (.empty 200)
    rw [Service.admitWork, if_neg (show ¬(server.snapshot 0).health.state.isShuttingDown = true
      from admits)] at answered
    have status : (200 : UInt16) = 503 := congrArg (·.response.status) answered
    exact absurd status (by decide)
  · intro shutting uptime work
    exact if_pos shutting

/-- **An event opens a server that refuses work**: the server is made ready, or serves. -/
def Reopens (server : Server) : Event → Prop
  | .setReady => server.Refuses
  | .serve => server.listener = .bound ∧ server.Refuses
  | _ => False

/-- **An event takes a server back to an earlier state**: it opens it again, or tells it to shut down
when it has stopped. -/
def Retreats (server : Server) : Event → Prop
  | .triggerShutdown => server.health.state = .stopped
  | event => server.Reopens event

theorem noEarlier_ready_iff : server.health.state.NoEarlier .ready ↔ ¬ server.Refuses := by
  rw [refuses_iff, HealthState.isShuttingDown_iff, Nat.not_lt, HealthState.NoEarlier]

theorem staysShut_ready_iff : server.health.state.StaysShut .ready ↔ ¬ server.Refuses := by
  rw [refuses_iff]
  exact imp_congr_right fun _ => iff_of_false nofun nofun

theorem noEarlier_draining_iff :
    server.health.state.NoEarlier .draining ↔ ¬ server.health.state = .stopped := by
  rw [HealthState.NoEarlier]
  cases server.health.state <;> decide

theorem allows_noEarlier_iff (server : Server) (event : Event) :
    server.Allows HealthState.NoEarlier event ↔ ¬ server.Retreats event := by
  cases event with
  | setReady => exact noEarlier_ready_iff
  | triggerShutdown => exact noEarlier_draining_iff
  | serve => exact (imp_congr_right fun _ => noEarlier_ready_iff).trans not_and.symm
  | _ => exact iff_of_true trivial id

theorem allows_staysShut_iff (server : Server) (event : Event) :
    server.Allows HealthState.StaysShut event ↔ ¬ server.Reopens event := by
  cases event with
  | setReady => exact staysShut_ready_iff
  | triggerShutdown => exact iff_of_true (fun _ => rfl) id
  | serve => exact (imp_congr_right fun _ => staysShut_ready_iff).trans not_and.symm
  | _ => exact iff_of_true trivial id

/-- **When a run goes forward.**  Over everything that a server goes through in a run, no state comes
after a later one just if no event takes the server back, and whoever refuses work goes on refusing
it just if no event opens the server again. -/
theorem run_forward_iff (service : Service) (machine : Machine) (server : Server)
    (events : List Event) :
    let passage := server.passage service machine events
    (passage.Pairwise (fun before after => before.health.state.rank ≤ after.health.state.rank) ↔
      server.Throughout service machine (fun server event => ¬ server.Retreats event) events) ∧
    (passage.Pairwise (fun before after => before.Refuses → after.Refuses) ↔
      server.Throughout service machine (fun server event => ¬ server.Reopens event) events) := by
  refine ⟨pairwise_passage_iff HealthState.onward_noEarlier allows_noEarlier_iff server events, ?_⟩
  simp only [refuses_iff]
  exact pairwise_passage_iff HealthState.onward_staysShut allows_staysShut_iff server events

theorem serving_goes_forward :
    (({} : Server).passage sampleService (.working .empty) [.start, .serve]).Pairwise
      fun before after => before.health.state.rank ≤ after.health.state.rank := by
  obtain ⟨⟨-, forward⟩, -⟩ := run_forward_iff sampleService (.working .empty) {} [.start, .serve]
  refine forward ⟨id, fun reopens => ?_, trivial⟩
  exact absurd (refuses_iff.1 reopens.2) (by decide)

/-- **A server that drains is ready again, and one that has stopped drains again.** -/
theorem ready_after_draining :
    let machine := Machine.working .empty
    let draining := ({} : Server).run sampleService machine [.setReady, .triggerShutdown]
    let again := (draining.step sampleService machine .setReady).1
    let stopped := (draining.step sampleService machine (.drain 100 none)).1
    let draining' := (stopped.step sampleService machine .triggerShutdown).1
    (draining.Refuses ∧ ¬ again.Refuses ∧
      again.health.state.rank < draining.health.state.rank) ∧
    (stopped.health.state = .stopped ∧ draining'.health.state.rank < stopped.health.state.rank) :=
  ⟨⟨refuses_iff.2 rfl, fun refuses => absurd (refuses_iff.1 refuses) (by decide), by decide⟩, rfl,
    by decide⟩

end Server

end PropertyGate
