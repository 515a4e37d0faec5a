import PropertyGate.Proofs.Server.AllOrNothing
import PropertyGate.Proofs.Service.Layers

/-!
# Proofs/Server/Draining — a service that shuts down only tells how it is

While a service is draining or stopped, whatever it is asked leaves it alone (`LeavesAlone`): nothing
is stored, counted or asked, and no time passes.  The refusal stands before everything that an API
route would look at, so every method of such a route is refused, whatever else is wrong with the
request; the probes lie outside of it and go on telling how the service is.  **So much is all that a
request does to a server that shuts down** (`step_request_while_shutting_down`).
-/

namespace PropertyGate

open Http (Request Response)

/-- **The outcome leaves everything alone**: nothing is stored or counted, nobody is asked, and no
time passes. -/
structure Outcome.LeavesAlone (snapshot : Snapshot) (outcome : Outcome) : Prop where
  store : outcome.store = snapshot.store
  health : outcome.health = snapshot.health
  log : outcome.log = []
  elapsed : outcome.elapsed = 0

namespace Outcome.LeavesAlone

variable {snapshot : Snapshot} {outcome : Outcome}

theorem answer (response : Response) : LeavesAlone snapshot (.answer snapshot response) :=
  ⟨rfl, rfl, rfl, rfl⟩

theorem refuse (refusal : Refusal) : LeavesAlone snapshot (.refuse snapshot refusal) := answer _

theorem mapResponse (h : LeavesAlone snapshot outcome) (f : Response → Response) :
    LeavesAlone snapshot (outcome.mapResponse f) :=
  ⟨h.store, h.health, h.log, h.elapsed⟩

theorem calls (h : LeavesAlone snapshot outcome) : outcome.calls = [] :=
  congrArg (List.map TimedCall.call) h.log

/-- A deadline that is passed at once passes at time zero. -/
theorem within (h : LeavesAlone snapshot outcome) (timeout : Nat) :
    LeavesAlone snapshot (Service.within timeout snapshot outcome) := by
  rw [Service.within]
  split
  · exact h
  · rename_i late
    rw [h.elapsed] at late
    exact ⟨rfl, h.health, congrArg (List.filter _) h.log, Nat.eq_zero_of_not_pos late⟩

end Outcome.LeavesAlone

namespace Service

variable {service : Service} {snapshot : Snapshot} {generatedId : String} {request : Request}
  {route : Route}

/-! ## Probes and refusals -/

/-- Probes tell how the service is and do nothing. -/
theorem leavesAlone_dispatchMethod (probe : route.isApi = false) :
    Outcome.LeavesAlone snapshot (service.dispatchMethod snapshot request route) := by
  rw [dispatchMethod]
  cases asked : route.operation? request.method with
  | none => exact .answer _
  | some operation =>
    rw [Route.operation?] at asked
    split at asked
    · obtain rfl := Option.some.inj asked
      cases route <;> first | exact .answer _ | cases probe
    · split at asked
      · cases route <;> cases asked
        cases probe
      · cases asked

theorem followRoute_of_api (shutting : snapshot.health.state.isShuttingDown = true)
    (found : Route.of? request = some route) (api : route.isApi = true) :
    service.followRoute snapshot request = .refuse snapshot .shuttingDown := by
  rw [followRoute, found]
  dsimp only
  rw [if_pos api, admitWork, if_pos shutting]

theorem followRoute_of_probe (found : Route.of? request = some route) (probe : route.isApi = false) :
    service.followRoute snapshot request = service.dispatchMethod snapshot request route := by
  rw [followRoute, found]
  dsimp only
  rw [probe, if_neg Bool.false_ne_true]

theorem leavesAlone_followRoute (shutting : snapshot.health.state.isShuttingDown = true) :
    Outcome.LeavesAlone snapshot (service.followRoute snapshot request) := by
  cases found : Route.of? request with
  | none =>
    rw [followRoute, found]
    exact .answer _
  | some route =>
    cases api : route.isApi with
    | true =>
      rw [followRoute_of_api shutting found api]
      exact .refuse _
    | false =>
      rw [followRoute_of_probe found api]
      exact leavesAlone_dispatchMethod api

/-- **A service that shuts down is left alone**, whatever it is asked. -/
theorem leavesAlone_respond (shutting : snapshot.health.state.isShuttingDown = true)
    (generatedId : String) (request : Request) :
    Outcome.LeavesAlone snapshot (service.respond snapshot generatedId request) := by
  refine .mapResponse ?_ _
  rw [exchange]
  split
  · exact .answer _
  · refine .mapResponse ?_ _
    rw [guarded]
    split
    · exact .answer _
    · exact ((leavesAlone_followRoute shutting).mapResponse _).within _

/-! ## What is answered -/

/-- **Every method of an API route is refused.** -/
theorem status_respond_of_api (shutting : snapshot.health.state.isShuttingDown = true)
    (asks : request.method ≠ Http.preflightMethod)
    (declared : Http.declaresTooMuch service.network.maxBodyBytes request.headers = false)
    (timely : (service.respond snapshot generatedId request).elapsed <
      service.network.requestTimeout) (found : Route.of? request = some route)
    (api : route.isApi = true) :
    (service.respond snapshot generatedId request).response.status = 503 := by
  rw [respond_of_timely asks declared (elapsed_followRoute_lt asks declared timely),
    followRoute_of_api shutting (of?_withId.trans found) api]
  exact status_dressed _

/-- **Who looks at a probe sees what it shows.** -/
theorem respond_of_probe
    (declared : Http.declaresTooMuch service.network.maxBodyBytes request.headers = false)
    (timely : (service.respond snapshot generatedId request).elapsed <
      service.network.requestTimeout)
    (get : request.method = "GET") (found : Route.of? request = some route)
    (probe : route.isApi = false) :
    let shown := (service.perform snapshot (withId generatedId request) route.shown).response
    (service.respond snapshot generatedId request).response.status = shown.status ∧
      (service.respond snapshot generatedId request).response.body = shown.body := by
  have asks : request.method ≠ Http.preflightMethod := by
    rw [get]
    decide
  have asked : route.operation? (withId generatedId request).method = some route.shown := by
    rw [method_withId, get]
    rfl
  have answer : service.followRoute snapshot (withId generatedId request) =
      service.perform snapshot (withId generatedId request) route.shown := by
    rw [followRoute_of_probe (of?_withId.trans found) probe, dispatchMethod, asked]
  exact respond_of_shown get declared answer
    (answer ▸ elapsed_followRoute_lt asks declared timely)

end Service

/-! ## Servers -/

/-- **Where no guard is due, nothing happens at once.** -/
theorem Lifecycle.elapse_zero {life : Lifecycle}
    (none : ∀ guard ∈ life.guards, guard.leavesWhen (· ≤ life.clock) = false) :
    life.elapse 0 = life := by
  have departed : life.guards.countP (Guard.leavesWhen (· ≤ life.clock)) = 0 :=
    List.countP_eq_zero.2 fun guard listed => by simp [none guard listed]
  have kept : (life.guards.map fun guard =>
      if guard.leavesWhen (· ≤ life.clock) then Guard.gone else guard) = life.guards := by
    refine (List.map_congr_left fun guard listed => ?_).trans (List.map_id _)
    rw [none guard listed, if_neg Bool.false_ne_true, id]
  simp only [elapse, depart, Nat.add_zero, departed, kept, Nat.sub_zero]

namespace Server

/-- **What a request does to a server that shuts down, and what it is answered.**  Nothing is stored or
counted, nobody is asked, and no time passes; a guard that is due by itself leaves, and if none is, the
server is what it was.  Unless too long a body is declared, every method of an API route but the
question what may be asked is refused, whatever else the request says; and the probes show that the
server is alive, in which state it is, how much is in flight, and that it is not ready. -/
theorem step_request_while_shutting_down (service : Service) (machine : Machine) (server : Server)
    (request : Request) (generatedId : String) (uptime : Nat)
    (shutting : server.health.state = .draining ∨ server.health.state = .stopped) :
    let outcome := server.outcome service request generatedId uptime
    let response := outcome.response
    server.step service machine (.request request generatedId uptime) =
        ({ server with life := server.life.elapse 0 }, .answered response) ∧
      ((∀ guard ∈ server.life.guards, guard.leavesWhen (· ≤ server.life.clock) = false) →
        server.life.elapse 0 = server.life) ∧
      outcome.store = server.store ∧ outcome.health = server.health ∧ outcome.calls = [] ∧
      (outcome.elapsed < service.network.requestTimeout →
        Http.declaresTooMuch service.network.maxBodyBytes request.headers = false →
        (∀ segment, Route.of? request = some (.post segment) ∨
            Route.of? request = some (.teamStatus segment) →
          request.method ≠ Http.preflightMethod → response.status = 503) ∧
        (request.method = "GET" →
          (Route.of? request = some .health → response.status = 200 ∧
            ∃ members, response.body = (Json.Value.object members).print ∧
              ("state", .text server.health.state.name) ∈ members ∧
              ("in_flight", .number (.integer server.health.inFlight)) ∈ members) ∧
          (Route.of? request = some .liveness → response.status = 200) ∧
          (Route.of? request = some .readiness → response.status = 503))) := by
  intro outcome response
  have down : (server.snapshot uptime).health.state.isShuttingDown = true := by
    rcases shutting with h | h <;>
    · change server.health.state.isShuttingDown = true
      rw [h]
      rfl
  have alone : outcome.LeavesAlone (server.snapshot uptime) :=
    Service.leavesAlone_respond down generatedId request
  have after : server.after outcome = { server with life := server.life.elapse 0 } := by
    rw [Server.after, alone.store, alone.health, alone.elapsed]
    rfl
  refine ⟨by rw [step, ← after], Lifecycle.elapse_zero, alone.store, alone.health, alone.calls,
    fun timely declared => ⟨?_, fun get => ⟨fun found => ?_, fun found => ?_, fun found => ?_⟩⟩⟩
  · rintro segment (found | found) asks
    · exact Service.status_respond_of_api down asks declared timely found rfl
    · exact Service.status_respond_of_api down asks declared timely found rfl
  · obtain ⟨status, body⟩ := Service.respond_of_probe declared timely get found rfl
    exact ⟨status, _, body, by simp [snapshot], by simp [snapshot]⟩
  · exact (Service.respond_of_probe declared timely get found rfl).1
  · have notReady : server.health.state ≠ .ready := by
      rcases shutting with h | h <;> simp [h]
    exact (Service.respond_of_probe declared timely get found rfl).1.trans (if_neg notReady)

/-- The sample server while it is draining: one guard is held still. -/
def drainingServer : Server :=
  { sampleServer with life := { health := ⟨.draining, 1⟩, guards := [.held] } }

/-- A request that asks for nothing there is, with a body that says nothing, from nobody. -/
def anonymousRequest : Request where
  method := "DELETE"
  target := "/api/v4/properties/posts/p%ff"
  headers := []
  body := [123]

def healthRequest : Request where
  method := "GET"
  target := "/health"
  headers := []

theorem drainingServer_only_tells :
    let refused := drainingServer.outcome sampleService anonymousRequest "r1" 0
    let shown := drainingServer.outcome sampleService healthRequest "r1" 0
    (refused.response.status = 503 ∧ refused.store = drainingServer.store ∧
      refused.health = ⟨.draining, 1⟩ ∧ refused.calls = []) ∧
    shown.response.status = 200 ∧
      ∃ members, shown.response.body = (Json.Value.object members).print ∧
        ("in_flight", .number (.integer 1)) ∈ members := by
  have shutting : drainingServer.health.state = .draining ∨ drainingServer.health.state = .stopped :=
    .inl rfl
  obtain ⟨-, -, store, health, calls, answers⟩ := step_request_while_shutting_down sampleService
    (.working .empty) drainingServer anonymousRequest "r1" 0 shutting
  obtain ⟨-, -, -, -, -, tells⟩ := step_request_while_shutting_down sampleService
    (.working .empty) drainingServer healthRequest "r1" 0 shutting
  have refused := (answers (by decide +kernel) (by decide +kernel)).1 "p%ff"
    (.inl (by decide +kernel)) (by decide)
  obtain ⟨status, members, body, -, counted⟩ :=
    ((tells (by decide +kernel) (by decide +kernel)).2 rfl).1 (by decide +kernel)
  exact ⟨⟨refused, store, health, calls⟩, status, members, body, counted⟩

end Server

end PropertyGate
