import PropertyGate.Proofs.Server.Draining
import PropertyGate.Proofs.Server.Forward
import PropertyGate.Proofs.Server.Resending
import PropertyGate.Proofs.Service.Replies

/-!
# Proofs/Server/Readiness — whether a server that admits work says that it is ready

Two questions are put to the state of a server: a probe asks whether it is ready, and whoever brings
work for the API whether it is shutting down.  A server that is starting answers them differently: it
is not ready, and admits work all the same (`admitted_while_starting`).  Every other server is ready
just if it admits work.  Nothing takes a server back to where it is starting, so in a run **the two
answers differ up to some point and agree from there on** (`ready_iff_admits_unless_starting`).
-/

namespace PropertyGate

open Http (Request Response)

namespace Service

variable {service : Service} {snapshot : Snapshot} {generatedId : String} {request : Request}
  {route : Route}

/-! ## Work that is admitted, and work that is turned away -/

/-- **A request comes through to its route**: no layer further out settles it. -/
structure ComesThrough (service : Service) (request : Request) (route : Route) : Prop where
  found : Route.of? request = some route
  asks : request.method ≠ Http.preflightMethod
  declared : Http.declaresTooMuch service.network.maxBodyBytes request.headers = false

/-- **The request is admitted**: it comes to what its route makes of it, counted as in flight. -/
def Admitted (service : Service) (snapshot : Snapshot) (request : Request) (route : Route) : Prop :=
  let entered := { snapshot with health := snapshot.health.enter }
  let worked := service.dispatchMethod entered request route
  service.followRoute snapshot request = { worked with health := worked.health.leave }

/-- **The request is turned away** because the service is shutting down. -/
def TurnedAway (service : Service) (snapshot : Snapshot) (request : Request) : Prop :=
  service.followRoute snapshot request = .refuse snapshot .shuttingDown

theorem admitted_of_up (up : snapshot.health.state.isShuttingDown = false)
    (found : Route.of? request = some route) (api : route.isApi = true) :
    Admitted service snapshot request route := by
  rw [Admitted, followRoute, found]
  dsimp only
  rw [if_pos api, admitWork, up, if_neg Bool.false_ne_true]

/-- What is admitted is not turned away: no route answers as if the service were shutting down. -/
theorem Admitted.not_turnedAway (admitted : Admitted service snapshot request route) :
    ¬ TurnedAway service snapshot request := by
  intro away
  exact replies_dispatchMethod.ne_shuttingDown
    (congrArg Outcome.response (admitted.symm.trans away))

/-- **Work is turned away just if the service is shutting down, and admitted otherwise.** -/
theorem turnedAway_iff (found : Route.of? request = some route) (api : route.isApi = true) :
    TurnedAway service snapshot request ↔ snapshot.health.state.isShuttingDown = true := by
  refine ⟨fun away => ?_, fun shutting => followRoute_of_api shutting found api⟩
  refine Bool.of_not_eq_false fun up => ?_
  exact (admitted_of_up up found api).not_turnedAway away

theorem admitted_iff (found : Route.of? request = some route) (api : route.isApi = true) :
    Admitted service snapshot request route ↔ snapshot.health.state.isShuttingDown = false := by
  refine ⟨fun admitted => ?_, fun up => admitted_of_up up found api⟩
  exact Bool.of_not_eq_true fun shutting =>
    admitted.not_turnedAway ((turnedAway_iff found api).2 shutting)

/-! ## What the probe shows -/

theorem readinessStatus_eq_ok_iff {state : HealthState} :
    readinessStatus state = 200 ↔ state = .ready := by
  cases state <;> decide

/-- **The probe shows whether the service is ready.** -/
theorem status_respond_of_readiness (deadline : 0 < service.network.requestTimeout)
    (through : ComesThrough service request .readiness) (get : request.method = "GET") :
    (service.respond snapshot generatedId request).response.status =
      readinessStatus snapshot.health.state := by
  have still : (service.followRoute snapshot (withId generatedId request)).elapsed = 0 := by
    rw [followRoute_of_probe (of?_withId.trans through.found) rfl]
    exact (leavesAlone_dispatchMethod rfl).elapsed
  have timely := (elapsed_lt_iff through.asks through.declared).2 (still ▸ deadline)
  exact (respond_of_probe through.declared timely get through.found rfl).1

end Service

/-! ## Coming up -/

/-- A server that has come up stays so. -/
def HealthState.StaysUp (before after : HealthState) : Prop :=
  before ≠ .starting → after ≠ .starting

theorem HealthState.onward_staysUp : Onward StaysUp where
  refl _ := id
  trans first second := second ∘ first
  drains _ := nofun
  stops _ _ := nofun

namespace Server

variable {service : Service} {machine : Machine} {server : Server} {events : List Event}

theorem allows_staysUp (server : Server) (event : Event) :
    server.Allows HealthState.StaysUp event := by
  cases event with
  | setReady | triggerShutdown => exact fun _ => nofun
  | serve => exact fun _ _ => nofun
  | _ => trivial

theorem throughout_of_forall {fine : Server → Event → Prop}
    (h : ∀ server event, fine server event) (server : Server) (events : List Event) :
    server.Throughout service machine fine events := by
  induction events generalizing server with
  | nil => trivial
  | cons event events ih => exact ⟨h server event, ih _⟩

/-- **Nothing takes a server back to where it is starting.** -/
theorem pairwise_staysUp (server : Server) (events : List Event) :
    (server.passage service machine events).Pairwise (Related HealthState.StaysUp) :=
  (pairwise_passage_iff HealthState.onward_staysUp
    (fun server event => iff_of_true (allows_staysUp server event) trivial) server events).2
    (throughout_of_forall (fun _ _ => trivial) server events)

end Server

/-! ## Both questions -/

namespace Sending

/-- **Somebody looks whether the server is ready.** -/
structure IsProbe (service : Service) (probe : Sending) : Prop
    extends Service.ComesThrough service probe.request .readiness where
  get : probe.request.method = "GET"

/-- **Somebody brings work for the API.** -/
structure IsWork (service : Service) (work : Sending) (route : Route) : Prop
    extends Service.ComesThrough service work.request route where
  api : route.isApi = true

end Sending

namespace Server

variable {service : Service} {server : Server} {probe work : Sending} {route : Route}

/-- The server shows that it is ready. -/
def ShowsReady (service : Service) (server : Server) (probe : Sending) : Prop :=
  (server.comesTo service probe).response.status = 200

/-- The server admits the work. -/
def Admits (service : Service) (server : Server) (work : Sending) (route : Route) : Prop :=
  Service.Admitted service (server.snapshot work.uptime)
    (Service.withId work.generatedId work.request) route

/-- The server turns the work away. -/
def TurnsAway (service : Service) (server : Server) (work : Sending) : Prop :=
  Service.TurnedAway service (server.snapshot work.uptime)
    (Service.withId work.generatedId work.request)

/-- **The server is as ready as it shows**: whoever looks sees that it is ready just if it admits
whatever work is brought. -/
def Agrees (service : Service) (server : Server) : Prop :=
  ∀ probe work route, probe.IsProbe service → work.IsWork service route →
    (server.ShowsReady service probe ↔ server.Admits service work route)

theorem showsReady_iff (deadline : 0 < service.network.requestTimeout)
    (probes : probe.IsProbe service) :
    server.ShowsReady service probe ↔ server.health.state = .ready := by
  rw [ShowsReady, comesTo, outcome,
    Service.status_respond_of_readiness deadline probes.toComesThrough probes.get]
  exact Service.readinessStatus_eq_ok_iff

theorem turnsAway_iff (works : work.IsWork service route) :
    server.TurnsAway service work ↔ server.health.state.isShuttingDown = true :=
  Service.turnedAway_iff (Service.of?_withId.trans works.found) works.api

theorem admits_iff (works : work.IsWork service route) :
    server.Admits service work route ↔ server.health.state.isShuttingDown = false :=
  Service.admitted_iff (Service.of?_withId.trans works.found) works.api

/-- The probe as it is usually sent. -/
def sampleProbe : Sending := ⟨{ method := "GET", target := "/health/ready" }, "r1", 0⟩

theorem isProbe_sampleProbe (service : Service) : sampleProbe.IsProbe service where
  found := by decide +kernel
  asks := by decide
  declared := rfl
  get := rfl

/-- Somebody reads a post. -/
def sampleReading : Sending :=
  ⟨{ method := "GET", target := "/api/v4/properties/posts/p1" }, "r1", 0⟩

theorem isWork_sampleReading (service : Service) : sampleReading.IsWork service (.post "p1") where
  found := by decide +kernel
  asks := by decide
  declared := rfl
  api := rfl

/-- **A server is as ready as it shows just if it is not starting.** -/
theorem agrees_iff (deadline : 0 < service.network.requestTimeout) :
    server.Agrees service ↔ server.health.state ≠ .starting := by
  constructor
  · intro agrees starting
    -- A server that is starting would show that it is ready to whoever looks.
    have admits : server.Admits service sampleReading (.post "p1") := by
      rw [admits_iff (isWork_sampleReading service), starting]
      rfl
    have ready := (showsReady_iff deadline (isProbe_sampleProbe service)).1
      ((agrees _ _ _ (isProbe_sampleProbe service) (isWork_sampleReading service)).2 admits)
    exact HealthState.noConfusion (starting.symm.trans ready)
  · intro up probe work route probes works
    rw [showsReady_iff deadline probes, admits_iff works]
    cases state : server.health.state with
    | starting => exact absurd state up
    | ready | draining | stopped => decide

/-- **When a server is as ready as it shows.**  It shows that it is ready just if it is; work is turned
away just if it is not admitted, and admitted while the server is starting as well as when it is ready.
So it is as ready as it shows unless it is starting; and once it is, it is so for the rest of a
run. -/
theorem ready_iff_admits_unless_starting (service : Service) (machine : Machine) (server : Server)
    (events : List Event) (deadline : 0 < service.network.requestTimeout) :
    (∀ (now : Server) (probe work : Sending) (route : Route), probe.IsProbe service →
      work.IsWork service route →
        (now.ShowsReady service probe ↔ now.health.state = .ready) ∧
        (now.TurnsAway service work ↔ ¬ now.Admits service work route) ∧
        (now.Admits service work route ↔
          now.health.state = .starting ∨ now.health.state = .ready)) ∧
    (∀ now : Server, now.Agrees service ↔ now.health.state ≠ .starting) ∧
    (server.passage service machine events).Pairwise fun before after =>
      before.Agrees service → after.Agrees service := by
  refine ⟨fun now probe work route probes works => ⟨showsReady_iff deadline probes, ?_, ?_⟩,
    fun now => agrees_iff deadline, ?_⟩
  · rw [turnsAway_iff works, admits_iff works, Bool.not_eq_false]
  · rw [admits_iff works]
    cases now.health.state <;> decide
  · simp only [agrees_iff deadline]
    exact pairwise_staysUp server events

theorem isWork_sampleRequest :
    (Sending.mk sampleRequest "r1" 0).IsWork sampleService (.post "p1") where
  found := by decide +kernel
  asks := by decide
  declared := by decide +kernel
  api := rfl

/-- A new server is not as ready as it shows; once it has come up, it is, and both shows that it is
ready and admits the sample request. -/
theorem newServer_agrees_once_up :
    let up := (({} : Server).step sampleService (.working .empty) .setReady).1
    0 < sampleService.network.requestTimeout ∧
      ¬ ({} : Server).Agrees sampleService ∧ up.Agrees sampleService ∧
      up.ShowsReady sampleService sampleProbe ∧
      up.Admits sampleService ⟨sampleRequest, "r1", 0⟩ (.post "p1") := by
  intro up
  have deadline : 0 < sampleService.network.requestTimeout := by decide
  obtain ⟨-, agrees, -⟩ :=
    ready_iff_admits_unless_starting sampleService (.working .empty) {} [.setReady] deadline
  have upAgrees : up.Agrees sampleService := (agrees up).2 (by decide)
  have shown : up.ShowsReady sampleService sampleProbe :=
    (showsReady_iff deadline (isProbe_sampleProbe _)).2 rfl
  refine ⟨deadline, fun early => (agrees {}).1 early rfl, upAgrees, shown, ?_⟩
  exact (upAgrees _ _ _ (isProbe_sampleProbe _) isWork_sampleRequest).1 shown

/-- **A server that is starting admits a patch and stores it**, and shows at the same time that it is
not ready. -/
theorem admitted_while_starting :
    let server := ({} : Server).run sampleService (.working .empty)
      [.declareGroup ⟨"g", contentFlaggingGroup⟩, .declareField ⟨"f", "g", none⟩]
    let work : Sending := ⟨sampleRequest, "r1", 0⟩
    server.health.state = .starting ∧
      (server.comesTo sampleService sampleProbe).response.status = 503 ∧
      server.Admits sampleService work (.post "p1") ∧
      (server.comesTo sampleService work).response.status = 200 ∧
      (server.comesTo sampleService work).store = Store.empty.lay "p1" sampleApproved.flatten := by
  intro server work
  have declared : server = sampleServer := rfl
  rw [declared]
  refine ⟨rfl, ?_, ?_, sampleRequest_applies.respond.1, sampleRequest_applies.respond.2.2.1⟩
  · exact Service.status_respond_of_readiness (by decide)
      (isProbe_sampleProbe sampleService).toComesThrough rfl
  · exact (admits_iff isWork_sampleRequest).2 rfl

end Server

end PropertyGate
