import PropertyGate.Lifecycle.Guard
import PropertyGate.Service.Exchange
import PropertyGate.Service.Tls

/-!
# Server/Basic — a service as it runs

A server is a service together with everything that changes: what is declared and stored, its life,
and its listener. It is driven by events, one after the other, and gives a reply to each; `step` is
what one event does. Requests are one kind of event among declarations, guards, drains, and starting
and serving.
-/

namespace PropertyGate

open Http (Request Response)

/-- The address that a server listens on: not taken yet, taken, or given up for good. -/
inductive Listener where
  | unbound
  | bound
  | consumed
deriving DecidableEq, Repr, Inhabited

/-- **A server**: everything that changes while a service runs. -/
structure Server where
  definitions : Definitions := .empty
  store : Store := .empty
  life : Lifecycle := {}
  listener : Listener := .unbound

instance : Inhabited Server := ⟨{}⟩

/-- What happens to a server. -/
inductive Event where
  /-- A request comes in; `generatedId` is the id that it is given if it has none, `uptime` the
  seconds since the service came up. -/
  | request (request : Request) (generatedId : String) (uptime : Nat)
  | declareGroup (group : Group)
  | declareField (field : Field)
  | setReady
  | triggerShutdown
  | acquire
  | release (index : Nat)
  /-- The service is drained. If `leaveAfter` is given, the first guard that is held leaves after
  that time. -/
  | drain (timeout : Nat) (leaveAfter : Option Nat)
  /-- The address is taken. -/
  | start
  /-- The service serves until it is told to shut down, which it is at once. -/
  | serve

/-- What a server replies to an event. -/
inductive Reaction where
  | done
  | answered (response : Response)
  | declared (result : Except DeclarationError Unit)
  | acquired (index : Nat)
  | released (wasHeld : Bool)
  | drained (stopped : Bool)
  | failed (failure : Failure)
  /-- The server has served before, or failed to. -/
  | consumed

namespace Server

def health (server : Server) : Health := server.life.health

/-- What a request finds. -/
def snapshot (server : Server) (uptime : Nat) : Snapshot :=
  ⟨server.definitions, server.store, server.health, uptime⟩

/-- What comes of a request. -/
def outcome (server : Server) (service : Service) (request : Request) (generatedId : String)
    (uptime : Nat) : Outcome :=
  service.respond (server.snapshot uptime) generatedId request

/-- The server after a request. -/
def after (server : Server) (outcome : Outcome) : Server :=
  { server with
    store := outcome.store
    life := { server.life with health := outcome.health }.elapse outcome.elapsed }

/-- Declares a group or a field, unless that is refused. -/
def declare (server : Server) (result : Except DeclarationError Definitions) : Server × Reaction :=
  match result with
  | .ok definitions => ({ server with definitions }, .declared (.ok ()))
  | .error error => (server, .declared (.error error))

/-- Drains the server. -/
def drain (server : Server) (timeout : Nat) : Server × Bool :=
  let (life, stopped) := server.life.drain timeout
  ({ server with life }, stopped)

/-- Moves the health of the server. -/
def mapHealth (server : Server) (f : Health → Health) : Server :=
  { server with life := { server.life with health := f server.life.health } }

/-- Takes the address, or leaves the listener as it is. -/
def takeAddress (server : Server) (config : NetworkConfig) (machine : Machine) : Server × Reaction :=
  match config.bindFailure? machine with
  | some failure => (server, .failed failure)
  | none => ({ server with listener := .bound }, .done)

theorem takeAddress_cases (server : Server) (config : NetworkConfig) (machine : Machine) :
    (config.bindFailure? machine = none ∧
        server.takeAddress config machine = ({ server with listener := .bound }, .done)) ∨
      ∃ failure, config.bindFailure? machine = some failure ∧
        server.takeAddress config machine = (server, .failed failure) := by
  rw [takeAddress]
  cases config.bindFailure? machine with
  | none => exact .inl ⟨rfl, rfl⟩
  | some failure => exact .inr ⟨failure, rfl, rfl⟩

/-- **Takes the address.** A server that is bound already holds its address while it asks for it
anew, and goes on holding it if it is refused. -/
def start (server : Server) (config : NetworkConfig) (machine : Machine) : Server × Reaction :=
  match server.listener with
  | .consumed => (server, .consumed)
  | .unbound => server.takeAddress config machine
  | .bound => server.takeAddress config (machine.holding ⟨config.host, config.port⟩)

/-- Starting moves the listener and nothing else. -/
theorem exists_start_eq (server : Server) (config : NetworkConfig) (machine : Machine) :
    ∃ listener, (server.start config machine).1 = { server with listener } := by
  have taken (machine : Machine) :
      ∃ listener, (server.takeAddress config machine).1 = { server with listener } := by
    obtain ⟨-, taken⟩ | ⟨_, -, refused⟩ := server.takeAddress_cases config machine
    · exact ⟨_, congrArg Prod.fst taken⟩
    · exact ⟨_, congrArg Prod.fst refused⟩
  rw [start]
  split
  · exact ⟨_, rfl⟩
  · exact taken _
  · exact taken _

/-- The failure to serve without an address. -/
def notStarted : Failure := ⟨"start() must be called before serve()", []⟩

/-- **Serves until it is told to shut down**, which it is at once: the service is ready, its
certificate and key are loaded if it is to encrypt, and then it drains. Whatever comes of it, the
listener is given up. -/
def serve (server : Server) (config : NetworkConfig) (machine : Machine) : Server × Reaction :=
  let given := { server with listener := .consumed }
  match server.listener with
  | .consumed => (server, .consumed)
  | .unbound => (given, .failed notStarted)
  | .bound =>
    let ready := given.mapHealth Health.setReady
    match config.tlsFault? machine with
    | some fault => (ready, .failed fault.failure)
    | none => (((ready.mapHealth Health.triggerShutdown).drain config.drainTimeout).1, .done)

/-- **What one event does to a server, and what the server replies.** -/
def step (service : Service) (machine : Machine) (server : Server) : Event → Server × Reaction
  | .request request generatedId uptime =>
    let outcome := server.outcome service request generatedId uptime
    (server.after outcome, .answered outcome.response)
  | .declareGroup group => server.declare (server.definitions.declareGroup group)
  | .declareField field => server.declare (server.definitions.declareField field)
  | .setReady => (server.mapHealth Health.setReady, .done)
  | .triggerShutdown => (server.mapHealth Health.triggerShutdown, .done)
  | .acquire => ({ server with life := server.life.acquire }, .acquired server.life.guards.length)
  | .release index =>
    ({ server with life := server.life.release index }, .released (server.life.holds index))
  | .drain timeout leaveAfter =>
    let life := match leaveAfter with
      | some delay => server.life.leaveAfter delay
      | none => server.life
    let (drained, stopped) := { server with life }.drain timeout
    (drained, .drained stopped)
  | .start => server.start service.network machine
  | .serve => server.serve service.network machine

/-- The server after a run of events. -/
def run (service : Service) (machine : Machine) (server : Server) (events : List Event) : Server :=
  events.foldl (fun server event => (server.step service machine event).1) server

end Server

end PropertyGate
