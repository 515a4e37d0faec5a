import Mathlib.Algebra.GroupWithZero.Nat
import PropertyGate.Lifecycle.Balance
import PropertyGate.Proofs.Server.AllOrNothing
import PropertyGate.Proofs.Service.Layers
import PropertyGate.Proofs.Turns

/-!
# Proofs/Server/InFlight — the count of what is in flight is exact

A server hosts requests: an API request that is let in is worked on and counts as in flight until it
ends, in whatever way; a probe or a request that is refused passes by and never counts.  Requests come
and go between the other events of a server, in any order (`Hosting.Step`), and a request that is not
interrupted does what `Server.step` does (`Hosting.exists_turns_run`).

Every turn keeps the books: the number in flight is that of the guards that were handed out and have
not gone, and of the requests that are worked on.  What is gone never counts again, so **a turn adds
what it hands out and takes off what goes, one for one, and the count never falls below zero**
(`in_flight_is_exact`).
-/

namespace PropertyGate

open Http (Request)

/-! ## What counts, and what no longer counts -/

section Books

variable {α : Type} {counts : α → Bool} {before after : List α}

/-- How many of those that counted before do not count afterwards. -/
def dropped (counts : α → Bool) (before after : List α) : Nat :=
  (before.zip after).countP fun (old, new) => counts old && !counts new

/-- How many of those that were not there before count afterwards. -/
def added (counts : α → Bool) (before after : List α) : Nat :=
  (after.drop before.length).countP counts

/-- **Those that were there before are there afterwards, and who does not count never counts
again.** -/
inductive Outlasts (counts : α → Bool) : (before after : List α) → Prop
  | done (others : List α) : Outlasts counts [] others
  | goOn {old new : α} {before after : List α} (still : counts new = true → counts old = true)
      (rest : Outlasts counts before after) : Outlasts counts (old :: before) (new :: after)

namespace Outlasts

theorem refl (counts : α → Bool) (list : List α) : Outlasts counts list list := by
  induction list with
  | nil => exact .done []
  | cons _ _ ih => exact .goOn id ih

theorem trans {last : List α} (h : Outlasts counts before after)
    (h' : Outlasts counts after last) : Outlasts counts before last := by
  induction h generalizing last with
  | done => exact .done last
  | goOn still rest ih =>
    cases h' with
    | goOn still' rest' => exact .goOn (still ∘ still') (ih rest')

theorem append (list others : List α) : Outlasts counts list (list ++ others) := by
  induction list with
  | nil => exact .done others
  | cons _ _ ih => exact .goOn id ih

theorem map {f : α → α} (still : ∀ one, counts (f one) = true → counts one = true)
    (list : List α) : Outlasts counts list (list.map f) := by
  induction list with
  | nil => exact .done []
  | cons one _ ih => exact .goOn (still one) ih

theorem set {index : Nat} {old new : α} {list : List α} (found : list[index]? = some old)
    (still : counts new = true → counts old = true) :
    Outlasts counts list (list.set index new) := by
  induction list generalizing index with
  | nil => exact .done []
  | cons one rest ih =>
    cases index with
    | zero =>
      obtain rfl : one = old := by simpa using found
      exact .goOn still (refl counts rest)
    | succ index => exact .goOn id (ih (by simpa using found))

/-- **Whatever counts afterwards counted before or was added.** -/
theorem countP_add_dropped (h : Outlasts counts before after) :
    after.countP counts + dropped counts before after =
      before.countP counts + added counts before after := by
  induction h with
  | done others => simp [dropped, added]
  | @goOn old new before after still rest ih =>
    simp only [dropped, added, List.zip_cons_cons, List.countP_cons, List.length_cons,
      List.drop_succ_cons] at ih ⊢
    cases one : counts old <;> cases other : counts new <;> simp_all <;> omega

end Outlasts

end Books

/-! ## What happens to a life -/

/-- Whether the event is a request. -/
def Event.isRequest : Event → Bool
  | .request _ _ _ => true
  | _ => false

/-- How many guards the event hands out. -/
def Event.handsOut : Event → Nat
  | .acquire => 1
  | _ => 0

/-- **The books of a life are kept**: it carries what it carried, every guard is still there, and
`handedOut` guards more. -/
structure Lifecycle.Keeps (handedOut : Nat) (before after : Lifecycle) : Prop where
  carries {others : Nat} : before.Carries others → after.Carries others
  outlasts : Outlasts Guard.isCounted before.guards after.guards
  length : after.guards.length = before.guards.length + handedOut

namespace Lifecycle.Keeps

variable {life before after last : Lifecycle} {handedOut : Nat}

/-- A life that is moved to another state keeps its books. -/
theorem of_same (guards : after.guards = before.guards)
    (inFlight : after.health.inFlight = before.health.inFlight) : Keeps 0 before after where
  carries h := by rwa [Carries, guards, inFlight]
  outlasts := guards ▸ .refl _ _
  length := by rw [guards, Nat.add_zero]

theorem refl (life : Lifecycle) : Keeps 0 life life := of_same rfl rfl

theorem add {more : Nat} (h : Keeps handedOut before after) (h' : Keeps more after last) :
    Keeps (handedOut + more) before last where
  carries := h'.carries ∘ h.carries
  outlasts := h.outlasts.trans h'.outlasts
  length := by rw [h'.length, h.length, Nat.add_assoc]

theorem trans (h : Keeps 0 before after) (h' : Keeps handedOut after last) :
    Keeps handedOut before last :=
  Nat.zero_add handedOut ▸ h.add h'

theorem acquire (life : Lifecycle) : Keeps 1 life life.acquire where
  carries := Carries.acquire
  outlasts := .append _ _
  length := by simp [Lifecycle.acquire]

theorem release (life : Lifecycle) (index : Nat) : Keeps 0 life (life.release index) where
  carries h := h.release index
  outlasts := by
    rw [Lifecycle.release]
    split
    · rename_i held
      exact .set (holds_iff.1 held) fun _ => rfl
    · exact .refl _ _
  length := by
    rw [Lifecycle.release]
    split <;> simp

theorem leaveAfter (life : Lifecycle) (delay : Nat) : Keeps 0 life (life.leaveAfter delay) where
  carries h := h.leaveAfter delay
  outlasts := by
    rw [Lifecycle.leaveAfter]
    split
    · rename_i index found
      obtain ⟨inside, held, -⟩ := List.findIdx?_eq_some_iff_getElem.1 found
      exact .set ((List.getElem?_eq_getElem inside).trans
        (congrArg some (of_decide_eq_true held))) fun _ => rfl
    · exact .refl _ _
  length := by
    rw [Lifecycle.leaveAfter]
    split <;> simp

theorem depart (life : Lifecycle) (passes : Nat → Bool) : Keeps 0 life (life.depart passes) where
  carries h := h.depart passes
  outlasts := by
    refine .map (fun guard counted => ?_) _
    split at counted
    · cases counted
    · exact counted
  length := by simp [Lifecycle.depart]

theorem elapse (life : Lifecycle) (time : Nat) : Keeps 0 life (life.elapse time) :=
  (depart life _).trans (of_same rfl rfl)

/-- A check that nothing is in flight takes nothing off. -/
theorem stop {stopped : Health} (h : life.health.stop? = some stopped) :
    Keeps 0 life { life with health := stopped } :=
  of_same rfl (inFlight_of_stop? h).1

theorem drain (life : Lifecycle) (timeout : Nat) : Keeps 0 life (life.drain timeout).1 := by
  rw [Lifecycle.drain]
  split
  · rename_i stopped found
    exact stop found
  · dsimp only
    split
    · rename_i last _
      have departed : Keeps 0 life { life.depart (· < life.clock + timeout) with clock := last } :=
        (depart life _).trans (of_same rfl rfl)
      split
      · rename_i found
        exact departed.trans (stop found)
      · exact departed
    · exact (depart life _).trans (of_same rfl rfl)

end Lifecycle.Keeps

namespace Server

variable {service : Service} {machine : Machine} (server : Server)

theorem keeps_life_declare (result : Except DeclarationError Definitions) :
    Lifecycle.Keeps 0 server.life (server.declare result).1.life := by
  cases result <;> exact .refl _

theorem keeps_life_start (config : NetworkConfig) :
    Lifecycle.Keeps 0 server.life (server.start config machine).1.life := by
  obtain ⟨listener, moved⟩ := server.exists_start_eq config machine
  rw [moved]
  exact .refl _

theorem keeps_life_serve (config : NetworkConfig) :
    Lifecycle.Keeps 0 server.life (server.serve config machine).1.life := by
  rw [serve]
  dsimp only
  split
  · exact .refl _
  · exact .refl _
  · split
    · exact .of_same rfl rfl
    · have draining : Lifecycle.Keeps 0 server.life
          { server.life with health := server.life.health.setReady.triggerShutdown } :=
        .of_same rfl rfl
      exact draining.trans (.drain _ _)

/-- **A request leaves the count as it found it**: beside the store, all that it takes from a server is
its time. -/
theorem step_request (request : Request) (generatedId : String) (uptime : Nat) :
    let outcome := server.outcome service request generatedId uptime
    (server.step service machine (.request request generatedId uptime)).1 =
      { server with store := outcome.store, life := server.life.elapse outcome.elapsed } := by
  intro outcome
  have same : outcome.health = server.life.health := Service.health_respond
  simp only [outcome] at same
  simp only [step, after, same, outcome]

/-- **Every event keeps the books**, with a guard more where one is handed out. -/
theorem keeps_life_step (event : Event) :
    Lifecycle.Keeps event.handsOut server.life (server.step service machine event).1.life := by
  cases event with
  | request request generatedId uptime =>
    rw [step_request]
    exact .elapse _ _
  | declareGroup | declareField => exact keeps_life_declare _ _
  | setReady | triggerShutdown => exact .of_same rfl rfl
  | acquire => exact .acquire _
  | release index => exact .release _ index
  | drain timeout leaveAfter =>
    cases leaveAfter with
    | none => exact .drain _ timeout
    | some delay => exact (Lifecycle.Keeps.leaveAfter _ delay).trans (.drain _ timeout)
  | start => exact keeps_life_start _ _
  | serve => exact keeps_life_serve _ _

/-- A run keeps the books, with as many guards more as it hands out. -/
theorem keeps_life_run (events : List Event) :
    Lifecycle.Keeps (events.map Event.handsOut).sum server.life
      (run service machine server events).life := by
  induction events generalizing server with
  | nil => exact .refl _
  | cons event rest ih =>
    rw [List.map_cons, List.sum_cons]
    exact (server.keeps_life_step event).add (ih _)

end Server

/-! ## Requests inside -/

/-- **The request is let in as work**: it gets past the outer layers to a route of the API, and the
service is not shutting down. -/
structure Service.Admits (service : Service) (health : Health) (request : Request) : Prop where
  declared : Http.declaresTooMuch service.network.maxBodyBytes request.headers = false
  asks : request.method ≠ Http.preflightMethod
  route : ∃ route, Route.of? request = some route ∧ route.isApi = true
  running : health.state.isShuttingDown = false

/-- A request that a server hosts. -/
inductive Guest where
  /-- The request was let in, and is worked on. -/
  | working
  /-- The request is a probe, or is refused. -/
  | passing
  /-- The request has ended, in whatever way. -/
  | gone
deriving DecidableEq, Repr

/-- Whether the request counts as in flight. -/
def Guest.isWorking (guest : Guest) : Bool := guest = .working

/-- **A server and the requests that it hosts**, known by their numbers. -/
structure Hosting where
  server : Server
  guests : List Guest := []

/-- What happens to a server and its requests: an event that is no request; a request comes, stores
something, or ends; a drain that waits looks at the count; time passes. -/
inductive HostingTurn where
  | event (event : Event)
  | come (request : Request)
  | change (number : Nat) (store : Store)
  | leave (number : Nat)
  | check
  | wait (time : Nat)

/-- How many guards the turn hands out. -/
def HostingTurn.handsOut : HostingTurn → Nat
  | .event happening => happening.handsOut
  | _ => 0

namespace Hosting

/-- **What a turn does.**  A request that is worked on may end at any time: it is answered, refused or
given up at its deadline, or its handlers crash. -/
inductive Step (service : Service) (machine : Machine) : Hosting → HostingTurn → Hosting → Prop where
  | event {hosting : Hosting} {event : Event} (other : event.isRequest = false) :
      Step service machine hosting (.event event)
        { hosting with server := (hosting.server.step service machine event).1 }
  | letIn {hosting : Hosting} {request : Request}
      (admits : service.Admits hosting.server.health request) :
      Step service machine hosting (.come request)
        ⟨hosting.server.mapHealth Health.enter, hosting.guests ++ [.working]⟩
  | passBy {hosting : Hosting} {request : Request}
      (other : ¬ service.Admits hosting.server.health request) :
      Step service machine hosting (.come request)
        { hosting with guests := hosting.guests ++ [.passing] }
  | change {hosting : Hosting} {number : Nat} (store : Store)
      (works : hosting.guests[number]? = some .working) :
      Step service machine hosting (.change number store)
        { hosting with server := { hosting.server with store } }
  | finish {hosting : Hosting} {number : Nat} (works : hosting.guests[number]? = some .working) :
      Step service machine hosting (.leave number)
        ⟨hosting.server.mapHealth Health.leave, hosting.guests.set number .gone⟩
  | moveOn {hosting : Hosting} {number : Nat} (passes : hosting.guests[number]? = some .passing) :
      Step service machine hosting (.leave number)
        { hosting with guests := hosting.guests.set number .gone }
  | stop {hosting : Hosting} {stopped : Health}
      (found : hosting.server.health.stop? = some stopped) :
      Step service machine hosting .check
        { hosting with server := hosting.server.mapHealth fun _ => stopped }
  | goOn {hosting : Hosting} (found : hosting.server.health.stop? = none) :
      Step service machine hosting .check hosting
  | wait (hosting : Hosting) (time : Nat) :
      Step service machine hosting (.wait time)
        { hosting with
          server := { hosting.server with life := hosting.server.life.elapse time } }

variable {service : Service} {machine : Machine} {hosting after : Hosting} {turn : HostingTurn}
  {turns : List HostingTurn}

/-! ## Every turn keeps the books -/

/-- The count of what is in flight. -/
def inFlight (hosting : Hosting) : Nat := hosting.server.health.inFlight

/-- **The count is exact**: in flight are the guards that are held or leaving, and the requests that
are worked on. -/
def Exact (hosting : Hosting) : Prop :=
  hosting.inFlight =
    hosting.server.life.guards.countP Guard.isCounted + hosting.guests.countP Guest.isWorking

/-- **A turn keeps the books.** -/
structure Keeps (turn : HostingTurn) (before after : Hosting) : Prop where
  exact : before.Exact → after.Exact
  guards : Outlasts Guard.isCounted before.server.life.guards after.server.life.guards
  guests : Outlasts Guest.isWorking before.guests after.guests
  length : after.server.life.guards.length =
    before.server.life.guards.length + turn.handsOut

/-- What keeps the books of the life and leaves the requests alone keeps the books. -/
theorem Keeps.of_life {server : Server}
    (h : Lifecycle.Keeps turn.handsOut hosting.server.life server.life) :
    Keeps turn hosting { hosting with server } :=
  ⟨h.carries, h.outlasts, .refl _ _, h.length⟩

theorem Step.keeps (h : Step service machine hosting turn after) : Keeps turn hosting after := by
  cases h with
  | event => exact .of_life (hosting.server.keeps_life_step _)
  | letIn admits =>
    refine ⟨fun exact => ?_, .refl _ _, .append _ _, rfl⟩
    rw [Exact] at exact
    change hosting.inFlight + 1 = _ + (hosting.guests ++ [Guest.working]).countP Guest.isWorking
    rw [List.countP_append, exact]
    rfl
  | passBy other =>
    refine ⟨fun exact => ?_, .refl _ _, .append _ _, rfl⟩
    rw [Exact, List.countP_append]
    exact exact
  | change store works => exact .of_life (.refl _)
  | @finish number works =>
    refine ⟨fun exact => ?_, .refl _ _, .set works (absurd · Bool.false_ne_true), rfl⟩
    have count : (hosting.guests.set number .gone).countP Guest.isWorking + 1 =
        hosting.guests.countP Guest.isWorking := countP_set Guest.isWorking .gone works
    rw [Exact, ← count] at exact
    change hosting.inFlight - 1 = _ + (hosting.guests.set number .gone).countP Guest.isWorking
    rw [exact]
    rfl
  | @moveOn number passes =>
    refine ⟨fun exact => ?_, .refl _ _, .set passes (absurd · Bool.false_ne_true), rfl⟩
    have count : (hosting.guests.set number .gone).countP Guest.isWorking =
        hosting.guests.countP Guest.isWorking := countP_set Guest.isWorking .gone passes
    rw [Exact, count]
    exact exact
  | stop found => exact .of_life (.stop found)
  | goOn found => exact .of_life (.refl _)
  | wait time => exact .of_life (.elapse _ time)

/-- **What goes and what comes make up the change of the count**, so that nothing is ever taken off
that was not counted. -/
theorem Keeps.balance (keeps : Keeps turn hosting after) (exact : hosting.Exact) :
    after.inFlight + dropped Guard.isCounted hosting.server.life.guards after.server.life.guards
        + dropped Guest.isWorking hosting.guests after.guests =
      hosting.inFlight + added Guard.isCounted hosting.server.life.guards after.server.life.guards
        + added Guest.isWorking hosting.guests after.guests := by
  have guards := keeps.guards.countP_add_dropped
  have guests := keeps.guests.countP_add_dropped
  have exact' := keeps.exact exact
  rw [Exact] at exact exact'
  omega

/-- Turns keep the count exact, and hand out guards one by one. -/
theorem exact_of_turns {definitions : Definitions} {store : Store}
    (reached : Turns (Step service machine) ⟨{ definitions, store }, []⟩ turns hosting) :
    hosting.Exact ∧
      hosting.server.life.guards.length = (turns.map HostingTurn.handsOut).sum := by
  have all : ∀ {start stop : Hosting} {turns : List HostingTurn},
      Turns (Step service machine) start turns stop → start.Exact →
      stop.Exact ∧ stop.server.life.guards.length =
        start.server.life.guards.length + (turns.map HostingTurn.handsOut).sum := by
    intro start stop turns reached
    induction reached with
    | stay => exact fun exact => ⟨exact, rfl⟩
    | move first _ ih =>
      intro exact
      obtain ⟨exact', length⟩ := ih (first.keeps.exact exact)
      rw [first.keeps.length] at length
      exact ⟨exact', by rw [length, List.map_cons, List.sum_cons, Nat.add_assoc]⟩
  obtain ⟨exact, length⟩ := all reached rfl
  exact ⟨exact, length.trans (Nat.zero_add _)⟩

end Hosting

/-! ## Requests that are not interrupted -/

namespace Service

variable {service : Service} {snapshot : Snapshot} {generatedId : String} {request : Request}

theorem admits_withId_iff :
    service.Admits snapshot.health (withId generatedId request) ↔
      service.Admits snapshot.health request := by
  constructor
  · rintro ⟨declared, asks, route, running⟩
    exact ⟨declaresTooMuch_withId.symm.trans declared, method_withId ▸ asks, of?_withId ▸ route,
      running⟩
  · rintro ⟨declared, asks, route, running⟩
    exact ⟨declaresTooMuch_withId.trans declared, method_withId.symm ▸ asks, of?_withId.symm ▸ route,
      running⟩

/-- **A request that is let in is worked on while it counts.** -/
theorem Admits.followRoute (admits : service.Admits snapshot.health request) :
    ∃ route, Route.of? request = some route ∧
      let work := service.dispatchMethod { snapshot with health := snapshot.health.enter } request
        route
      service.followRoute snapshot request = { work with health := work.health.leave } := by
  obtain ⟨route, found, api⟩ := admits.route
  refine ⟨route, found, ?_⟩
  rw [Service.followRoute, found]
  dsimp only
  rw [if_pos api, admitWork, admits.running, if_neg Bool.false_ne_true]

/-- **A request that is not let in stores nothing.** -/
theorem store_respond_of_not_admits (other : ¬ service.Admits snapshot.health request) :
    (service.respond snapshot generatedId request).store = snapshot.store := by
  refine applies_or_store_respond_eq.resolve_left ?_
  rintro ⟨segment, context, patch, approved, applies⟩
  refine other (admits_withId_iff.1 ⟨applies.declared, applies.toPatches.ne_preflight, ?_,
    applies.admitted⟩)
  exact ⟨_, applies.route, rfl⟩

end Service

namespace Hosting

variable {service : Service} {machine : Machine} {hosting : Hosting} {request : Request}

theorem getElem?_concat_length {α : Type} (list : List α) (one : α) :
    (list ++ [one])[list.length]? = some one := by simp

/-- **A request that is let in and not interrupted comes, stores what it stores, ends, and has taken
its time.** -/
theorem turns_of_admits (admits : service.Admits hosting.server.health request)
    (generatedId : String) (uptime : Nat) :
    let outcome := hosting.server.outcome service request generatedId uptime
    let number := hosting.guests.length
    Turns (Step service machine) hosting
      [.come request, .change number outcome.store, .leave number, .wait outcome.elapsed]
      ⟨(hosting.server.step service machine (.request request generatedId uptime)).1,
        hosting.guests ++ [.gone]⟩ := by
  intro outcome number
  have inside : (hosting.guests ++ [Guest.working])[number]? = some .working :=
    getElem?_concat_length _ _
  refine .move (.letIn admits) (.move (.change outcome.store inside) (.move (.finish inside)
    (.move (.wait _ outcome.elapsed) ?_)))
  have guests : (hosting.guests ++ [Guest.working]).set number .gone = hosting.guests ++ [.gone] := by
    simp [number]
  rw [Server.step_request]
  simp only [guests]
  exact .stay _

/-- A request that is not let in and not interrupted comes, passes by, and has taken its time. -/
theorem turns_of_not_admits (other : ¬ service.Admits hosting.server.health request)
    (generatedId : String) (uptime : Nat) :
    let outcome := hosting.server.outcome service request generatedId uptime
    let number := hosting.guests.length
    Turns (Step service machine) hosting
      [.come request, .leave number, .wait outcome.elapsed]
      ⟨(hosting.server.step service machine (.request request generatedId uptime)).1,
        hosting.guests ++ [.gone]⟩ := by
  intro outcome number
  have inside : (hosting.guests ++ [Guest.passing])[number]? = some .passing :=
    getElem?_concat_length _ _
  refine .move (.passBy other) (.move (.moveOn inside) (.move (.wait _ outcome.elapsed) ?_))
  have guests : (hosting.guests ++ [Guest.passing]).set number .gone = hosting.guests ++ [.gone] := by
    simp [number]
  have store : outcome.store = hosting.server.store := Service.store_respond_of_not_admits other
  rw [Server.step_request]
  simp only [guests]
  simp only [outcome] at store
  rw [store]
  exact .stay _

/-- **Every run of a server is one of turns**, of requests that are not interrupted. -/
theorem exists_turns_run (service : Service) (machine : Machine) (events : List Event)
    (hosting : Hosting) :
    ∃ turns after, Turns (Step service machine) hosting turns after ∧
      after.server = Server.run service machine hosting.server events := by
  induction events generalizing hosting with
  | nil => exact ⟨[], hosting, .stay _, rfl⟩
  | cons event rest ih =>
    have first : ∃ turns guests, Turns (Step service machine) hosting turns
        ⟨(hosting.server.step service machine event).1, guests⟩ := by
      cases event with
      | request request generatedId uptime =>
        by_cases admits : service.Admits hosting.server.health request
        · exact ⟨_, _, turns_of_admits admits generatedId uptime⟩
        · exact ⟨_, _, turns_of_not_admits admits generatedId uptime⟩
      | _ => exact ⟨_, _, .move (.event rfl) (.stay _)⟩
    obtain ⟨turns, guests, turned⟩ := first
    obtain ⟨turns', after, turned', same⟩ := ih ⟨_, guests⟩
    exact ⟨turns ++ turns', after, turned.append turned', same⟩

/-- **A request that is let in is worked on by a server that counts one more.** -/
theorem exists_inside (admits : service.Admits hosting.server.health request) (uptime : Nat) :
    ∃ inside route, Step service machine hosting (.come request) inside ∧
      inside.inFlight = hosting.inFlight + 1 ∧ Route.of? request = some route ∧
      let work := service.dispatchMethod (inside.server.snapshot uptime) request route
      service.followRoute (hosting.server.snapshot uptime) request =
        { work with health := work.health.leave } := by
  have admits' : service.Admits (hosting.server.snapshot uptime).health request := admits
  obtain ⟨route, found, work⟩ := admits'.followRoute
  exact ⟨_, route, .letIn admits, rfl, found, work⟩

/-- Any other request leaves the server alone while it passes by. -/
theorem server_of_come {after : Hosting} (other : ¬ service.Admits hosting.server.health request)
    (step : Step service machine hosting (.come request) after) : after.server = hosting.server := by
  cases step with
  | letIn admits => exact absurd admits other
  | passBy => rfl

/-- **The count of what is in flight is exact.**  After every run of events of a new server it is the
number of the guards that were handed out and have not gone; a request leaves it as it is.  While
requests come and go between the events, it counts besides the requests that were let in and have not
ended, and no others.  Whatever a turn takes off it had been counted. -/
theorem in_flight_is_exact (service : Service) (machine : Machine) (definitions : Definitions)
    (store : Store) :
    (∀ events : List Event,
      let server := Server.run service machine { definitions, store } events
      server.health.inFlight = server.life.guards.countP Guard.isCounted ∧
      server.life.guards.length = (events.map Event.handsOut).sum ∧
      (∀ event : Event,
        let after := (server.step service machine event).1
        Outlasts Guard.isCounted server.life.guards after.life.guards ∧
        after.health.inFlight + dropped Guard.isCounted server.life.guards after.life.guards =
          server.health.inFlight + added Guard.isCounted server.life.guards after.life.guards) ∧
      ∀ (request : Request) (generatedId : String) (uptime : Nat),
        let outcome := server.outcome service request generatedId uptime
        outcome.health = server.health ∧
        (server.step service machine (.request request generatedId uptime)).1.life =
          server.life.elapse outcome.elapsed) ∧
    ∀ (turns : List HostingTurn) (hosting : Hosting),
      Turns (Step service machine) ⟨{ definitions, store }, []⟩ turns hosting →
        hosting.inFlight =
          hosting.server.life.guards.countP Guard.isCounted +
            hosting.guests.countP Guest.isWorking ∧
        hosting.server.life.guards.length = (turns.map HostingTurn.handsOut).sum ∧
        (∀ (turn : HostingTurn) (after : Hosting), Step service machine hosting turn after →
          Outlasts Guard.isCounted hosting.server.life.guards after.server.life.guards ∧
          Outlasts Guest.isWorking hosting.guests after.guests ∧
          after.inFlight
              + dropped Guard.isCounted hosting.server.life.guards after.server.life.guards
              + dropped Guest.isWorking hosting.guests after.guests =
            hosting.inFlight
              + added Guard.isCounted hosting.server.life.guards after.server.life.guards
              + added Guest.isWorking hosting.guests after.guests) ∧
        ∀ (request : Request) (uptime : Nat),
          (service.Admits hosting.server.health request →
            ∃ inside route, Step service machine hosting (.come request) inside ∧
              inside.inFlight = hosting.inFlight + 1 ∧ Route.of? request = some route ∧
              let work := service.dispatchMethod (inside.server.snapshot uptime) request route
              service.followRoute (hosting.server.snapshot uptime) request =
                { work with health := work.health.leave }) ∧
          (¬ service.Admits hosting.server.health request →
            ∀ after, Step service machine hosting (.come request) after →
              after.server = hosting.server) := by
  refine ⟨fun events => ?_, fun turns hosting reached => ?_⟩
  · intro server
    have run : Lifecycle.Keeps _ ({} : Lifecycle) server.life :=
      Server.keeps_life_run { definitions, store } events
    have balanced : server.life.Carries 0 := run.carries Lifecycle.balanced_initial
    refine ⟨balanced, run.length.trans (Nat.zero_add _), fun event => ?_,
      fun request generatedId uptime => ⟨Service.health_respond, ?_⟩⟩
    · intro after
      have keeps : Lifecycle.Keeps _ server.life after.life := server.keeps_life_step event
      have balanced' := keeps.carries balanced
      have guards := keeps.outlasts.countP_add_dropped
      simp only [Lifecycle.Carries, Nat.add_zero] at balanced balanced'
      refine ⟨keeps.outlasts, ?_⟩
      simp only [Server.health]
      omega
    · rw [Server.step_request]
  · obtain ⟨exact, length⟩ := exact_of_turns reached
    exact ⟨exact, length, fun turn after step =>
      ⟨step.keeps.guards, step.keeps.guests, step.keeps.balance exact⟩,
      fun request uptime => ⟨fun admits => exists_inside admits uptime,
        fun other after step => server_of_come other step⟩⟩

/-- Somebody looks at how the service is. -/
def healthProbe : Request where
  method := "GET"
  target := "/health"

theorem admits_sampleRequest : sampleService.Admits {} sampleRequest :=
  ⟨by decide +kernel, by decide, ⟨.post "p1", by decide +kernel, rfl⟩, rfl⟩

theorem not_admits_healthProbe (health : Health) : ¬ sampleService.Admits health healthProbe := by
  rintro ⟨-, -, ⟨route, found, api⟩, -⟩
  have probe : Route.of? healthProbe = some .health := by decide +kernel
  rw [probe, Option.some.injEq] at found
  subst found
  cases api

/-- A guard and a request that is worked on are in flight, and a probe beside them is not. -/
theorem in_flight_beside_healthProbe :
    ∃ hosting, Turns (Step sampleService (.working .empty)) ⟨sampleServer, []⟩
        [.event .acquire, .come sampleRequest, .come healthProbe] hosting ∧
      hosting.guests = [.working, .passing] ∧ hosting.inFlight = 2 := by
  have turns : Turns (Step sampleService (.working .empty)) ⟨sampleServer, []⟩
      [.event .acquire, .come sampleRequest, .come healthProbe] _ :=
    .move (.event rfl) (.move (.letIn ⟨admits_sampleRequest.declared, admits_sampleRequest.asks,
      admits_sampleRequest.route, rfl⟩) (.move (.passBy (not_admits_healthProbe _)) (.stay _)))
  obtain ⟨-, interleaved⟩ := in_flight_is_exact sampleService (.working .empty)
    sampleServer.definitions sampleServer.store
  exact ⟨_, turns, rfl, (interleaved _ _ turns).1⟩

end Hosting

end PropertyGate
