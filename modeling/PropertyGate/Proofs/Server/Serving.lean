import PropertyGate.Proofs.Server.InFlight
import PropertyGate.Proofs.Server.Readiness

/-!
# Proofs/Server/Serving — what comes of serving

Serving takes an address that was taken before, once, and gives it up whatever comes of it: a
server is bound just if a start came off and nothing was served (`listener_run_iff`).  A drain goes
by the guards that stay until its deadline: if there are none the service stops, otherwise they are
in flight still (`health_drain`).  So **a server that has served is stopped, or drains with the
guards that are still there, in whatever state it was before**, and as it cannot serve again, it
refuses work until somebody makes it ready (`serving_ends_closed`).

The service is made ready before its certificate and key are looked at.  **A server that cannot
serve for their sake is ready all the same** (`ready_after_failing_to_serve`); apart from that,
serving in vain leaves no trace (`serving_in_vain`).
-/

namespace PropertyGate

namespace Server

variable {service : Service} {machine : Machine} {server opened : Server} {event : Event}
  {events : List Event}

/-! ## Whether a server is bound -/

/-- **A start came off** in a run. -/
def Started (service : Service) (machine : Machine) (server : Server) (events : List Event) :
    Prop :=
  ∃ early, early ++ [.start] <+: events ∧
    ((server.run service machine early).step service machine .start).2 = .done

theorem run_concat (service : Service) (machine : Machine) (server : Server) (events : List Event)
    (event : Event) :
    server.run service machine (events ++ [event]) =
      ((server.run service machine events).step service machine event).1 :=
  List.foldl_append ..

theorem started_concat_iff :
    server.Started service machine (events ++ [event]) ↔
      server.Started service machine events ∨
        event = .start ∧
          ((server.run service machine events).step service machine .start).2 = .done := by
  simp only [Started, List.prefix_concat_iff, or_and_right, exists_or]
  rw [or_comm]
  refine or_congr_right ⟨?_, ?_⟩
  · rintro ⟨early, same, done⟩
    obtain ⟨rfl, start⟩ := List.append_inj' same rfl
    exact ⟨(List.singleton_inj.1 start).symm, done⟩
  · rintro ⟨rfl, done⟩
    exact ⟨events, rfl, done⟩

/-- Nothing but starting and serving moves the listener. -/
theorem listener_step (start : event ≠ .start) (serve : event ≠ .serve) :
    (server.step service machine event).1.listener = server.listener := by
  cases event with
  | start => exact absurd rfl start
  | serve => exact absurd rfl serve
  | declareGroup | declareField =>
    simp only [step, declare]
    split <;> rfl
  | _ => rfl

theorem listener_serve (server : Server) (config : NetworkConfig) (machine : Machine) :
    (server.serve config machine).1.listener = .consumed := by
  rw [serve]
  cases bound : server.listener with
  | consumed => exact bound
  | unbound => rfl
  | bound =>
    dsimp only
    cases config.tlsFault? machine <;> rfl

/-- A start comes off if the address is given and was not given up. -/
theorem start_cases (server : Server) (config : NetworkConfig) (machine : Machine) :
    (server.start config machine).2 = .done ∧ server.listener ≠ .consumed ∧
        (server.start config machine).1.listener = .bound ∨
      (server.start config machine).2 ≠ .done ∧
        (server.start config machine).1.listener = server.listener := by
  have taking (machine : Machine) (given : server.listener ≠ .consumed) :
      (server.takeAddress config machine).2 = .done ∧ server.listener ≠ .consumed ∧
          (server.takeAddress config machine).1.listener = .bound ∨
        (server.takeAddress config machine).2 ≠ .done ∧
          (server.takeAddress config machine).1.listener = server.listener := by
    obtain ⟨-, taken⟩ | ⟨failure, -, refused⟩ := server.takeAddress_cases config machine
    · exact .inl ⟨congrArg Prod.snd taken, given, by rw [taken]⟩
    · exact .inr ⟨by simp [refused], by rw [refused]⟩
  cases listener : server.listener with
  | consumed => exact .inr ⟨by simp [start, listener], by simp [start, listener]⟩
  | unbound | bound => simpa only [start, listener] using taking _ (by simp [listener])

/-- **Whoever holds an address does not get it a second time**, unless any free port will do, and
holds it all the same. -/
theorem start_of_bound (read : String → Contents) (config : NetworkConfig)
    (bound : server.listener = .bound) :
    let again := server.start config (.unprivileged read)
    again.1 = server ∧ (again.2 = .done ↔ config.port = 0) := by
  intro again
  have asked : again = server.takeAddress config
      ((Machine.unprivileged read).holding ⟨config.host, config.port⟩) := by
    simp only [again, start, bound]
  have free : config.bindFailure? ((Machine.unprivileged read).holding ⟨config.host, config.port⟩) =
      none ↔ config.port = 0 := by
    rw [NetworkConfig.bindFailure?, Option.map_eq_none_iff, Machine.holding]
    by_cases any : config.port = 0
    · simp [any, Machine.unprivileged, Machine.sameAddress, Machine.isReserved]
    · simp [any, Machine.unprivileged, Machine.sameAddress]
  obtain ⟨none, taken⟩ | ⟨failure, some, refused⟩ := server.takeAddress_cases config
    ((Machine.unprivileged read).holding ⟨config.host, config.port⟩)
  · rw [asked, taken]
    exact ⟨by rw [← bound], iff_of_true rfl (free.1 none)⟩
  · rw [asked, refused]
    have known (any : config.port = 0) : Option.some failure = none := some.symm.trans (free.2 any)
    exact ⟨rfl, iff_of_false (by simp) fun any => Option.some_ne_none failure (known any)⟩

/-- **A server is bound just if a start came off and nothing was served**, and given up just if
something was. -/
theorem listener_run_iff (service : Service) (machine : Machine)
    (unbound : opened.listener = .unbound) (events : List Event) :
    ((opened.run service machine events).listener = .consumed ↔ .serve ∈ events) ∧
      ((opened.run service machine events).listener = .bound ↔
        opened.Started service machine events ∧ .serve ∉ events) := by
  induction events using List.reverseRecOn with
  | nil =>
    have none : ¬ opened.Started service machine [] := fun ⟨early, within, _⟩ =>
      List.append_ne_nil_of_right_ne_nil _ (List.cons_ne_nil _ _) (List.prefix_nil.1 within)
    change (opened.listener = _ ↔ _) ∧ (opened.listener = _ ↔ _)
    rw [unbound]
    exact ⟨iff_of_false nofun List.not_mem_nil, iff_of_false nofun fun both => none both.1⟩
  | append_singleton events event ih =>
    obtain ⟨consumed, bound⟩ := ih
    rw [run_concat, started_concat_iff, List.mem_append, List.mem_singleton]
    by_cases serve : event = .serve
    · subst serve
      rw [show ((opened.run service machine events).step service machine .serve).1.listener = _ from
        listener_serve _ _ _]
      simp
    by_cases start : event = .start
    · subst start
      rcases start_cases (opened.run service machine events) service.network machine with
        ⟨done, given, now⟩ | ⟨failed, same⟩
      · have unserved : Event.serve ∉ events := fun mem => given (consumed.2 mem)
        simp [step, done, now, unserved]
      · simp [step, failed, same, consumed, bound]
    · rw [listener_step start serve]
      simp [consumed, bound, start, Ne.symm serve]

/-! ## How serving ends -/

/-- **How serving ends**: on a server that served before, on one that is not bound, on one that
cannot encrypt as it is to, or drained. -/
theorem serve_cases (server : Server) (config : NetworkConfig) (machine : Machine) :
    let given := { server with listener := .consumed }
    server.listener = .consumed ∧ server.serve config machine = (server, .consumed) ∨
      server.listener = .unbound ∧ server.serve config machine = (given, .failed notStarted) ∨
      server.listener = .bound ∧
        ((∃ fault, config.tlsFault? machine = some fault ∧
            server.serve config machine =
              (given.mapHealth Health.setReady, .failed fault.failure)) ∨
          config.tlsFault? machine = none ∧
            server.serve config machine =
              (((given.mapHealth Health.triggerShutdown).drain config.drainTimeout).1, .done)) := by
  intro given
  rw [serve]
  cases bound : server.listener with
  | consumed => exact .inl ⟨rfl, rfl⟩
  | unbound => exact .inr (.inl ⟨rfl, rfl⟩)
  | bound =>
    refine .inr (.inr ⟨rfl, ?_⟩)
    cases encrypting : config.tlsFault? machine with
    | none => exact .inr ⟨rfl, rfl⟩
    | some fault => exact .inl ⟨fault, rfl, rfl⟩

theorem serve_eq_done_iff {config : NetworkConfig} :
    (server.serve config machine).2 = .done ↔
      server.listener = .bound ∧ config.tlsFault? machine = none := by
  rcases server.serve_cases config machine with ⟨listener, end'⟩ | ⟨listener, end'⟩ |
    ⟨listener, ⟨fault, encrypting, end'⟩ | ⟨encrypting, end'⟩⟩ <;>
    simp [*]

/-! ## After serving -/

/-- **The server is closed**: it refuses work, and cannot serve any more. -/
structure Closed (server : Server) : Prop where
  consumed : server.listener = .consumed
  shutting : server.health.state.isShuttingDown = true

theorem Closed.step_plain (closed : server.Closed) (plain : event.setsState = false)
    (start : event ≠ .start) : (server.step service machine event).1.Closed := by
  have serve : event ≠ .serve := by
    rintro rfl
    cases plain
  refine ⟨(listener_step start serve).trans closed.consumed, ?_⟩
  have moves : (server.step service machine event).1.health.state = .stopped ∨
      (server.step service machine event).1.health.state = server.health.state := state_step plain
  rcases moves with stopped | same
  · rw [stopped]
    rfl
  · rw [same]
    exact closed.shutting

/-- A closed server stays closed until somebody makes it ready. -/
theorem Closed.step (closed : server.Closed) (other : event ≠ .setReady) :
    (server.step service machine event).1.Closed := by
  cases event with
  | setReady => exact absurd rfl other
  | triggerShutdown => exact ⟨closed.consumed, rfl⟩
  | start =>
    have same : server.start service.network machine = (server, .consumed) := by
      rw [start, closed.consumed]
    rwa [step, same]
  | serve =>
    have same : server.serve service.network machine = (server, .consumed) := by
      rw [serve, closed.consumed]
    rwa [step, same]
  | _ => exact closed.step_plain rfl (by simp)

theorem Closed.run (closed : server.Closed) (service : Service) (machine : Machine)
    {events : List Event} (never : .setReady ∉ events) :
    (server.run service machine events).Closed := by
  induction events generalizing server with
  | nil => exact closed
  | cons event rest ih =>
    rw [List.mem_cons, not_or] at never
    exact ih (closed.step (Ne.symm never.1)) never.2

/-- What serving on a bound server leaves, where nothing keeps it from encrypting. -/
theorem closed_of_done {config : NetworkConfig} (balanced : server.life.Balanced)
    (done : (server.serve config machine).2 = .done) :
    let staying :=
      server.life.guards.countP (Guard.staysUntil (server.life.clock + config.drainTimeout))
    let served := (server.serve config machine).1
    served.Closed ∧ served.health = ⟨if staying = 0 then .stopped else .draining, staying⟩ := by
  intro staying served
  obtain ⟨bound, encrypting⟩ := serve_eq_done_iff.1 done
  let given := { server with listener := .consumed }
  have ended : served = ((given.mapHealth Health.triggerShutdown).drain config.drainTimeout).1 := by
    simp only [served, serve, bound, encrypting]
    rfl
  have balanced' : (given.mapHealth Health.triggerShutdown).life.Balanced := balanced
  have health : served.health = ⟨if staying = 0 then .stopped else .draining, staying⟩ := by
    rw [ended]
    exact Lifecycle.health_drain balanced' config.drainTimeout
  refine ⟨⟨listener_serve server config machine, ?_⟩, health⟩
  rw [health]
  dsimp only
  split <;> rfl

/-- The books of a run that started from nothing balance. -/
theorem balanced_run (service : Service) (machine : Machine) (definitions : Definitions)
    (store : Store) (events : List Event) :
    (Server.run service machine { definitions, store } events).life.Balanced :=
  Lifecycle.carries_zero_iff.1
    ((keeps_life_run { definitions, store } events).carries Lifecycle.balanced_initial)

/-- **How a server ends that serves.**  After any run it serves just if a start came off, it has
not served before, and nothing keeps it from encrypting as it is to.  Then, in whatever state it
was, it is stopped if nothing is in flight or every guard leaves before the drain is over, and it
drains with the guards that stay if there are such.  From there on it admits no work for the API in
any run in which nobody makes it ready. -/
theorem serving_ends_closed (service : Service) (machine : Machine) (definitions : Definitions)
    (store : Store) (events : List Event) :
    let opened : Server := { definitions, store }
    let server := opened.run service machine events
    let served := server.step service machine .serve
    let deadline := server.life.clock + service.network.drainTimeout
    let staying := server.life.guards.countP (Guard.staysUntil deadline)
    (served.2 = .done ↔ opened.Started service machine events ∧ .serve ∉ events ∧
      service.network.tlsFault? machine = none) ∧
    (served.2 = .done →
      (server.health.inFlight = 0 ∨
          (∀ guard ∈ server.life.guards, guard.isCounted = true →
            guard.leavesWhen (· < deadline) = true) →
        served.1.health = ⟨.stopped, 0⟩) ∧
      ((∃ guard ∈ server.life.guards, guard.isCounted = true ∧
          guard.leavesWhen (· < deadline) = false) →
        served.1.health = ⟨.draining, staying⟩ ∧ 0 < staying) ∧
      ∀ later : List Event, .setReady ∉ later →
        ∀ (work : Sending) (route : Route), work.IsWork service route →
          (served.1.run service machine later).TurnsAway service work ∧
          ¬ (served.1.run service machine later).Admits service work route) := by
  intro opened server served deadline staying
  have balanced : server.life.Balanced := balanced_run service machine definitions store events
  obtain ⟨-, bound⟩ : _ ∧ (server.listener = .bound ↔ _) :=
    listener_run_iff service machine rfl events
  refine ⟨serve_eq_done_iff.trans (by rw [bound, and_assoc]), fun done => ?_⟩
  obtain ⟨closed, health⟩ : served.1.Closed ∧
      served.1.health = ⟨if staying = 0 then .stopped else .draining, staying⟩ :=
    closed_of_done balanced done
  refine ⟨fun gone => ?_, fun ⟨guard, listed, counted, stays⟩ => ?_, ?_⟩
  · have nobody : staying = 0 := by
      refine List.countP_eq_zero.2 fun guard listed stays => ?_
      obtain ⟨counted, still⟩ := Bool.and_eq_true_iff.1 stays
      rcases gone with quiet | leave
      · exact List.countP_eq_zero.1 (balanced.symm.trans quiet) guard listed counted
      · rw [leave guard listed counted] at still
        cases still
    exact health.trans (by rw [nobody, if_pos rfl])
  · have some : 0 < staying :=
      List.countP_pos_iff.2 ⟨guard, listed, by rw [Guard.staysUntil, counted, stays]; rfl⟩
    exact ⟨health.trans (by rw [if_neg some.ne']), some⟩
  · intro later never work route works
    have shutting := (closed.run service machine never).shutting
    rw [turnsAway_iff works, admits_iff works, Bool.not_eq_false]
    exact ⟨shutting, shutting⟩

/-- A server that is draining already serves, while a guard is leaving and another one is held: the
first is waited for and the second is not. -/
theorem serving_ends_closed_beside_held :
    let events : List Event := [.start, .triggerShutdown, .acquire, .acquire, .drain 10 (some 100)]
    let server := ({} : Server).run sampleService (.working .empty) events
    let served := server.step sampleService (.working .empty) .serve
    server.health = ⟨.draining, 2⟩ ∧ served.2 = .done ∧ served.1.health = ⟨.draining, 1⟩ ∧
      (served.1.run sampleService (.working .empty) [.release 1, .start, .serve]).TurnsAway
        sampleService sampleReading := by
  intro events server served
  obtain ⟨ended, closed⟩ :=
    serving_ends_closed sampleService (.working .empty) .empty .empty events
  have done : served.2 = .done :=
    ended.2 ⟨⟨[], ⟨_, rfl⟩, rfl⟩, by simp [events], rfl⟩
  obtain ⟨-, draining, later⟩ := closed done
  have held : Guard.held ∈ server.life.guards := by decide +kernel
  refine ⟨by decide +kernel, done, ?_, ?_⟩
  · refine (draining ⟨.held, held, rfl, rfl⟩).1.trans ?_
    decide +kernel
  · exact (later _ (by simp) _ _ (isWork_sampleReading _)).1

/-! ## Serving in vain -/

/-- **What a server is like that serves in vain.**  If no start came off it says so, and all that
it loses is its address.  If one did, its certificate or key is at fault, and **the server is made
ready before that is found out**.  The count of what is in flight stays as it was; the state does
just if no start came off or the server was ready before. -/
theorem serving_in_vain (service : Service) (machine : Machine) (definitions : Definitions)
    (store : Store) (events : List Event) :
    let opened : Server := { definitions, store }
    let server := opened.run service machine events
    let served := server.step service machine .serve
    let given := { server with listener := .consumed }
    ∀ failure, served.2 = .failed failure →
      (¬ opened.Started service machine events → failure = notStarted ∧ served.1 = given) ∧
      (opened.Started service machine events →
        ∃ fault, service.network.tlsFault? machine = some fault ∧ failure = fault.failure ∧
          served.1 = given.mapHealth Health.setReady) ∧
      served.1.health.inFlight = server.health.inFlight ∧
      (served.1.health = server.health ↔
        ¬ opened.Started service machine events ∨ server.health.state = .ready) := by
  intro opened server served given failure failed
  obtain ⟨consumed, bound⟩ : (server.listener = .consumed ↔ _) ∧ (server.listener = .bound ↔ _) :=
    listener_run_iff service machine rfl events
  rcases server.serve_cases service.network machine with ⟨listener, ended⟩ | ⟨listener, ended⟩ |
    ⟨listener, ⟨fault, encrypting, ended⟩ | ⟨encrypting, ended⟩⟩
  · cases (congrArg Prod.snd ended).symm.trans failed
  · cases (congrArg Prod.snd ended).symm.trans failed
    have same : served.1 = given := congrArg Prod.fst ended
    -- A server with no address yet has neither served nor had a start come off.
    have unserved : .serve ∉ events := fun mem => nomatch listener.symm.trans (consumed.2 mem)
    have unstarted : ¬ opened.Started service machine events := fun started =>
      nomatch listener.symm.trans (bound.2 ⟨started, unserved⟩)
    exact ⟨fun _ => ⟨rfl, same⟩, fun started => absurd started unstarted, by rw [same]; rfl,
      iff_of_true (by rw [same]; rfl) (.inl unstarted)⟩
  · cases (congrArg Prod.snd ended).symm.trans failed
    have ready : served.1 = given.mapHealth Health.setReady := congrArg Prod.fst ended
    have started := (bound.1 listener).1
    refine ⟨fun unstarted => absurd started unstarted,
      fun _ => ⟨fault, encrypting, rfl, ready⟩, by rw [ready]; rfl, ?_⟩
    rw [ready]
    refine Iff.trans ⟨fun same => ?_, fun same => ?_⟩ (or_iff_right (not_not.2 started)).symm
    · exact (congrArg Health.state same).symm
    · exact congrArg (Health.mk · server.health.inFlight) same.symm
  · cases (congrArg Prod.snd ended).symm.trans failed

/-- A service that is to encrypt. -/
def encryptingService : Service :=
  { sampleService with
    network := { sampleService.network with tls := some ⟨"cert.pem", "key.pem"⟩ } }

/-- A server that is draining with a guard admits work again once it has served in vain; one that is
given no address goes on as it was. -/
theorem serving_in_vain_while_draining :
    let run := ({} : Server).run encryptingService (.working .empty)
    let serve := fun server : Server => server.step encryptingService (.working .empty) .serve
    let bound := run [.start, .acquire, .triggerShutdown]
    let unbound := run [.acquire, .triggerShutdown]
    bound.health = ⟨.draining, 1⟩ ∧ (serve bound).1.health = ⟨.ready, 1⟩ ∧
      unbound.health = ⟨.draining, 1⟩ ∧ (serve unbound).2 = .failed notStarted ∧
      (serve unbound).1.health = ⟨.draining, 1⟩ := by
  intro run serve bound unbound
  have inVain := serving_in_vain encryptingService (.working .empty) .empty .empty
  obtain ⟨-, started, -⟩ := inVain [.start, .acquire, .triggerShutdown] _ rfl
  obtain ⟨-, -, -, same⟩ := inVain [.acquire, .triggerShutdown] _ rfl
  have unstarted : ¬ ({} : Server).Started encryptingService (.working .empty)
      [.acquire, .triggerShutdown] := by
    rintro ⟨early, within, -⟩
    have start : Event.start ∈ [Event.acquire, .triggerShutdown] :=
      within.subset (List.mem_append_right _ (List.mem_singleton_self _))
    simp at start
  obtain ⟨_, -, -, ready⟩ := started ⟨[], ⟨_, rfl⟩, rfl⟩
  exact ⟨rfl, congrArg Server.health ready, rfl, rfl, same.2 (.inl unstarted)⟩

/-- **A server that fails to serve is ready all the same.**  It never came up, as its certificate
cannot be read; and it shows that it is ready. -/
theorem ready_after_failing_to_serve :
    let server := ({} : Server).run encryptingService (.working .empty) [.start]
    let served := server.step encryptingService (.working .empty) .serve
    served.2 = .failed (TlsFault.unreadable "cert.pem" .missing).failure ∧
      server.health = ⟨.starting, 0⟩ ∧ served.1.health = ⟨.ready, 0⟩ ∧
      ¬ server.ShowsReady encryptingService sampleProbe ∧
      served.1.ShowsReady encryptingService sampleProbe := by
  intro server served
  have deadline : 0 < encryptingService.network.requestTimeout := by decide
  refine ⟨rfl, rfl, rfl, ?_, ?_⟩
  · rw [showsReady_iff deadline (isProbe_sampleProbe _)]
    exact nofun
  · exact (showsReady_iff deadline (isProbe_sampleProbe _)).2 rfl

end Server

end PropertyGate
