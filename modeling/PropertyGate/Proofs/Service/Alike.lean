import PropertyGate.Proofs.Service.BodyLimit

/-!
# Proofs/Service/Alike — what a patch does not see

A patch looks at what is declared and at whether the service admits work, and at nothing else of what
it finds: not at what is stored, nor at how much is in flight.  It is given an id on its way in, and
looks at that only where the requester is named by it.  So two snapshots that `Match` in what a patch
sees come to outcomes that are `Alike`, in what is answered, what is asked and how long it takes
(`alike_respond`), and what is stored for one of them is stored for the other (`Applies.transfer`).
-/

namespace PropertyGate

open Http (Request Response Headers)

/-- **Two snapshots match** if the same is declared in both, and both admit work or neither does. -/
structure Snapshot.Matches (a b : Snapshot) : Prop where
  definitions : a.definitions = b.definitions
  admits : a.health.state.isShuttingDown = b.health.state.isShuttingDown

theorem Snapshot.Matches.symm {a b : Snapshot} (h : a.Matches b) : b.Matches a :=
  ⟨h.definitions.symm, h.admits.symm⟩

/-- **Two outcomes are alike**: answers with the same status and the same body, after the same calls at
the same moments and in the same time.  What is stored, and what else the answers say, may differ. -/
structure Outcome.Alike (a b : Outcome) : Prop where
  status : a.response.status = b.response.status
  body : a.response.body = b.response.body
  log : a.log = b.log
  elapsed : a.elapsed = b.elapsed

/-- A change of an answer that leaves its status and its body alone. -/
structure Http.Response.Keeps (f : Response → Response) : Prop where
  status : ∀ response, (f response).status = response.status
  body : ∀ response, (f response).body = response.body

namespace Outcome

variable {a b : Outcome} {s t : Snapshot}

theorem alike_answer (s t : Snapshot) (response : Response) :
    Alike (answer s response) (answer t response) := ⟨rfl, rfl, rfl, rfl⟩

theorem alike_refuse (s t : Snapshot) (refusal : Refusal) :
    Alike (refuse s refusal) (refuse t refusal) := alike_answer s t _

theorem Alike.mapResponse (h : Alike a b) {f g : Response → Response} (keepsLeft : Response.Keeps f)
    (keepsRight : Response.Keeps g) : Alike (a.mapResponse f) (b.mapResponse g) where
  status := (keepsLeft.status _).trans (h.status.trans (keepsRight.status _).symm)
  body := (keepsLeft.body _).trans (h.body.trans (keepsRight.body _).symm)
  log := h.log
  elapsed := h.elapsed

/-- Alike outcomes both miss a deadline, or neither does. -/
theorem Alike.within (h : Alike a b) (timeout : Nat) :
    Alike (Service.within timeout s a) (Service.within timeout t b) := by
  rw [Service.within, Service.within, h.elapsed, h.log]
  split
  · exact h
  · exact ⟨rfl, rfl, rfl, rfl⟩

end Outcome

namespace Service

variable {service : Service} {s t : Snapshot} {request a b : Request} {idA idB : String}
  {segment : String} {context : Context} {patch : Values} {approved : PatchResult}

/-! ## What is stored is not seen -/

theorem alike_applyPatch (same : s.definitions = t.definitions) (context : Context)
    (patch : Values) :
    Outcome.Alike (service.applyPatch s context patch) (service.applyPatch t context patch) := by
  simp only [applyPatch, same]
  cases ((service.pipelineOver t.definitions).resolve context patch).outcome with
  | error error => exact ⟨rfl, rfl, rfl, rfl⟩
  | ok approved =>
    -- A commit fails for what is declared, never for what is stored.
    cases storable : Store.patchError? t.definitions approved with
    | none =>
      simp only [Store.commit_of_storable storable]
      exact ⟨rfl, rfl, rfl, rfl⟩
    | some error =>
      simp only [Store.commit, storable]
      exact ⟨rfl, rfl, rfl, rfl⟩

theorem alike_patchPost (same : s.definitions = t.definitions)
    (wording : patchRequest service.network a segment = patchRequest service.network b segment) :
    Outcome.Alike (service.patchPost s a segment) (service.patchPost t b segment) := by
  rw [patchPost, patchPost, wording]
  cases patchRequest service.network b segment with
  | error refusal => exact Outcome.alike_refuse s t refusal
  | ok said => exact alike_applyPatch same said.1 said.2

theorem alike_admitWork (matching : s.Matches t) {left right : Snapshot → Outcome}
    (h : ∀ s t : Snapshot, s.definitions = t.definitions → Outcome.Alike (left s) (right t)) :
    Outcome.Alike (admitWork s left) (admitWork t right) := by
  rw [admitWork, admitWork, matching.admits]
  split
  · exact Outcome.alike_refuse s t .shuttingDown
  · have worked := h { s with health := s.health.enter } { t with health := t.health.enter }
      matching.definitions
    exact ⟨worked.status, worked.body, worked.log, worked.elapsed⟩

/-- **A patch comes to the same at its route**, if it says the same of every post. -/
theorem alike_followRoute (matching : s.Matches t) (asks : a.method = "PATCH")
    (method : a.method = b.method) (target : Route.of? a = Route.of? b)
    (wording : ∀ segment,
      patchRequest service.network a segment = patchRequest service.network b segment) :
    Outcome.Alike (service.followRoute s a) (service.followRoute t b) := by
  rw [followRoute, followRoute, target]
  cases Route.of? b with
  | none => exact Outcome.alike_answer s t _
  | some route =>
    have dispatched : ∀ s t : Snapshot, s.definitions = t.definitions →
        Outcome.Alike (service.dispatchMethod s a route) (service.dispatchMethod t b route) := by
      intro s t same
      rw [dispatchMethod, dispatchMethod, ← method, asks]
      cases route with
      | post segment => exact alike_patchPost same (wording segment)
      | health | liveness | readiness | teamStatus => exact Outcome.alike_answer s t _
    dsimp only
    split
    · exact alike_admitWork matching dispatched
    · exact dispatched s t matching.definitions

/-! ## The id is not seen, but for the requester -/

theorem readBody_withId (config : NetworkConfig) (generatedId : String) (request : Request) :
    readBody config (withId generatedId request) = readBody config request := by
  have read : (withId generatedId request).read? config.maxBodyBytes =
      request.read? config.maxBodyBytes := by
    rw [Request.read?, Http.readLimit, declaredLength?_withId, body_withId, Request.read?,
      Http.readLimit]
  rw [readBody, read, readBody]

/-- **The requester that a request names**, once it has an id. -/
def asker (config : NetworkConfig) (generatedId : String) (request : Request) :
    Except Refusal String :=
  requester config (withId generatedId request).headers

theorem patchRequest_withId {config : NetworkConfig}
    (same : asker config idA request = asker config idB request) (segment : String) :
    patchRequest config (withId idA request) segment =
      patchRequest config (withId idB request) segment := by
  rw [asker, asker] at same
  rw [patchRequest, patchRequest, same, readBody_withId, readBody_withId]

/-- A header of another name than that of the id names the same requester, whatever the id. -/
theorem asker_of_ne {config : NetworkConfig}
    (other : Text.lower config.requesterHeader ≠ Text.lower requestIdHeader) :
    asker config idA request = asker config idB request := by
  simp only [asker, requester, requester?, first?_withId other]

theorem keeps_finish (shown : request.method ≠ "HEAD") : Response.Keeps (finish request) :=
  ⟨status_finish, body_finish shown⟩

/-- **What a patch is answered depends on what is declared, on whether work is admitted and on who
asks**, and on nothing else that it finds. -/
theorem alike_respond (matching : s.Matches t) (asks : request.method = "PATCH")
    (same : asker service.network idA request = asker service.network idB request) :
    Outcome.Alike (service.respond s idA request) (service.respond t idB request) := by
  have finished : Response.Keeps (finish request) := keeps_finish (by rw [asks]; decide)
  have coded : ∀ headers : Headers, Response.Keeps fun response =>
      (response.forOrigin service.network.corsOrigins headers).coded headers := fun headers =>
    ⟨fun response => by simp, fun response => by simp⟩
  refine .mapResponse ?_ finished finished
  rw [exchange, exchange, declaresTooMuch_withId, declaresTooMuch_withId]
  split
  · exact Outcome.alike_answer s t _
  · refine .mapResponse ?_ (coded _) (coded _)
    have question : request.method ≠ Http.preflightMethod := by
      rw [asks]
      decide
    rw [guarded, guarded, method_withId, method_withId, if_neg question, if_neg question]
    refine Outcome.Alike.within (.mapResponse ?_ ?_ ?_) _
    · exact alike_followRoute matching (method_withId.trans asks)
        (method_withId.trans method_withId.symm) (of?_withId.trans of?_withId.symm)
        (patchRequest_withId same)
    · exact ⟨fun _ => Response.status_withHeader? .., fun _ => Response.body_withHeader? ..⟩
    · exact ⟨fun _ => Response.status_withHeader? .., fun _ => Response.body_withHeader? ..⟩

/-- **A patch that goes through somewhere goes through wherever it finds the same.** -/
theorem Applies.transfer (matching : s.Matches t)
    (same : asker service.network idA request = asker service.network idB request)
    (h : Applies service s idA request segment context patch approved) :
    Applies service t idB request segment context patch approved where
  toPatches := patches_withId_iff.2 (patches_withId_iff.1 h.toPatches)
  admitted := matching.admits.symm.trans h.admitted
  wording := (patchRequest_withId same segment).symm.trans h.wording
  resolved := matching.definitions ▸ h.resolved
  storable := matching.definitions ▸ h.storable
  declared := (declaresTooMuch_withId.trans declaresTooMuch_withId.symm).trans h.declared
  timely := matching.definitions ▸ h.timely

end Service

end PropertyGate
