import PropertyGate.Proofs.Service.Patching
import PropertyGate.Proofs.Service.Replies

/-!
# Proofs/Service/Layers — what the outer layers make of an answer

Around a route lie the declared length, the questions about what may be asked, the deadline and the
headers of every answer.  A request that no layer settles by itself is answered as its route answers
it: **the layers keep the status of the answer, and its body but for `HEAD`**, and everything else that
the route comes to (`respond_of_timely`).  No request changes the health of the service for longer than
it takes (`health_respond`).
-/

namespace PropertyGate

open Http (Request Response Headers)

namespace Outcome

theorem health_mapResponse (outcome : Outcome) (f : Response → Response) :
    (outcome.mapResponse f).health = outcome.health := rfl

theorem response_mapResponse (outcome : Outcome) (f : Response → Response) :
    (outcome.mapResponse f).response = f outcome.response := rfl

theorem elapsed_mapResponse (outcome : Outcome) (f : Response → Response) :
    (outcome.mapResponse f).elapsed = outcome.elapsed := rfl

theorem response_answer (snapshot : Snapshot) (response : Response) :
    (answer snapshot response).response = response := rfl

end Outcome

namespace Service

variable {service : Service} {snapshot : Snapshot} {generatedId : String} {request : Request}
  {route : Route} {name : String}

/-! ## An id more -/

/-- A request that brings an id is given none. -/
theorem withId_of_named {id : String}
    (named : Headers.first? request.headers requestIdHeader = some id) :
    withId generatedId request = request := by
  rw [withId, named]

/-- Whether a request is given an id is seen from its headers. -/
theorem headers_withId {a b : Request} (same : a.headers = b.headers) :
    (withId generatedId a).headers = (withId generatedId b).headers := by
  rw [withId, withId, same]
  split
  · exact same
  · rfl

/-- An id more is seen under its own name only. -/
theorem first?_withId (other : Text.lower name ≠ Text.lower requestIdHeader) :
    Headers.first? (withId generatedId request).headers name =
      Headers.first? request.headers name := by
  rw [withId]
  split
  · rfl
  · have added := Headers.Adds.one request.headers requestIdHeader generatedId
    rw [Headers.first?, Headers.first?, added.values_eq (List.forall_mem_singleton.2 other.symm)]

theorem declaredLength?_withId :
    Http.declaredLength? (withId generatedId request).headers =
      Http.declaredLength? request.headers := by
  rw [Http.declaredLength?, first?_withId (Text.lower_ne_of_head? (by decide)), Http.declaredLength?]

theorem declaresTooMuch_withId {limit : Nat} :
    Http.declaresTooMuch limit (withId generatedId request).headers =
      Http.declaresTooMuch limit request.headers := by
  rw [Http.declaresTooMuch, declaredLength?_withId, Http.declaresTooMuch]

/-! ## The layers -/

/-- What the layers put around the answer of a route. -/
def dressed (service : Service) (generatedId : String) (request : Request)
    (response : Response) : Response :=
  let headers := (withId generatedId request).headers
  finish request <|
    ((response.withHeader? requestIdHeader (Headers.first? headers requestIdHeader)).forOrigin
      service.network.corsOrigins headers).coded headers

theorem status_finish (response : Response) : (finish request response).status = response.status := by
  rw [finish]
  split <;>
  · split
    · split <;> rfl
    · rfl

theorem body_finish (shown : request.method ≠ "HEAD") (response : Response) :
    (finish request response).body = response.body := by
  rw [finish, if_neg shown]
  split
  · split <;> rfl
  · rfl

@[simp] theorem status_dressed (response : Response) :
    (service.dressed generatedId request response).status = response.status := by
  simp only [dressed, status_finish, Response.status_coded, Response.status_forOrigin,
    Response.status_withHeader?]

theorem body_dressed (shown : request.method ≠ "HEAD") (response : Response) :
    (service.dressed generatedId request response).body = response.body := by
  simp only [dressed, body_finish shown, Response.body_coded, Response.body_forOrigin,
    Response.body_withHeader?]

/-- The last layer names methods at most. -/
theorem adds_finish (request : Request) (response : Response) :
    Headers.Adds ["allow"] response.headers (finish request response).headers := by
  have kept : ∀ named : Response, (if request.method = "HEAD" then { named with body := "" }
      else named).headers = named.headers := fun named => by split <;> rfl
  rw [finish, kept]
  split
  · split
    · exact .one ..
    · exact .refl _
  · exact .refl _

/-- A request that declares too long a body is refused by the layer that looks at the length. -/
theorem response_of_declaresTooMuch
    (declared : Http.declaresTooMuch service.network.maxBodyBytes request.headers = true) :
    (service.respond snapshot generatedId request).response =
      finish request (.text 413 lengthLimitText) := by
  rw [respond, exchange, declaresTooMuch_withId, declared, if_pos rfl,
    Outcome.response_mapResponse, Outcome.response_answer]

/-- Every other request is answered from further in. -/
theorem response_of_guarded
    (declared : Http.declaresTooMuch service.network.maxBodyBytes request.headers = false) :
    let headers := (withId generatedId request).headers
    (service.respond snapshot generatedId request).response =
      finish request (((service.guarded snapshot (withId generatedId request)).response.forOrigin
        service.network.corsOrigins headers).coded headers) := by
  rw [respond, exchange, declaresTooMuch_withId, declared, if_neg Bool.false_ne_true,
    Outcome.response_mapResponse, Outcome.response_mapResponse]

/-- A request that is neither refused for its declared length nor a question about what may be asked
comes to its route, under the deadline. -/
theorem respond_of_passes (asks : request.method ≠ Http.preflightMethod)
    (declared : Http.declaresTooMuch service.network.maxBodyBytes request.headers = false) :
    service.respond snapshot generatedId request =
      (within service.network.requestTimeout snapshot
        (identified (withId generatedId request)
          (service.followRoute snapshot (withId generatedId request)))).mapResponse
        fun response => finish request <|
          (response.forOrigin service.network.corsOrigins
            (withId generatedId request).headers).coded (withId generatedId request).headers := by
  rw [respond, exchange, declaresTooMuch_withId, declared, guarded, method_withId, if_neg asks]
  rfl

theorem elapsed_identified (outcome : Outcome) :
    (identified request outcome).elapsed = outcome.elapsed := rfl

/-- A request that is done before the deadline leaves its route before the deadline. -/
theorem elapsed_followRoute_lt (asks : request.method ≠ Http.preflightMethod)
    (declared : Http.declaresTooMuch service.network.maxBodyBytes request.headers = false)
    (timely : (service.respond snapshot generatedId request).elapsed <
      service.network.requestTimeout) :
    (service.followRoute snapshot (withId generatedId request)).elapsed <
      service.network.requestTimeout := by
  refine Decidable.byContradiction fun late => ?_
  rw [respond_of_passes asks declared, within, elapsed_identified, if_neg late] at timely
  exact Nat.lt_irrefl _ timely

/-- **A request that no layer settles is answered as its route answers it.** -/
theorem respond_of_timely (asks : request.method ≠ Http.preflightMethod)
    (declared : Http.declaresTooMuch service.network.maxBodyBytes request.headers = false)
    (timely : (service.followRoute snapshot (withId generatedId request)).elapsed <
      service.network.requestTimeout) :
    service.respond snapshot generatedId request =
      (service.followRoute snapshot (withId generatedId request)).mapResponse
        (service.dressed generatedId request) := by
  rw [respond_of_passes asks declared, within, elapsed_identified, if_pos timely]
  simp only [identified, Outcome.mapResponse, dressed]

/-- A request is answered before the deadline just if it leaves its route before the deadline. -/
theorem elapsed_lt_iff (asks : request.method ≠ Http.preflightMethod)
    (declared : Http.declaresTooMuch service.network.maxBodyBytes request.headers = false) :
    (service.respond snapshot generatedId request).elapsed < service.network.requestTimeout ↔
      (service.followRoute snapshot (withId generatedId request)).elapsed <
        service.network.requestTimeout := by
  refine ⟨elapsed_followRoute_lt asks declared, fun timely => ?_⟩
  rwa [respond_of_timely asks declared timely, Outcome.elapsed_mapResponse]

/-! ## What is shown -/

/-- **A question that no layer settles is answered with what its route answers.** -/
theorem respond_of_shown {outcome : Outcome} (asks : request.method = "GET")
    (declared : Http.declaresTooMuch service.network.maxBodyBytes request.headers = false)
    (route : service.followRoute snapshot (withId generatedId request) = outcome)
    (timely : outcome.elapsed < service.network.requestTimeout) :
    (service.respond snapshot generatedId request).response.status = outcome.response.status ∧
      (service.respond snapshot generatedId request).response.body = outcome.response.body := by
  have other {method : String} (ne : "GET" ≠ method) : request.method ≠ method := asks ▸ ne
  subst route
  rw [respond_of_timely (other (by decide)) declared timely]
  exact ⟨status_dressed _, body_dressed (other (by decide)) _⟩

/-- **What is asked to be shown is shown, unless the service is shutting down.** -/
theorem followRoute_of_shown (asks : request.method = "GET")
    (running : snapshot.health.state.isShuttingDown = false)
    (found : Route.of? request = some route) (api : route.isApi = true) :
    let shown := service.perform { snapshot with health := snapshot.health.enter } request route.shown
    service.followRoute snapshot request = { shown with health := shown.health.leave } := by
  have operation : route.operation? request.method = some route.shown := by
    rw [asks]
    rfl
  simp only [followRoute, found, api, if_true, admitWork, running, Bool.false_eq_true, if_false,
    dispatchMethod, operation]

/-! ## The health of the service -/

/-- No operation looks after its own count. -/
theorem health_dispatchMethod :
    (service.dispatchMethod snapshot request route).health = snapshot.health := by
  rw [dispatchMethod]
  split
  · rename_i operation _
    cases operation with
    | readPost segment =>
      simp only [perform, readPost]
      split <;> rfl
    | patchPost segment =>
      simp only [perform, patchPost, applyPatch]
      split
      · rfl
      · split
        · rfl
        · split <;> rfl
    | showTeamStatus segment =>
      simp only [perform, showTeamStatus]
      split <;> rfl
    | showHealth | showLiveness | showReadiness => rfl
  · rfl

theorem health_followRoute : (service.followRoute snapshot request).health = snapshot.health := by
  rw [followRoute]
  split
  · rfl
  · split
    · rw [admitWork]
      split
      · rfl
      · exact congrArg Health.leave health_dispatchMethod
    · exact health_dispatchMethod

theorem health_within (timeout : Nat) (outcome : Outcome) :
    (within timeout snapshot outcome).health = outcome.health := by
  rw [within]
  split <;> rfl

/-- **Every request leaves the health of the service as it found it.** -/
theorem health_respond : (service.respond snapshot generatedId request).health = snapshot.health := by
  rw [respond, Outcome.health_mapResponse, exchange]
  split
  · rfl
  · rw [Outcome.health_mapResponse, guarded]
    split
    · rfl
    · rw [health_within, identified, Outcome.health_mapResponse, health_followRoute]

end Service

end PropertyGate
