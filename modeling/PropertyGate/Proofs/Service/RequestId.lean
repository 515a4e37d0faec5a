import PropertyGate.Proofs.Server.AllOrNothing
import PropertyGate.Proofs.Service.Layers
import PropertyGate.Proofs.Service.Replies

/-!
# Proofs/Service/RequestId — which answers carry the id of their request

Every request has an id once it is in: the one that it brings, or one that it is given.  The layer that
copies the id to the answer lies next to the routes, so an answer carries the id if it comes from
there, whatever it says.  Three layers lie further out and may answer by themselves (`interposed?`):
the declared length may be too long, what may be asked may be in question, and the deadline may pass.
**Their answers carry no id, and all others carry it once** (`carries_id_unless_interposed`).
-/

namespace PropertyGate

open Http (Request Response Headers)

/-- The ids that an answer carries. -/
def Http.Response.ids (response : Response) : List String :=
  Headers.values response.headers Service.requestIdHeader

/-- **The headers that a service adds to its answers**, apart from their id. -/
def Http.answerHeaders : List String :=
  ["content-type", "vary", "content-encoding", "allow", "access-control-allow-origin",
    "access-control-allow-methods", "access-control-allow-headers"]

/-- None of them is an id. -/
theorem Http.lower_ne_of_mem_answerHeaders {name : String} (h : name ∈ Http.answerHeaders) :
    Text.lower name ≠ Text.lower Service.requestIdHeader := by
  refine Text.lower_ne_of_head? ?_
  revert name
  decide

/-- Whatever adds only them leaves the ids as they are. -/
theorem Http.Response.ids_of_adds {before after : Response}
    (adds : Headers.Adds Http.answerHeaders before.headers after.headers) : after.ids = before.ids :=
  adds.values_eq fun _ => Http.lower_ne_of_mem_answerHeaders

theorem Http.Response.ids_eq_nil {response : Response}
    (adds : Headers.Adds Http.answerHeaders [] response.headers) : response.ids = [] :=
  adds.values_eq_nil fun _ => Http.lower_ne_of_mem_answerHeaders

namespace Service

variable {service : Service} {snapshot : Snapshot} {generatedId : String} {request : Request}
  {route : Route}

/-! ## Behind the layer that copies the id -/

/-- **No route answers with an id.** -/
theorem ids_followRoute : (service.followRoute snapshot request).response.ids = [] :=
  Response.ids_eq_nil (adds_followRoute.mono (by simp [Http.answerHeaders]))

theorem first?_requestIdHeader_withId :
    Headers.first? (withId generatedId request).headers requestIdHeader =
      some ((Headers.first? request.headers requestIdHeader).getD generatedId) := by
  rw [withId]
  cases named : Headers.first? request.headers requestIdHeader with
  | some id => exact named
  | none =>
    rw [Headers.first?, List.head?_eq_none_iff] at named
    rw [Headers.first?, Headers.values_append, named]
    simp [Headers.values]

/-- What the layers further out add to an answer is no id. -/
theorem ids_outside (listed : List String) (headers : Headers) (response : Response) :
    (finish request ((response.forOrigin listed headers).coded headers)).ids = response.ids := by
  have coded := (response.adds_forOrigin listed headers).trans (Response.adds_coded _ headers)
  have outside := coded.trans (adds_finish request _)
  exact Response.ids_of_adds (outside.mono (by simp [Http.answerHeaders]))

theorem status_outside (listed : List String) (headers : Headers) (response : Response) :
    (finish request ((response.forOrigin listed headers).coded headers)).status =
      response.status := by
  rw [status_finish, Response.status_coded, Response.status_forOrigin]

/-- **The id of the request is added to what the routes answer.** -/
theorem ids_dressed (response : Response) :
    (service.dressed generatedId request response).ids =
      response.ids ++ [(Headers.first? request.headers requestIdHeader).getD generatedId] := by
  rw [dressed, ids_outside, first?_requestIdHeader_withId]
  exact response.values_withHeader?_self requestIdHeader (some _)

/-! ## Layers that answer by themselves -/

/-- **The status with which a layer answers in place of the routes**, if one does: too long a length is
declared, what may be asked is in question, or the time that a request takes is not below the
deadline. -/
def interposed? (config : NetworkConfig) (request : Request) (elapsed : Nat) : Option UInt16 :=
  if Http.declaresTooMuch config.maxBodyBytes request.headers then some 413
  else if request.method = Http.preflightMethod then some 200
  else if elapsed < config.requestTimeout then none
  else some 408

theorem respond_of_declaresTooMuch
    (declared : Http.declaresTooMuch service.network.maxBodyBytes request.headers = true) :
    (service.respond snapshot generatedId request).response.status = 413 ∧
      (service.respond snapshot generatedId request).response.ids = [] := by
  have bare := (Response.adds_text 413 lengthLimitText).trans (adds_finish request _)
  rw [response_of_declaresTooMuch declared, status_finish]
  exact ⟨rfl, Response.ids_eq_nil (bare.mono (by simp [Http.answerHeaders]))⟩

theorem respond_of_preflight
    (declared : Http.declaresTooMuch service.network.maxBodyBytes request.headers = false)
    (asks : request.method = Http.preflightMethod) :
    (service.respond snapshot generatedId request).response.status = 200 ∧
      (service.respond snapshot generatedId request).response.ids = [] := by
  rw [response_of_guarded declared, guarded, method_withId, if_pos asks, Outcome.response_answer,
    status_outside, ids_outside]
  exact ⟨rfl, Response.ids_eq_nil (Http.adds_preflight.mono (by simp [Http.answerHeaders]))⟩

theorem respond_of_late
    (declared : Http.declaresTooMuch service.network.maxBodyBytes request.headers = false)
    (asks : request.method ≠ Http.preflightMethod)
    (late : ¬ (service.followRoute snapshot (withId generatedId request)).elapsed <
      service.network.requestTimeout) :
    (service.respond snapshot generatedId request).response.status = 408 ∧
      (service.respond snapshot generatedId request).response.ids = [] := by
  rw [respond_of_passes asks declared, within, elapsed_identified, if_neg late,
    Outcome.response_mapResponse, status_outside, ids_outside]
  exact ⟨rfl, rfl⟩

/-- **An answer carries the id of its request once, unless a layer further out than the one that copies
the id answers by itself**; then it carries none.  The id is the first that the request brings, or
else the one that it is given. -/
theorem carries_id_unless_interposed (service : Service) (snapshot : Snapshot)
    (generatedId : String) (request : Request) :
    let outcome := service.respond snapshot generatedId request
    match interposed? service.network request outcome.elapsed with
    | none => outcome.response.ids =
        [(Headers.first? request.headers requestIdHeader).getD generatedId]
    | some status => outcome.response.status = status ∧ outcome.response.ids = [] := by
  intro outcome
  rw [interposed?]
  cases declared : Http.declaresTooMuch service.network.maxBodyBytes request.headers with
  | true =>
    rw [if_pos rfl]
    exact respond_of_declaresTooMuch declared
  | false =>
    rw [if_neg Bool.false_ne_true]
    by_cases asks : request.method = Http.preflightMethod
    · rw [if_pos asks]
      exact respond_of_preflight declared asks
    rw [if_neg asks]
    by_cases timely : (service.followRoute snapshot (withId generatedId request)).elapsed <
        service.network.requestTimeout
    · rw [if_pos ((elapsed_lt_iff asks declared).2 timely)]
      have answer : outcome = _ := respond_of_timely asks declared timely
      rw [answer, Outcome.response_mapResponse, ids_dressed, ids_followRoute, List.nil_append]
    · rw [if_neg (mt (elapsed_lt_iff asks declared).1 timely)]
      exact respond_of_late declared asks timely

/-! ## Ids that are lost -/

/-- The sample request, which brings an id. -/
def namedRequest : Request := withId "r1" sampleRequest

/-- The sample service with a handler that takes longer than a request may. -/
def slowService : Service :=
  { sampleService with
    handlers := HandlerRegistry.empty.register contentFlaggingGroup (Rule.context.handler 50)
    network := { sampleService.network with requestTimeout := 20 } }

theorem first?_namedRequest :
    Headers.first? namedRequest.headers requestIdHeader = some "r1" := by
  decide +kernel

theorem late_namedRequest :
    ¬ (slowService.followRoute (sampleServer.snapshot 0) (withId "r2" namedRequest)).elapsed <
      slowService.network.requestTimeout := by
  have approves : Approves slowService (sampleServer.snapshot 0) namedRequest "p1" ⟨"p1", "u1"⟩
      samplePatch sampleApproved :=
    { toPatches := sampleRequest_applies.toPatches
      admitted := rfl
      wording := patchRequest_sampleRequest
      resolved := rfl
      storable := rfl }
  have late : ¬ 50 < 20 := by decide
  rw [withId_of_named first?_namedRequest, approves.followRoute]
  exact late

/-- **Three answers without the id of their request**: to a request that declares too long a body, to a
question what may be asked, and to a patch that is not done before the deadline. -/
theorem id_lost_outside :
    let long := { namedRequest with
      headers := namedRequest.headers ++ [⟨"content-length", "1048577"⟩] }
    let question := { namedRequest with method := "OPTIONS" }
    let outcome := fun (service : Service) request =>
      service.respond (sampleServer.snapshot 0) "r2" request
    (∀ request ∈ [long, question, namedRequest],
      Headers.first? request.headers requestIdHeader = some "r1") ∧
    ((outcome sampleService long).response.status = 413 ∧
      (outcome sampleService long).response.ids = []) ∧
    ((outcome sampleService question).response.status = 200 ∧
      (outcome sampleService question).response.ids = []) ∧
    ((outcome slowService namedRequest).response.status = 408 ∧
      (outcome slowService namedRequest).response.ids = []) := by
  intro long question outcome
  have declared : Http.declaresTooMuch sampleService.network.maxBodyBytes long.headers = true := by
    decide +kernel
  have short : Http.declaresTooMuch 1048576 namedRequest.headers = false :=
    sampleRequest_applies.declared
  exact ⟨by decide +kernel, respond_of_declaresTooMuch declared, respond_of_preflight short rfl,
    respond_of_late short sampleRequest_applies.toPatches.ne_preflight late_namedRequest⟩

end Service

end PropertyGate
