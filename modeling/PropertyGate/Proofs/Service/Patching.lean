import PropertyGate.Proofs.Property.Flatten
import PropertyGate.Service.Exchange
import PropertyGate.Store.Lemmas

/-!
# Proofs/Service/Patching — which requests change a post, and what they are answered

A request `Applies` if it gets past everything that can turn it away: the declared length, the state
of the service, its own wording, the pipeline, the check of the store and the deadline.  Such a
request is answered with what it stores (`Applies.respond`); any other patch is declined
(`applies_or_declined`), and a request that asks for something else never touches the store
(`store_respond_of_not_patches`).  Hence **what is stored changes only with success**
(`store_respond_of_status`).
-/

namespace PropertyGate

open Http (Request Response Headers)

/-! ## What a store becomes -/

namespace Store

/-- A store with values laid over those of a post; without values it stays as it is. -/
def lay (store : Store) (target : String) (values : Values) : Store :=
  if values.isEmpty then store else store.write target values

variable {store : Store} {target : String} {values : Values}

theorem lay_empty : store.lay target .empty = store := if_pos rfl

/-- Other posts keep their entries, or have none as before. -/
theorem get?_targets_lay_of_ne {probe : String} (h : probe ≠ target) :
    (store.lay target values).targets.get? probe = store.targets.get? probe := by
  rw [lay]
  split
  · rfl
  · exact TextMap.get?_insert_of_ne _ _ h.symm

theorem values_lay_of_ne {probe : String} (h : probe ≠ target) :
    (store.lay target values).values probe = store.values probe := by
  rw [Store.values, get?_targets_lay_of_ne h, Store.values]

theorem isEmpty_iff_eq_empty : values.isEmpty = true ↔ values = .empty := by
  constructor
  · intro h
    refine TextMap.ext_get? fun key => ?_
    rw [TextMap.get?, List.isEmpty_iff.1 h]
    rfl
  · rintro rfl
    rfl

/-- The laid values show, and below them those that the post had. -/
theorem get?_values_lay (fieldId : String) :
    ((store.lay target values).values target).get? fieldId =
      (values.get? fieldId).or ((store.values target).get? fieldId) := by
  rw [lay]
  split
  · rename_i h
    rw [isEmpty_iff_eq_empty.1 h, TextMap.get?_empty, Option.none_or]
  · rw [values_write_self, TextMap.get?_overlay]

theorem values_lay_self :
    (store.lay target values).values target = (store.values target).overlay values :=
  TextMap.ext_get? fun fieldId => by rw [get?_values_lay, TextMap.get?_overlay]

/-- Where there are values to lay, the post has an entry afterwards. -/
theorem get?_targets_lay_self (some : values ≠ .empty) :
    (store.lay target values).targets.get? target =
      .some ((store.values target).overlay values) := by
  rw [lay, if_neg fun none => some (isEmpty_iff_eq_empty.1 none), write]
  exact TextMap.get?_insert_self ..

theorem commit_of_storable {definitions : Definitions} {approved : PatchResult}
    (h : patchError? definitions approved = none) :
    store.commit definitions target approved = .ok (store.lay target approved.flatten) := by
  refine commit_eq_ok_iff.2 ⟨h, ?_⟩
  rw [lay]
  by_cases flat : approved.flatten = .empty
  · rw [if_pos (isEmpty_iff_eq_empty.2 flat), if_pos (PatchResult.fieldCount_eq_zero_iff.2 flat)]
  · rw [if_neg fun h => flat (isEmpty_iff_eq_empty.1 h),
      if_neg fun h => flat (PatchResult.fieldCount_eq_zero_iff.1 h)]

end Store

/-! ## What the outer layers leave alone -/

namespace Http.Response

variable (response : Response)

@[simp] theorem status_withHeader? (name : String) (value : Option String) :
    (response.withHeader? name value).status = response.status := by
  cases value <;> rfl

@[simp] theorem body_withHeader? (name : String) (value : Option String) :
    (response.withHeader? name value).body = response.body := by
  cases value <;> rfl

@[simp] theorem status_forOrigin (listed : List String) (request : Headers) :
    (response.forOrigin listed request).status = response.status :=
  status_withHeader? _ _ _

@[simp] theorem body_forOrigin (listed : List String) (request : Headers) :
    (response.forOrigin listed request).body = response.body :=
  body_withHeader? _ _ _

@[simp] theorem status_coded (request : Headers) :
    (response.coded request).status = response.status := by
  rw [coded]
  split
  · rfl
  · dsimp only
    split <;> rfl

@[simp] theorem body_coded (request : Headers) :
    (response.coded request).body = response.body := by
  rw [coded]
  split
  · rfl
  · dsimp only
    split <;> rfl

end Http.Response

@[simp] theorem Outcome.store_mapResponse (outcome : Outcome) (f : Response → Response) :
    (outcome.mapResponse f).store = outcome.store := rfl

namespace Service

variable {service : Service} {snapshot : Snapshot} {generatedId : String} {request : Request}
  {segment : String} {context : Context} {patch : Values} {approved : PatchResult}

/-- **The request asks to change a post**, which the segment of its path names. -/
structure Patches (request : Request) (segment : String) : Prop where
  method : request.method = "PATCH"
  route : Route.of? request = some (.post segment)

@[simp] theorem method_withId : (withId generatedId request).method = request.method := by
  rw [withId]
  split <;> rfl

@[simp] theorem target_withId : (withId generatedId request).target = request.target := by
  rw [withId]
  split <;> rfl

theorem of?_withId : Route.of? (withId generatedId request) = Route.of? request := by
  rw [Route.of?, target_withId, Route.of?]

/-- An id more does not change what a request asks for. -/
theorem patches_withId_iff :
    Patches (withId generatedId request) segment ↔ Patches request segment := by
  constructor
  · rintro ⟨method, found⟩
    exact ⟨method_withId.symm.trans method, of?_withId.symm.trans found⟩
  · rintro ⟨method, found⟩
    exact ⟨method_withId.trans method, of?_withId.trans found⟩

theorem Patches.ne_preflight (h : Patches request segment) :
    request.method ≠ Http.preflightMethod := by
  rw [h.method]
  decide

theorem Patches.ne_head (h : Patches request segment) : request.method ≠ "HEAD" := by
  rw [h.method]
  decide

/-! ## Requests that change no post -/

theorem operation?_eq_patchPost {route : Route} {method : String}
    (h : route.operation? method = some (.patchPost segment)) :
    method = "PATCH" ∧ route = .post segment := by
  rw [Route.operation?] at h
  split at h
  · cases route <;> cases h
  · split at h
    · rename_i hpatch
      refine ⟨hpatch, ?_⟩
      cases route <;> cases h
      rfl
    · cases h

theorem store_perform {operation : Operation} (h : ∀ segment, operation ≠ .patchPost segment) :
    (service.perform snapshot request operation).store = snapshot.store := by
  cases operation with
  | patchPost segment => exact absurd rfl (h segment)
  | readPost segment =>
    rw [perform, readPost]
    split <;> rfl
  | showTeamStatus segment =>
    rw [perform, showTeamStatus]
    split <;> rfl
  | _ => rfl

theorem store_dispatchMethod {route : Route}
    (h : ∀ segment, ¬(request.method = "PATCH" ∧ route = .post segment)) :
    (service.dispatchMethod snapshot request route).store = snapshot.store := by
  rw [dispatchMethod]
  split
  · rename_i found
    refine store_perform fun segment heq => h segment (operation?_eq_patchPost ?_)
    rw [found, heq]
  · rfl

theorem store_admitWork {work : Snapshot → Outcome}
    (h : ∀ admitted, (work admitted).store = admitted.store) :
    (admitWork snapshot work).store = snapshot.store := by
  rw [admitWork]
  split
  · rfl
  · exact h _

theorem store_followRoute (h : ∀ segment, ¬Patches request segment) :
    (service.followRoute snapshot request).store = snapshot.store := by
  rw [followRoute]
  split
  · rfl
  · rename_i route found
    have other : ∀ segment, ¬(request.method = "PATCH" ∧ route = .post segment) := by
      rintro segment ⟨method, rfl⟩
      exact h segment ⟨method, found⟩
    split
    · exact store_admitWork fun _ => store_dispatchMethod other
    · exact store_dispatchMethod other

theorem store_within {timeout : Nat} {outcome : Outcome} (h : outcome.store = snapshot.store) :
    (within timeout snapshot outcome).store = snapshot.store := by
  rw [within]
  split
  · exact h
  · rfl

/-- **Only a request that asks to change a post can touch the store.** -/
theorem store_respond_of_not_patches (h : ∀ segment, ¬Patches request segment) :
    (service.respond snapshot generatedId request).store = snapshot.store := by
  have other : ∀ segment, ¬Patches (withId generatedId request) segment :=
    fun segment asks => h segment (patches_withId_iff.1 asks)
  rw [respond, Outcome.store_mapResponse, exchange]
  split
  · rfl
  · rw [Outcome.store_mapResponse, guarded]
    split
    · rfl
    · refine store_within ?_
      rw [identified, Outcome.store_mapResponse]
      exact store_followRoute other

/-! ## Patches -/

/-- **A patch that the handlers approve**, and that can be stored as it is approved.  `patch` is
what the request submits and `approved` what the handlers make of it. -/
structure Approves (service : Service) (snapshot : Snapshot) (request : Request) (segment : String)
    (context : Context) (patch : Values) (approved : PatchResult) : Prop
    extends Patches request segment where
  admitted : snapshot.health.state.isShuttingDown = false
  wording : patchRequest service.network request segment = .ok (context, patch)
  resolved : ((service.pipelineOver snapshot.definitions).resolve context patch).outcome =
    .ok approved
  storable : Store.patchError? snapshot.definitions approved = none

/-- **A patch that goes through**: it is approved, in time, and its declared length is admitted. -/
structure Applies (service : Service) (snapshot : Snapshot) (generatedId : String)
    (request : Request) (segment : String) (context : Context) (patch : Values)
    (approved : PatchResult) : Prop
    extends Approves service snapshot (withId generatedId request) segment context patch approved
    where
  declared : Http.declaresTooMuch service.network.maxBodyBytes
    (withId generatedId request).headers = false
  timely : ((service.pipelineOver snapshot.definitions).resolve context patch).elapsed <
    service.network.requestTimeout

/-- Nothing is stored, and the answer says that something went wrong. -/
structure Declined (snapshot : Snapshot) (outcome : Outcome) : Prop where
  store : outcome.store = snapshot.store
  status : PatchError.isErrorStatus outcome.response.status = true

theorem followRoute_of_patches (h : Patches request segment) :
    service.followRoute snapshot request =
      admitWork snapshot fun admitted => service.patchPost admitted request segment := by
  rw [followRoute]
  simp only [h.route, Route.isApi, if_true, dispatchMethod, h.method]
  rfl

/-- **What an approved patch comes to**: the answer shows what is stored. -/
theorem Approves.followRoute
    (h : Approves service snapshot request segment context patch approved) :
    service.followRoute snapshot request =
      let run := (service.pipelineOver snapshot.definitions).resolve context patch
      ⟨.json 200 (Values.toJson approved.flatten),
        snapshot.store.lay context.target approved.flatten, snapshot.health.enter.leave,
        run.log ++ [⟨run.elapsed, .commit context.target approved⟩], run.elapsed⟩ := by
  rw [followRoute_of_patches h.toPatches, admitWork, h.admitted, if_neg Bool.false_ne_true]
  simp only [patchPost, h.wording, applyPatch, h.resolved, Store.commit_of_storable h.storable]
  rfl

/-- **Why a patch is refused** once it has reached its route. -/
inductive Refuses (service : Service) (snapshot : Snapshot) (request : Request)
    (segment : String) : Refusal → Prop where
  | shuttingDown (h : snapshot.health.state.isShuttingDown = true) :
      Refuses service snapshot request segment .shuttingDown
  | wording {refusal : Refusal} (h : patchRequest service.network request segment = .error refusal) :
      Refuses service snapshot request segment refusal
  | unresolved {context : Context} {patch : Values} {error : PatchError}
      (wording : patchRequest service.network request segment = .ok (context, patch))
      (h : ((service.pipelineOver snapshot.definitions).resolve context patch).outcome =
        .error error) :
      Refuses service snapshot request segment (.api (.patch error))
  | unstorable {context : Context} {patch : Values} {approved : PatchResult} {error : StoreError}
      (wording : patchRequest service.network request segment = .ok (context, patch))
      (resolved : ((service.pipelineOver snapshot.definitions).resolve context patch).outcome =
        .ok approved)
      (h : snapshot.store.commit snapshot.definitions context.target approved = .error error) :
      Refuses service snapshot request segment (.api (.storeFailed error.failure))

/-- A patch that is not approved is refused, and nothing is stored. -/
theorem approves_or_refuses (h : Patches request segment) :
    (∃ context patch approved,
      Approves service snapshot request segment context patch approved) ∨
      (service.followRoute snapshot request).store = snapshot.store ∧
        ∃ refusal, Refuses service snapshot request segment refusal ∧
          (service.followRoute snapshot request).response = refusal.response := by
  rw [followRoute_of_patches h, admitWork]
  cases admitted : snapshot.health.state.isShuttingDown with
  | true => exact .inr ⟨rfl, _, .shuttingDown admitted, rfl⟩
  | false =>
    rw [if_neg Bool.false_ne_true]
    simp only [patchPost]
    cases wording : patchRequest service.network request segment with
    | error refusal => exact .inr ⟨rfl, refusal, .wording wording, rfl⟩
    | ok said =>
      obtain ⟨context, patch⟩ := said
      simp only [applyPatch]
      cases resolved :
        ((service.pipelineOver snapshot.definitions).resolve context patch).outcome with
      | error error => exact .inr ⟨rfl, _, .unresolved wording resolved, rfl⟩
      | ok approved =>
        cases storable : Store.patchError? snapshot.definitions approved with
        | none => exact .inl ⟨context, patch, approved, h, admitted, wording, resolved, storable⟩
        | some error =>
          have failed : snapshot.store.commit snapshot.definitions context.target approved =
              .error error := by
            rw [Store.commit, storable]
          simp only [failed]
          exact .inr ⟨rfl, _, .unstorable wording resolved failed, rfl⟩

/-- A patch that is not approved is declined, whatever is wrong with it. -/
theorem approves_or_declined (h : Patches request segment) :
    (∃ context patch approved,
      Approves service snapshot request segment context patch approved) ∨
      Declined snapshot (service.followRoute snapshot request) := by
  refine (approves_or_refuses h).imp id ?_
  rintro ⟨store, refusal, -, response⟩
  exact ⟨store, response ▸ refusal.isErrorStatus_response⟩

/-- Nothing is left to say about the methods of a post when it is changed. -/
theorem finish_of_patches (h : Patches request segment) (response : Response) :
    finish request response = response := by
  have named : (Route.post segment).operation? request.method = some (.patchPost segment) := by
    rw [h.method]
    rfl
  rw [finish]
  simp only [h.route, named, Option.isNone_some, Bool.false_eq_true, if_false, if_neg h.ne_head]

/-- A patch on its way in and out. -/
theorem respond_of_patches (h : Patches request segment)
    (declared : Http.declaresTooMuch service.network.maxBodyBytes
      (withId generatedId request).headers = false) :
    service.respond snapshot generatedId request =
      (within service.network.requestTimeout snapshot
        (identified (withId generatedId request)
          (service.followRoute snapshot (withId generatedId request)))).mapResponse
        fun response => (response.forOrigin service.network.corsOrigins
          (withId generatedId request).headers).coded (withId generatedId request).headers := by
  rw [respond, exchange, declared, guarded, method_withId, if_neg h.ne_preflight]
  simp only [Bool.false_eq_true, if_false, Outcome.mapResponse, finish_of_patches h]

/-- **A patch that goes through** is answered with what it stores. -/
theorem Applies.respond
    (h : Applies service snapshot generatedId request segment context patch approved) :
    (service.respond snapshot generatedId request).response.status = 200 ∧
      (service.respond snapshot generatedId request).response.body =
        (Values.toJson approved.flatten).print ∧
      (service.respond snapshot generatedId request).store =
        snapshot.store.lay context.target approved.flatten ∧
      (service.respond snapshot generatedId request).calls =
        ((service.pipelineOver snapshot.definitions).resolve context patch).calls ++
          [.commit context.target approved] := by
  have timely : within service.network.requestTimeout snapshot
      (identified (withId generatedId request)
        (service.followRoute snapshot (withId generatedId request))) =
      identified (withId generatedId request)
        (service.followRoute snapshot (withId generatedId request)) := by
    rw [h.toApproves.followRoute]
    exact if_pos h.timely
  rw [respond_of_patches (patches_withId_iff.1 h.toPatches) h.declared, timely,
    h.toApproves.followRoute]
  refine ⟨?_, ?_, rfl, List.map_append ..⟩
  · simp only [Outcome.mapResponse, identified, Http.Response.status_coded,
      Http.Response.status_forOrigin, Http.Response.status_withHeader?]
    rfl
  · simp only [Outcome.mapResponse, identified, Http.Response.body_coded,
      Http.Response.body_forOrigin, Http.Response.body_withHeader?]
    rfl

/-- Whatever changes an answer but not its status leaves it declined. -/
theorem Declined.mapResponse {outcome : Outcome} (h : Declined snapshot outcome)
    {f : Response → Response} (keeps : ∀ response, (f response).status = response.status) :
    Declined snapshot (outcome.mapResponse f) := by
  refine ⟨h.store, ?_⟩
  rw [Outcome.mapResponse, keeps]
  exact h.status

/-- A patch is declined at the deadline, and no later than it was declined without one. -/
theorem declined_within {outcome : Outcome} {timeout : Nat}
    (h : outcome.elapsed < timeout → Declined snapshot outcome) :
    Declined snapshot (within timeout snapshot outcome) := by
  rw [within]
  split
  · rename_i timely
    exact h timely
  · exact ⟨rfl, rfl⟩

/-- **Every other patch is declined.** -/
theorem applies_or_declined (h : Patches request segment) :
    (∃ context patch approved,
      Applies service snapshot generatedId request segment context patch approved) ∨
      Declined snapshot (service.respond snapshot generatedId request) := by
  cases declared : Http.declaresTooMuch service.network.maxBodyBytes
    (withId generatedId request).headers with
  | true =>
    refine .inr (Declined.mapResponse ?_ fun response => by rw [finish_of_patches h])
    rw [exchange, if_pos declared]
    exact ⟨rfl, rfl⟩
  | false =>
    rw [respond_of_patches h declared]
    refine Classical.or_iff_not_imp_left.2 fun none => ?_
    refine Declined.mapResponse (declined_within fun timely => ?_) fun response => by
      rw [Http.Response.status_coded, Http.Response.status_forOrigin]
    refine Declined.mapResponse ?_ fun response => Http.Response.status_withHeader? _ _ _
    refine (approves_or_declined (patches_withId_iff.2 h)).resolve_left ?_
    rintro ⟨context, patch, approved, approves⟩
    refine none ⟨context, patch, approved, approves, declared, ?_⟩
    rw [approves.followRoute] at timely
    exact timely

/-- A patch that is answered with success went through. -/
theorem applies_of_status (h : Patches request segment)
    (success : (service.respond snapshot generatedId request).response.status = 200) :
    ∃ context patch approved,
      Applies service snapshot generatedId request segment context patch approved := by
  refine (applies_or_declined h).resolve_right fun declined => ?_
  have failure := declined.status
  rw [success] at failure
  exact absurd failure (by decide)

/-- **A request either goes through or leaves the store as it is.** -/
theorem applies_or_store_respond_eq :
    (∃ segment context patch approved,
      Applies service snapshot generatedId request segment context patch approved) ∨
      (service.respond snapshot generatedId request).store = snapshot.store := by
  by_cases asks : ∃ segment, Patches request segment
  · obtain ⟨segment, asks⟩ := asks
    exact (applies_or_declined asks).imp (fun applies => ⟨segment, applies⟩) Declined.store
  · exact .inr (store_respond_of_not_patches fun segment hsegment => asks ⟨segment, hsegment⟩)

/-- **What is stored changes only with success.** -/
theorem store_respond_of_status
    (h : ∀ segment, Patches request segment →
      (service.respond snapshot generatedId request).response.status ≠ 200) :
    (service.respond snapshot generatedId request).store = snapshot.store := by
  refine applies_or_store_respond_eq.resolve_left ?_
  rintro ⟨segment, context, patch, approved, applies⟩
  exact h segment (patches_withId_iff.1 applies.toPatches) applies.respond.1

end Service

end PropertyGate
