import PropertyGate.Policy.Lemmas
import PropertyGate.Proofs.Api.Kind
import PropertyGate.Proofs.Patch.Declared
import PropertyGate.Proofs.Server.AllOrNothing
import PropertyGate.Proofs.Service.Replies

/-!
# Proofs/Service/Wiring — no failure of the service's own making

A service whose registries are its declarations looks up in what it checks by.  So whatever is
declared, no patch fails to be looked up, and an approved patch fails to be stored only where a
handler oversteps; **with handlers that return only what they were given, no patch is ever answered
with an internal failure to look up or to store** (`no_failure_by_own_wiring`).
-/

namespace PropertyGate

open Http (Request Response)

/-- **Handlers that return only fields they were given.** -/
def HandlerRegistry.Confined (handlers : HandlerRegistry) : Prop :=
  ∀ name handler, handlers.get? name = some handler →
    ∀ context groupName values returned,
      (handler context groupName values).verdict = .approved returned →
        ∀ fieldId ∈ returned.keys, fieldId ∈ values.keys

/-- The kinds of errors that tell of a failure to look up or to store. -/
def wiringKinds : List String :=
  ["field_resolution_failed", "group_resolution_failed", "store_failed"]

theorem isUnescaped_of_mem_wiringKinds {kind : String} (h : kind ∈ wiringKinds) :
    kind.toList.all Json.isUnescaped = true := by
  revert kind
  decide +kernel

namespace Refusal

/-- The answer to an error of the API tells of its kind. -/
theorem tells_response (error : ApiError) : (Refusal.api error).response.Tells error.kind :=
  ⟨(Refusal.api error).isErrorStatus_response, error.body, rfl, rfl⟩

/-- **An answer that shows a refusal tells of the kind of its error**, and of nothing if it shows
none of the API. -/
theorem exists_kind_of_tells {refusal : Refusal} {response : Response} {kind : String}
    (plain : kind.toList.all Json.isUnescaped = true)
    (shown : response.body = refusal.response.body) (tells : response.Tells kind) :
    ∃ error, refusal = .api error ∧ error.kind = kind := by
  have brace := tells.head?_body
  rw [shown] at brace
  cases refusal with
  | shuttingDown => exact absurd brace (by decide +kernel)
  | unreadableSegment parameter =>
    have text : "Invalid URL: Invalid UTF-8 in `".toList.head? = some 'I' := by decide +kernel
    change ("Invalid URL: Invalid UTF-8 in `" ++ parameter ++ "`").toList.head? = _ at brace
    rw [String.toList_append, String.toList_append, List.head?_append, List.head?_append, text]
      at brace
    exact absurd (Option.some.inj brace) (by decide)
  | bodyTooLong => exact absurd brace (by decide +kernel)
  | api error =>
    obtain ⟨-, body, rfl, hbody⟩ := tells
    have same : body.toJson.print = error.body.toJson.print := hbody.symm.trans shown
    exact ⟨error, rfl, (ErrorBody.kind_eq_of_print_eq same plain error.isUnescaped_kind).symm⟩

end Refusal

namespace Service

variable {service : Service} {snapshot : Snapshot} {generatedId : String} {request : Request}
  {segment : String}

/-- **What a patch is answered**, if not with success: that it is too long, nothing at all, or why
it is refused. -/
theorem body_respond_of_patches (h : Patches request segment) :
    (service.respond snapshot generatedId request).response.status = 200 ∨
      (service.respond snapshot generatedId request).response.body = lengthLimitText ∨
      (service.respond snapshot generatedId request).response.body = "" ∨
      ∃ refusal, Refuses service snapshot (withId generatedId request) segment refusal ∧
        (service.respond snapshot generatedId request).response.body = refusal.response.body := by
  cases declared : Http.declaresTooMuch service.network.maxBodyBytes
    (withId generatedId request).headers with
  | true =>
    refine .inr (.inl ?_)
    rw [respond, exchange, if_pos declared]
    exact congrArg Response.body (finish_of_patches h _)
  | false =>
    rw [respond_of_patches h declared]
    simp only [Outcome.mapResponse, Response.status_coded, Response.body_coded,
      Response.status_forOrigin, Response.body_forOrigin, within]
    split
    · simp only [identified, Outcome.mapResponse, Response.status_withHeader?,
        Response.body_withHeader?]
      rcases approves_or_refuses (patches_withId_iff.2 h) with
        ⟨context, patch, approved, approves⟩ | ⟨-, refusal, refuses, response⟩
      · rw [approves.followRoute]
        exact .inl rfl
      · exact .inr (.inr (.inr ⟨refusal, refuses, congrArg Response.body response⟩))
    · exact .inr (.inr (.inl rfl))

/-! ## Wiring -/

/-- What a request says badly is no failure to look up or to store. -/
theorem kind_of_patchRequest_eq_error {error : ApiError}
    (h : patchRequest service.network request segment = .error (.api error)) :
    error.kind ∉ wiringKinds := by
  rcases patchRequest_eq_error h with h | h | h | ⟨_, h⟩ | ⟨_, h⟩ <;> cases h <;>
    simp [ApiError.kind, wiringKinds]

theorem pipelineOver_eq (wired : service.registries = Definitions.registries)
    (definitions : Definitions) :
    service.pipelineOver definitions = definitions.pipeline service.handlers service.pipeline := by
  rw [pipelineOver, wired, Definitions.pipeline]

/-- **A patch is not refused for a failure to look up or to store**, where the declarations answer
for themselves and no handler oversteps. -/
theorem Refuses.kind_not_mem_wiringKinds {error : ApiError}
    (wired : service.registries = Definitions.registries) (confined : service.handlers.Confined)
    (wellFormed : snapshot.definitions.WellFormed)
    (h : Refuses service snapshot request segment (.api error)) : error.kind ∉ wiringKinds := by
  cases h with
  | wording h => exact kind_of_patchRequest_eq_error h
  | @unresolved context patch error _ h =>
    rw [pipelineOver_eq wired] at h
    obtain ⟨noField, noGroup⟩ := wellFormed.not_resolutionFailed h
    cases error with
    | fieldResolutionFailed cause => exact absurd rfl (noField cause)
    | groupResolutionFailed groupId cause => exact absurd rfl (noGroup groupId cause)
    | _ => simp [ApiError.kind, PatchError.kind, wiringKinds]
  | @unstorable context patch approved error _ resolved h =>
    rw [pipelineOver_eq wired] at resolved
    obtain ⟨group, returned, fieldId, returns, hmem, overstep⟩ :=
      (Definitions.commit_eq_error_iff resolved snapshot.store context.target).1 ⟨error, h⟩
    obtain ⟨handler, registered, -, verdict⟩ := returns.answer
    have given := confined _ handler registered _ _ _ _ verdict fieldId hmem
    exact absurd overstep (Definitions.not_oversteps_of_mem_portion given)

/-- **A service fails by its own wiring never to look up, and to store only where a handler
oversteps**: for whatever was declared, and whatever it is asked. -/
theorem no_failure_by_own_wiring (declarations : List Declaration) (service : Service)
    (wired : service.registries = Definitions.registries) :
    let definitions := Definitions.ofDeclarations declarations
    (∀ context patch error,
      ((service.pipelineOver definitions).resolve context patch).outcome = .error error →
        (∀ cause, error ≠ .fieldResolutionFailed cause) ∧
          ∀ groupId cause, error ≠ .groupResolutionFailed groupId cause) ∧
    (∀ context patch approved,
      ((service.pipelineOver definitions).resolve context patch).outcome = .ok approved →
        ∀ (store : Store) (target : String),
          (∃ error, store.commit definitions target approved = .error error) ↔
            ∃ group returned fieldId,
              definitions.Returns service.handlers service.pipeline context patch group returned ∧
                fieldId ∈ returned.keys ∧ definitions.Oversteps group fieldId) ∧
    (service.handlers.Confined → ∀ (snapshot : Snapshot) generatedId request segment,
      snapshot.definitions = definitions → Patches request segment → ∀ kind ∈ wiringKinds,
        ¬ (service.respond snapshot generatedId request).response.Tells kind) := by
  intro definitions
  have wellFormed : definitions.WellFormed := Definitions.wellFormed_ofDeclarations declarations
  simp only [pipelineOver_eq wired]
  refine ⟨fun context patch error => wellFormed.not_resolutionFailed,
    fun context patch approved => Definitions.commit_eq_error_iff, ?_⟩
  intro confined snapshot generatedId request segment declared asks kind hkind tells
  rcases body_respond_of_patches asks with success | long | late | ⟨refusal, refuses, shown⟩
  · have failure := tells.1
    rw [success] at failure
    exact absurd failure (by decide)
  · exact absurd (long ▸ tells.head?_body) (by decide +kernel)
  · exact absurd (late ▸ tells.head?_body) (by decide +kernel)
  · obtain ⟨error, rfl, rfl⟩ := Refusal.exists_kind_of_tells (isUnescaped_of_mem_wiringKinds hkind)
      shown tells
    exact refuses.kind_not_mem_wiringKinds wired confined (declared ▸ wellFormed) hkind

/-- A group with one field is declared; declaring the group again is refused. -/
def sampleDeclarations : List Declaration :=
  [.group ⟨"g", contentFlaggingGroup⟩, .field ⟨"f", "g", none⟩, .group ⟨"g", "other"⟩]

/-- A handler that adds a field that nobody declared. -/
def oversteppingService : Service :=
  { sampleService with
    handlers := HandlerRegistry.empty.register contentFlaggingGroup
      ((Rule.overlay (TextMap.empty.insert "x" .null)).handler 0) }

theorem confined_sampleService : sampleService.handlers.Confined := by
  intro name handler registered context groupName values returned verdict fieldId hmem
  obtain rfl : Rule.context.handler 0 = handler := by
    have found := (HandlerRegistry.get?_register .empty contentFlaggingGroup name _).symm.trans
      registered
    split at found <;> cases found
    rfl
  cases verdict
  rwa [TextMap.keys, TextMap.mapValues, List.map_map] at hmem

/-- The overstepping handler is found out when its result is stored; a handler that keeps to its
fields leaves nothing to find, even where the field is not declared. -/
theorem oversteppingService_found_out :
    (∃ approved, ((oversteppingService.pipelineOver (.ofDeclarations sampleDeclarations)).resolve
        ⟨"p1", "u1"⟩ samplePatch).outcome = .ok approved ∧
      ∃ group returned fieldId,
        (Definitions.ofDeclarations sampleDeclarations).Returns oversteppingService.handlers
          oversteppingService.pipeline ⟨"p1", "u1"⟩ samplePatch group returned ∧
        fieldId ∈ returned.keys ∧
        (Definitions.ofDeclarations sampleDeclarations).Oversteps group fieldId) ∧
    ((sampleService.pipelineOver (.ofDeclarations [])).resolve ⟨"p1", "u1"⟩ samplePatch).outcome =
      .error (.unknownField "f") ∧
    sampleService.handlers.Confined ∧ Patches sampleRequest "p1" ∧
    ¬ (sampleService.respond (Server.snapshot {} 0) "r1" sampleRequest).response.Tells
      "store_failed" := by
  have asks : Patches sampleRequest "p1" := patches_withId_iff.1 sampleRequest_applies.toPatches
  have overstepping := no_failure_by_own_wiring sampleDeclarations oversteppingService rfl
  have keeping := no_failure_by_own_wiring [] sampleService rfl
  refine ⟨⟨_, rfl, ?_⟩, rfl, confined_sampleService, asks, ?_⟩
  · exact (overstepping.2.1 ⟨"p1", "u1"⟩ samplePatch _ rfl .empty "p1").1 ⟨.undeclared "x", rfl⟩
  · exact keeping.2.2 confined_sampleService _ _ _ _ rfl asks _ (by decide)

end Service

end PropertyGate
