import PropertyGate.Proofs.FirstFailure
import PropertyGate.Proofs.Http.Headers
import PropertyGate.Service.Exchange

/-!
# Proofs/Service/Replies — what a route answers

Whatever is asked of a route, it answers in one of three ways (`Replies`): with a document, without a
body, or with the reason for which it turns the request away.  That the service is shutting down is
never such a reason: it is found before the route is asked (`Replies.ne_shuttingDown`).  An answer of a
route bears no header but the type of its body (`adds_followRoute`).
-/

namespace PropertyGate

open Http (Request Response Headers)

/-! ## Reasons -/

/-- A document is no plain text. -/
theorem Http.Response.json_ne_text {status status' : UInt16} {document : Json.Value}
    {body : String} : Response.json status document ≠ .text status' body := by
  have type : "application/json" ≠ "text/plain; charset=utf-8" := by decide
  intro same
  obtain ⟨header, -⟩ := List.cons.inj (congrArg Response.headers same)
  exact type (congrArg Http.Header.value header)

/-- **The answer for a service that shuts down is given for no other reason.** -/
theorem Refusal.response_ne_shuttingDown {refusal : Refusal} (other : refusal ≠ .shuttingDown) :
    refusal.response ≠ Refusal.shuttingDown.response := by
  cases refusal with
  | shuttingDown => exact absurd rfl other
  | unreadableSegment parameter =>
    have status : (400 : UInt16) ≠ 503 := by decide
    exact fun same => status (congrArg Response.status same)
  | bodyTooLong =>
    have status : (413 : UInt16) ≠ 503 := by decide
    exact fun same => status (congrArg Response.status same)
  | api error => exact Response.json_ne_text

theorem Refusal.adds_response (refusal : Refusal) :
    Headers.Adds ["content-type"] [] refusal.response.headers := by
  cases refusal with
  | shuttingDown | unreadableSegment parameter | bodyTooLong => exact Response.adds_text _ _
  | api error => exact Response.adds_json _ _

namespace Service

variable {service : Service} {snapshot : Snapshot} {request : Request} {route : Route}
  {segment : String}

theorem parameter_eq_error {name : String} {refusal : Refusal}
    (h : parameter name segment = .error refusal) : refusal = .unreadableSegment name := by
  rw [parameter] at h
  split at h <;> cases h
  rfl

theorem requester_eq_error {config : NetworkConfig} {headers : Http.Headers} {refusal : Refusal}
    (h : requester config headers = .error refusal) :
    refusal = .api (.missingRequester config.requesterHeader) := by
  rw [requester] at h
  split at h <;> cases h
  rfl

theorem readBody_eq_error {config : NetworkConfig} {refusal : Refusal}
    (h : readBody config request = .error refusal) : refusal = .bodyTooLong := by
  rw [readBody] at h
  split at h <;> cases h
  rfl

theorem checkPostId_eq_error {post : String} {refusal : Refusal}
    (h : checkPostId post = .error refusal) : refusal = .api (.invalidTarget post) := by
  rw [checkPostId] at h
  split at h <;> cases h
  rfl

theorem decodePatch_eq_error {body : Bytes} {refusal : Refusal}
    (h : decodePatch body = .error refusal) : ∃ message, refusal = .api (.invalidBody message) := by
  rw [decodePatch] at h
  cases decoded : Json.decode Values.decoder body with
  | ok values =>
    rw [decoded] at h
    cases h
  | error fault =>
    rw [decoded] at h
    cases h
    exact ⟨fault.message, rfl⟩

/-- **What is wrong with a request that asks to change a post.** -/
theorem patchRequest_eq_error {config : NetworkConfig} {refusal : Refusal}
    (h : patchRequest config request segment = .error refusal) :
    refusal = .unreadableSegment "post_id" ∨
      refusal = .api (.missingRequester config.requesterHeader) ∨ refusal = .bodyTooLong ∨
      (∃ post, refusal = .api (.invalidTarget post)) ∨
      ∃ message, refusal = .api (.invalidBody message) := by
  rw [patchRequest, bind_eq_error_iff] at h
  rcases h with segment | ⟨post, -, h⟩
  · exact .inl (parameter_eq_error segment)
  rcases bind_eq_error_iff.1 h with header | ⟨name, -, h⟩
  · exact .inr (.inl (requester_eq_error header))
  rcases bind_eq_error_iff.1 h with long | ⟨body, -, h⟩
  · exact .inr (.inr (.inl (readBody_eq_error long)))
  rcases bind_eq_error_iff.1 h with id | ⟨-, -, h⟩
  · exact .inr (.inr (.inr (.inl ⟨post, checkPostId_eq_error id⟩)))
  rcases bind_eq_error_iff.1 h with malformed | ⟨patch, -, h⟩
  · exact .inr (.inr (.inr (.inr (decodePatch_eq_error malformed))))
  · cases h

/-- What is wrong with a request that asks to read a post. -/
theorem readRequest_eq_error {config : NetworkConfig} {refusal : Refusal}
    (h : readRequest config request segment = .error refusal) :
    refusal = .unreadableSegment "post_id" ∨
      refusal = .api (.missingRequester config.requesterHeader) ∨
      ∃ post, refusal = .api (.invalidTarget post) := by
  rw [readRequest, bind_eq_error_iff] at h
  rcases h with segment | ⟨post, -, h⟩
  · exact .inl (parameter_eq_error segment)
  rcases bind_eq_error_iff.1 h with header | ⟨name, -, h⟩
  · exact .inr (.inl (requester_eq_error header))
  rcases bind_eq_error_iff.1 h with id | ⟨-, -, h⟩
  · exact .inr (.inr ⟨post, checkPostId_eq_error id⟩)
  · cases h

/-! ## Replies -/

/-- **What a route may answer.** -/
inductive Replies : Response → Prop
  | document (status : UInt16) (document : Json.Value) : Replies (.json status document)
  | nothing (status : UInt16) : Replies (.empty status)
  | reason (refusal : Refusal) (other : refusal ≠ .shuttingDown) : Replies refusal.response

theorem Replies.ne_shuttingDown {response : Response} (h : Replies response) :
    response ≠ Refusal.shuttingDown.response := by
  cases h with
  | document status document => exact Response.json_ne_text
  | nothing status => exact nofun
  | reason refusal other => exact Refusal.response_ne_shuttingDown other

/-- Whatever a route answers, it names at most the type of the body. -/
theorem Replies.adds {response : Response} (h : Replies response) :
    Headers.Adds ["content-type"] [] response.headers := by
  cases h with
  | document status document => exact Response.adds_json _ _
  | nothing status => exact Response.adds_empty _
  | reason refusal other => exact refusal.adds_response

theorem replies_applyPatch (context : Context) (patch : Values) :
    Replies (service.applyPatch snapshot context patch).response := by
  simp only [applyPatch]
  split
  · exact .reason (.api (.patch _)) nofun
  · split
    · exact .reason (.api (.storeFailed _)) nofun
    · exact .document _ _

/-- **One case for each operation.** -/
theorem replies_perform (operation : Operation) :
    Replies (service.perform snapshot request operation).response := by
  cases operation with
  | showHealth => exact .document _ _
  | showLiveness => exact .nothing _
  | showReadiness => exact .nothing _
  | readPost segment =>
    simp only [perform, readPost]
    split
    · rename_i wrong
      refine .reason _ ?_
      rcases readRequest_eq_error wrong with rfl | rfl | ⟨post, rfl⟩ <;> nofun
    · exact .document _ _
  | patchPost segment =>
    simp only [perform, patchPost]
    split
    · rename_i wrong
      refine .reason _ ?_
      rcases patchRequest_eq_error wrong with rfl | rfl | rfl | ⟨post, rfl⟩ | ⟨message, rfl⟩ <;>
        nofun
    · exact replies_applyPatch _ _
  | showTeamStatus segment =>
    simp only [perform, showTeamStatus]
    split
    · rename_i wrong
      refine .reason _ ?_
      rw [parameter_eq_error wrong]
      nofun
    · exact .document _ _

theorem replies_dispatchMethod :
    Replies (service.dispatchMethod snapshot request route).response := by
  rw [dispatchMethod]
  split
  · exact replies_perform _
  · exact .nothing _

/-- **An answer from behind the layers bears no header but the type of its body.** -/
theorem adds_followRoute :
    Headers.Adds ["content-type"] [] (service.followRoute snapshot request).response.headers := by
  rw [followRoute]
  split
  · exact Response.adds_empty _
  · split
    · rw [admitWork]
      split
      · exact Refusal.adds_response _
      · exact replies_dispatchMethod.adds
    · exact replies_dispatchMethod.adds

end Service

end PropertyGate
