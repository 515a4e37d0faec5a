import PropertyGate.Proofs.Server.AllOrNothing
import PropertyGate.Proofs.Service.Layers

/-!
# Proofs/Service/BodyLimit — how long a patch may be

The service has a limit for bodies, and bodies are read up to a fixed length whatever that limit is.
A patch that declares no length, and is otherwise as it should be (`Legible`), is refused for its
length if its body passes the smaller of the two, and then nothing is stored; otherwise **it is
answered as its whole body deserves** (`body_read_up_to_limit`).

So the limit of the service is not always the length of the longest body: **a limit above the fixed
length is not reached** (`body_refused_below_limit`).
-/

namespace PropertyGate

open Http (Request Response Headers)

namespace Service

variable {service : Service} {snapshot : Snapshot} {generatedId : String} {request : Request}
  {segment : String} {context : Context}

/-! ## Reading a body -/

@[simp] theorem body_withId : (withId generatedId request).body = request.body := by
  rw [withId]
  split <;> rfl

/-- The request declares no length. -/
def Undeclared (request : Request) : Prop := Headers.first? request.headers "content-length" = none

theorem Undeclared.declaredLength? (h : Undeclared request) :
    Http.declaredLength? request.headers = none := by
  rw [Http.declaredLength?, h, Option.bind_none]

theorem Undeclared.declaresTooMuch (h : Undeclared request) (limit : Nat) :
    Http.declaresTooMuch limit request.headers = false := by
  rw [Http.declaresTooMuch, h.declaredLength?]

/-- **A body is read up to the limit of the service and up to the fixed one.** -/
theorem Undeclared.readBody (h : Undeclared request) (config : NetworkConfig) (generatedId : String) :
    readBody config (withId generatedId request) =
      if min config.maxBodyBytes Http.maxReadLength < request.body.length then .error .bodyTooLong
      else .ok request.body := by
  rw [Service.readBody, Request.read?, Http.readLimit, declaredLength?_withId, h.declaredLength?,
    Option.getD_none, Nat.min_self, body_withId]
  by_cases tooLong : min config.maxBodyBytes Http.maxReadLength < request.body.length
  · rw [if_pos tooLong, if_pos tooLong]
  · rw [if_neg tooLong, if_neg tooLong]

/-! ## Patches whose body alone is in question -/

/-- **A request to change a post says which post it means, and who asks**; there may be no such post,
and its body may hold anything. -/
structure Legible (service : Service) (generatedId : String) (request : Request) (segment : String)
    (context : Context) : Prop extends Patches request segment where
  named : parameter "post_id" segment = .ok context.target
  asks : requester service.network (withId generatedId request).headers = .ok context.requester

/-- Its body plays no part in that. -/
theorem Legible.withBody (legible : Legible service generatedId request segment context)
    (body : Bytes) : Legible service generatedId { request with body } segment context where
  method := legible.method
  route := legible.route
  named := legible.named
  asks := by
    rw [headers_withId (a := { request with body }) (b := request) rfl]
    exact legible.asks

/-- What a whole body says of a post, if there can be such a post. -/
def wordWhole (context : Context) (body : Bytes) : Except Refusal Values := do
  checkPostId context.target
  decodePatch body

/-- What a patch comes to whose body is read whole, however long it is. -/
def patchWhole (service : Service) (snapshot : Snapshot) (context : Context) (body : Bytes) :
    Outcome :=
  match wordWhole context body with
  | .error refusal => .refuse snapshot refusal
  | .ok patch => service.applyPatch snapshot context patch

/-- Work that neither looks at the health of the service nor changes it comes to the same once it is
admitted. -/
theorem admitWork_of_frame {work : Snapshot → Outcome}
    (admitted : snapshot.health.state.isShuttingDown = false)
    (frame : ∀ health, work { snapshot with health } = { work snapshot with health }) :
    admitWork snapshot work = work snapshot := by
  rw [admitWork, admitted, if_neg Bool.false_ne_true]
  dsimp only
  rw [frame snapshot.health.enter]
  exact (frame snapshot.health).symm

theorem patchWhole_health (health : Health) (body : Bytes) :
    service.patchWhole { snapshot with health } context body =
      { service.patchWhole snapshot context body with health } := by
  rw [patchWhole, patchWhole]
  cases wordWhole context body with
  | error refusal => rfl
  | ok patch =>
    simp only [applyPatch]
    split
    · rfl
    · split <;> rfl

theorem patchPost_of_tooLong (legible : Legible service generatedId request segment context)
    (tooLong : readBody service.network (withId generatedId request) = .error .bodyTooLong) :
    service.patchPost snapshot (withId generatedId request) segment =
      .refuse snapshot .bodyTooLong := by
  rw [patchPost, patchRequest, legible.named, legible.asks, tooLong]
  rfl

theorem patchRequest_of_read (legible : Legible service generatedId request segment context)
    (read : readBody service.network (withId generatedId request) = .ok request.body) :
    patchRequest service.network (withId generatedId request) segment =
      (wordWhole context request.body).map (context, ·) := by
  rw [patchRequest, legible.named, legible.asks, read]
  change (checkPostId context.target).bind (fun _ => (decodePatch request.body).bind fun patch =>
    .ok (context, patch)) = _
  rw [wordWhole]
  cases checkPostId context.target <;> cases decodePatch request.body <;> rfl

theorem patchPost_of_read (legible : Legible service generatedId request segment context)
    (read : readBody service.network (withId generatedId request) = .ok request.body) :
    service.patchPost snapshot (withId generatedId request) segment =
      service.patchWhole snapshot context request.body := by
  rw [patchPost, patchRequest_of_read legible read, patchWhole]
  cases wordWhole context request.body <;> rfl

/-- **Where the body is not too long, its length plays no part.** -/
theorem followRoute_of_read (legible : Legible service generatedId request segment context)
    (admitted : snapshot.health.state.isShuttingDown = false)
    (read : readBody service.network (withId generatedId request) = .ok request.body) :
    service.followRoute snapshot (withId generatedId request) =
      service.patchWhole snapshot context request.body := by
  rw [followRoute_of_patches (patches_withId_iff.2 legible.toPatches)]
  simp only [patchPost_of_read legible read]
  exact admitWork_of_frame admitted fun health => patchWhole_health health request.body

theorem followRoute_of_tooLong (legible : Legible service generatedId request segment context)
    (admitted : snapshot.health.state.isShuttingDown = false)
    (tooLong : readBody service.network (withId generatedId request) = .error .bodyTooLong) :
    service.followRoute snapshot (withId generatedId request) = .refuse snapshot .bodyTooLong := by
  rw [followRoute_of_patches (patches_withId_iff.2 legible.toPatches)]
  simp only [patchPost_of_tooLong legible tooLong]
  exact admitWork_of_frame admitted fun _ => rfl

/-! ## The longest body -/

/-- **A patch whose body is too long is refused for it.** -/
theorem respond_of_tooLong (legible : Legible service generatedId request segment context)
    (undeclared : Undeclared request) (admitted : snapshot.health.state.isShuttingDown = false)
    (deadline : 0 < service.network.requestTimeout)
    (tooLong : min service.network.maxBodyBytes Http.maxReadLength < request.body.length) :
    service.respond snapshot generatedId request =
      (Outcome.refuse snapshot .bodyTooLong).mapResponse (service.dressed generatedId request) := by
  have read := undeclared.readBody service.network generatedId
  rw [if_pos tooLong] at read
  have route := followRoute_of_tooLong legible admitted read
  have timely : (service.followRoute snapshot (withId generatedId request)).elapsed <
      service.network.requestTimeout := by
    rw [route]
    exact deadline
  rw [respond_of_timely legible.ne_preflight (undeclared.declaresTooMuch _) timely, route]

/-- **A patch whose body is not too long is answered as its whole body deserves.** -/
theorem respond_of_read (legible : Legible service generatedId request segment context)
    (undeclared : Undeclared request) (admitted : snapshot.health.state.isShuttingDown = false)
    (timely : (service.respond snapshot generatedId request).elapsed <
      service.network.requestTimeout)
    (fits : request.body.length ≤ min service.network.maxBodyBytes Http.maxReadLength) :
    service.respond snapshot generatedId request =
      (service.patchWhole snapshot context request.body).mapResponse
        (service.dressed generatedId request) := by
  have read := undeclared.readBody service.network generatedId
  rw [if_neg (Nat.not_lt.2 fits)] at read
  have declared := undeclared.declaresTooMuch service.network.maxBodyBytes
  rw [respond_of_timely legible.ne_preflight declared
      (elapsed_followRoute_lt legible.ne_preflight declared timely),
    followRoute_of_read legible admitted read]

/-- **A body is read up to the limit of the service, and up to a fixed length.**  Of patches that
declare no length, are admitted and are done in time, those that pass either are refused for their
length, and nothing is stored; every other patch is answered as its whole body deserves. -/
theorem body_read_up_to_limit (service : Service) (snapshot : Snapshot) (generatedId : String)
    (request : Request) (segment : String) (context : Context)
    (legible : Legible service generatedId request segment context)
    (undeclared : Undeclared request) (admitted : snapshot.health.state.isShuttingDown = false)
    (timely : (service.respond snapshot generatedId request).elapsed <
      service.network.requestTimeout) :
    let limit := min service.network.maxBodyBytes Http.maxReadLength
    let outcome := service.respond snapshot generatedId request
    (limit < request.body.length → outcome.response.status = 413 ∧
      outcome.response.body = "Failed to buffer the request body: length limit exceeded" ∧
      outcome.store = snapshot.store ∧ outcome.calls = []) ∧
    (request.body.length ≤ limit →
      outcome = (service.patchWhole snapshot context request.body).mapResponse
        (service.dressed generatedId request)) := by
  intro limit outcome
  refine ⟨fun longer => ?_, respond_of_read legible undeclared admitted timely⟩
  have refused : outcome = (Outcome.refuse snapshot .bodyTooLong).mapResponse
      (service.dressed generatedId request) :=
    respond_of_tooLong legible undeclared admitted (Nat.zero_lt_of_lt timely) longer
  rw [refused]
  exact ⟨status_dressed _, body_dressed legible.ne_head _, rfl, rfl⟩

theorem legible_sampleRequest : Legible sampleService "r1" sampleRequest "p1" ⟨"p1", "u1"⟩ where
  toPatches := patches_withId_iff.1 sampleRequest_applies.toPatches
  named := rfl
  asks := requester_sampleRequest

theorem undeclared_sampleRequest : Undeclared sampleRequest := by
  rw [Undeclared]
  decide +kernel

theorem sampleRequest_read_whole :
    let snapshot := sampleServer.snapshot 0
    sampleRequest.body.length ≤ sampleService.network.maxBodyBytes ∧
      sampleService.respond snapshot "r1" sampleRequest =
        (sampleService.patchWhole snapshot ⟨"p1", "u1"⟩ sampleRequest.body).mapResponse
          (sampleService.dressed "r1" sampleRequest) := by
  have quick : (sampleService.followRoute (sampleServer.snapshot 0)
      (withId "r1" sampleRequest)).elapsed < sampleService.network.requestTimeout := by
    rw [sampleRequest_applies.toApproves.followRoute]
    exact sampleRequest_applies.timely
  have timely : (sampleService.respond (sampleServer.snapshot 0) "r1" sampleRequest).elapsed <
      sampleService.network.requestTimeout := by
    rw [respond_of_timely legible_sampleRequest.ne_preflight
      (undeclared_sampleRequest.declaresTooMuch _) quick]
    exact quick
  obtain ⟨-, whole⟩ := body_read_up_to_limit sampleService (sampleServer.snapshot 0) "r1"
    sampleRequest "p1" ⟨"p1", "u1"⟩ legible_sampleRequest undeclared_sampleRequest rfl timely
  exact ⟨by decide, whole (by decide)⟩

/-! ## A limit that is not reached -/

/-- The service of the sample, with a limit above the fixed length. -/
def roomyService : Service :=
  { sampleService with network := { sampleService.network with maxBodyBytes := 3000000 } }

/-- A patch that sets nothing, and then some blanks. -/
def paddedRequest (blanks : Nat) : Request :=
  { sampleRequest with body := [byte '{', byte '}'] ++ List.replicate blanks (byte ' ') }

theorem length_paddedRequest (blanks : Nat) : (paddedRequest blanks).body.length = blanks + 2 := by
  rw [paddedRequest, List.length_append, List.length_replicate, Nat.add_comm]
  rfl

theorem skipBlanks_replicate (blanks : Nat) :
    Json.skipBlanks (List.replicate blanks (byte ' ')) = [] := by
  induction blanks with
  | zero => rfl
  | succ blanks ih =>
    rw [List.replicate_succ, Json.skipBlanks, if_pos (by decide), ih]

/-- Blanks behind a document change nothing. -/
theorem decodePatch_paddedRequest (blanks : Nat) :
    decodePatch (paddedRequest blanks).body = .ok .empty := by
  -- The decoder is done with the closing brace, so it never looks at the blanks.
  have read : Values.decoder ((paddedRequest blanks).body.length + 1) Json.maxDepth
      (paddedRequest blanks).body = .ok (.empty, List.replicate blanks (byte ' ')) := by
    rw [length_paddedRequest]
    rfl
  rw [decodePatch, Json.decode, read]
  dsimp only
  rw [skipBlanks_replicate]
  rfl

theorem legible_paddedRequest (blanks : Nat) :
    Legible roomyService "r1" (paddedRequest blanks) "p1" ⟨"p1", "u1"⟩ := by
  have legible : Legible roomyService "r1" sampleRequest "p1" ⟨"p1", "u1"⟩ :=
    { legible_sampleRequest with }
  exact legible.withBody _

theorem patchWhole_paddedRequest (blanks : Nat) :
    (roomyService.patchWhole (sampleServer.snapshot 0) ⟨"p1", "u1"⟩
      (paddedRequest blanks).body).response.status = 200 := by
  have checked : checkPostId "p1" = .ok () := if_pos (by simp [isPostId])
  have word : wordWhole ⟨"p1", "u1"⟩ (paddedRequest blanks).body = .ok .empty := by
    rw [wordWhole, checked, decodePatch_paddedRequest]
    rfl
  rw [patchWhole, word]
  rfl

/-- **A body below the limit of the service is refused for its length.**  The patch has fewer bytes
than the service is to take, and nothing else is wrong with it: read whole, it succeeds. -/
theorem body_refused_below_limit :
    let request := paddedRequest 2097151
    let snapshot := sampleServer.snapshot 0
    let outcome := roomyService.respond snapshot "r1" request
    Legible roomyService "r1" request "p1" ⟨"p1", "u1"⟩ ∧ Undeclared request ∧
      snapshot.health.state.isShuttingDown = false ∧
      outcome.elapsed < roomyService.network.requestTimeout ∧
      request.body.length ≤ roomyService.network.maxBodyBytes ∧
      outcome.response.status = 413 ∧
      (roomyService.patchWhole snapshot ⟨"p1", "u1"⟩ request.body).response.status = 200 := by
  have longer : min roomyService.network.maxBodyBytes Http.maxReadLength <
      (paddedRequest 2097151).body.length := by
    rw [length_paddedRequest]
    decide
  have below : (paddedRequest 2097151).body.length ≤ roomyService.network.maxBodyBytes := by
    rw [length_paddedRequest]
    decide
  have refused : roomyService.respond (sampleServer.snapshot 0) "r1" (paddedRequest 2097151) = _ :=
    respond_of_tooLong (legible_paddedRequest 2097151) (undeclared_sampleRequest) rfl
      (by decide) longer
  have elapsed : (roomyService.respond (sampleServer.snapshot 0) "r1"
      (paddedRequest 2097151)).elapsed = 0 := by
    rw [refused]
    rfl
  refine ⟨legible_paddedRequest _, undeclared_sampleRequest, rfl, ?_, below, ?_,
    patchWhole_paddedRequest _⟩
  · rw [elapsed]
    decide
  · rw [refused]
    exact status_dressed _

end Service

end PropertyGate
