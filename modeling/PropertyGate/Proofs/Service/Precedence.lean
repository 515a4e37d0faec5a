import PropertyGate.Proofs.Service.Alike
import PropertyGate.Proofs.Service.BodyLimit
import PropertyGate.Proofs.Service.Identity

/-!
# Proofs/Service/Precedence — the first thing that is wrong decides the answer

A request to change a post is looked at in steps: the length that it declares, the segment of its
path, its requester, its body, the id of the post, the patch — and only then is anybody asked to
resolve the patch and to store it.  What a request has got past is a chain of structures, each with
one fact more, and `Answers` says what the request is answered, which calls are made and what is
stored if a step is the first to fail, or if none does; **no rule mentions a later step**.  A service
that is not shutting down follows these rules and nothing else (`first_fault_decides`).
-/

namespace PropertyGate

open Http (Request Response)

namespace Precedence

variable (service : Service) (snapshot : Snapshot) (generatedId : String) (request : Request)
  (segment : String)

/-! ## What a request has got past -/

/-- The request declares no length above the limit. -/
structure Bounded : Prop where
  declared : ∀ length, Http.declaredLength? request.headers = some length →
    length ≤ service.network.maxBodyBytes

/-- The segment of the path stands for a text. -/
structure Spelled (post : String) : Prop extends Bounded service request where
  spelled : Http.decodeSegment? segment = some post

/-- A header names a requester. -/
structure Signed (post name : String) : Prop extends Spelled service request segment post where
  signed : Service.requester? service.network (Service.withId generatedId request).headers =
    some name

/-- The body is not longer than what is read of it. -/
structure Delivered (post name : String) : Prop
    extends Signed service generatedId request segment post name where
  delivered : request.body.length ≤ Http.readLimit service.network.maxBodyBytes request.headers

/-- The text that names the post is the id of one. -/
structure Addressed (post name : String) : Prop
    extends Delivered service generatedId request segment post name where
  nonempty : post ≠ ""
  alphanumeric : ∀ c ∈ post.toList, c.isAlphanum = true

/-- **The body is a patch**: nothing is wrong with the request itself. -/
structure Understood (post name : String) (patch : Values) : Prop
    extends Addressed service generatedId request segment post name where
  decoded : Json.decode Values.decoder request.body = .ok patch

/-- How the patch is resolved. -/
def resolution (post name : String) (patch : Values) : Run :=
  (service.pipelineOver snapshot.definitions).resolve ⟨post, name⟩ patch

/-- The patch is approved. -/
structure Approved (post name : String) (patch : Values) (approved : PatchResult) : Prop
    extends Understood service generatedId request segment post name patch where
  approved : (resolution service snapshot post name patch).outcome = .ok approved

/-! ## What comes of it -/

/-- The answer that shows an error. -/
def fault (kind message : String) (status : UInt16) (offendingId : Option String) : Response :=
  service.dressed generatedId request
    (.json status (ErrorBody.toJson ⟨kind, message, status, offendingId⟩))

/-- **How a request to change a post is answered**: the answer, the calls that are made and what is
stored afterwards, by the first step that fails. -/
inductive Answers : Response → List Call → Store → Prop where
  /-- Too long a length is declared. -/
  | tooLong {length : Nat} (declared : Http.declaredLength? request.headers = some length)
      (above : service.network.maxBodyBytes < length) :
      Answers (.text 413 "length limit exceeded") [] snapshot.store
  /-- The segment of the path stands for no text. -/
  | unreadable (h : Bounded service request) (unreadable : Http.decodeSegment? segment = none) :
      Answers (service.dressed generatedId request
        (.text 400 "Invalid URL: Invalid UTF-8 in `post_id`")) [] snapshot.store
  /-- No requester is named. -/
  | unsigned {post : String} (h : Spelled service request segment post)
      (unsigned : Service.requester? service.network
        (Service.withId generatedId request).headers = none) :
      Answers (fault service generatedId request "missing_requester"
        ("missing requester identity header " ++ service.network.requesterHeader) 401 none)
        [] snapshot.store
  /-- The body is too long. -/
  | undelivered {post name : String} (h : Signed service generatedId request segment post name)
      (longer : Http.readLimit service.network.maxBodyBytes request.headers <
        request.body.length) :
      Answers (service.dressed generatedId request
        (.text 413 "Failed to buffer the request body: length limit exceeded")) [] snapshot.store
  /-- There can be no such post. -/
  | misaddressed {post name : String}
      (h : Delivered service generatedId request segment post name)
      (malformed : post = "" ∨ ∃ c ∈ post.toList, c.isAlphanum = false) :
      Answers (fault service generatedId request "invalid_target_id"
        ("invalid post id: " ++ post) 400 (some post)) [] snapshot.store
  /-- The body is no patch. -/
  | garbled {post name : String} {wrong : Json.Fault}
      (h : Addressed service generatedId request segment post name)
      (garbled : Json.decode Values.decoder request.body = .error wrong) :
      Answers (fault service generatedId request "invalid_body"
        ("invalid request body: " ++ wrong.message) 400 none) [] snapshot.store
  /-- The patch is not approved. -/
  | unresolved {post name : String} {patch : Values} {error : PatchError}
      (h : Understood service generatedId request segment post name patch)
      (refused : (resolution service snapshot post name patch).outcome = .error error) :
      Answers (fault service generatedId request error.kind error.message error.status
        error.offendingId?) (resolution service snapshot post name patch).calls snapshot.store
  /-- What is approved cannot be stored. -/
  | unstored {post name : String} {patch : Values} {approved : PatchResult} {error : StoreError}
      (h : Approved service snapshot generatedId request segment post name patch approved)
      (failed : snapshot.store.commit snapshot.definitions post approved = .error error) :
      Answers (fault service generatedId request "store_failed"
        ("failed to store property values: " ++ error.message) 500 none)
        ((resolution service snapshot post name patch).calls ++ [.commit post approved])
        snapshot.store
  /-- What is approved is stored and shown. -/
  | stored {post name : String} {patch : Values} {approved : PatchResult} {store : Store}
      (h : Approved service snapshot generatedId request segment post name patch approved)
      (stored : snapshot.store.commit snapshot.definitions post approved = .ok store) :
      Answers (service.dressed generatedId request
        (.json 200 (Values.toJson approved.flatten)))
        ((resolution service snapshot post name patch).calls ++ [.commit post approved]) store

variable {service snapshot generatedId request segment} {post name : String} {patch : Values}
  {refusal : Refusal}

/-! ## Step by step -/

theorem declaresTooMuch_eq_true_iff {limit : Nat} {headers : Http.Headers} :
    Http.declaresTooMuch limit headers = true ↔
      ∃ length, Http.declaredLength? headers = some length ∧ limit < length := by
  rw [Http.declaresTooMuch]
  split <;> rename_i declared <;> simp [declared]

theorem bounded_iff :
    Bounded service request ↔
      Http.declaresTooMuch service.network.maxBodyBytes request.headers = false := by
  rw [← Bool.not_eq_true, declaresTooMuch_eq_true_iff]
  constructor
  · rintro ⟨within⟩ ⟨length, declared, above⟩
    exact Nat.not_lt.2 (within length declared) above
  · exact fun none => ⟨fun length declared => Nat.not_lt.1 fun above => none ⟨length, declared, above⟩⟩

/-- What remains to be read once the segment stands for a text. -/
theorem patchRequest_of_spelled (h : Spelled service request segment post) :
    Service.patchRequest service.network (Service.withId generatedId request) segment = do
      let name ← Service.requester service.network (Service.withId generatedId request).headers
      let body ← Service.readBody service.network request
      Service.checkPostId post
      let patch ← Service.decodePatch body
      return (⟨post, name⟩, patch) := by
  have read : Service.parameter "post_id" segment = .ok post :=
    Service.parameter_eq_ok_iff.2 h.spelled
  rw [Service.patchRequest, read, Service.readBody_withId]
  rfl

/-- What remains to be read once the requester is named. -/
theorem patchRequest_of_signed (h : Signed service generatedId request segment post name) :
    Service.patchRequest service.network (Service.withId generatedId request) segment = do
      let body ← Service.readBody service.network request
      Service.checkPostId post
      let patch ← Service.decodePatch body
      return (⟨post, name⟩, patch) := by
  rw [patchRequest_of_spelled h.toSpelled, Service.requester, h.signed]
  rfl

/-- What remains to be read once the body is delivered. -/
theorem patchRequest_of_delivered (h : Delivered service generatedId request segment post name) :
    Service.patchRequest service.network (Service.withId generatedId request) segment = do
      Service.checkPostId post
      let patch ← Service.decodePatch request.body
      return (⟨post, name⟩, patch) := by
  rw [patchRequest_of_signed h.toSigned, Service.readBody, Request.read?,
    if_neg (Nat.not_lt.2 h.delivered)]
  rfl

/-- What remains to be read once the post has an id. -/
theorem patchRequest_of_addressed (h : Addressed service generatedId request segment post name) :
    Service.patchRequest service.network (Service.withId generatedId request) segment = do
      let patch ← Service.decodePatch request.body
      return (⟨post, name⟩, patch) := by
  rw [patchRequest_of_delivered h.toDelivered,
    Service.checkPostId_eq_ok_iff.2 (Service.isPostId_iff.2 ⟨h.nonempty, h.alphanumeric⟩)]
  rfl

theorem patchRequest_of_understood
    (h : Understood service generatedId request segment post name patch) :
    Service.patchRequest service.network (Service.withId generatedId request) segment =
      .ok (⟨post, name⟩, patch) := by
  rw [patchRequest_of_addressed h.toAddressed, Service.decodePatch, h.decoded]
  rfl

/-- The answer to an error of the API shows the error. -/
theorem dressed_api (error : ApiError) :
    service.dressed generatedId request (Refusal.api error).response =
      fault service generatedId request error.kind error.message error.status error.offendingId? :=
  rfl

/-- The answer to an error of a patch bears the status of that error. -/
theorem dressed_patch (error : PatchError) :
    service.dressed generatedId request (Refusal.api (.patch error)).response =
      fault service generatedId request error.kind error.message error.status
        error.offendingId? := by
  rw [dressed_api, ApiError.status_patch]
  rfl

section Applying

variable {approved : PatchResult}

theorem applyPatch_of_refused {error : PatchError}
    (refused : (resolution service snapshot post name patch).outcome = .error error) :
    service.applyPatch snapshot ⟨post, name⟩ patch =
      { Outcome.refuse snapshot (.api (.patch error)) with
        log := (resolution service snapshot post name patch).log
        elapsed := (resolution service snapshot post name patch).elapsed } := by
  rw [resolution] at refused
  simp only [Service.applyPatch, refused, resolution]

theorem applyPatch_of_unstorable {error : StoreError}
    (resolved : (resolution service snapshot post name patch).outcome = .ok approved)
    (failed : snapshot.store.commit snapshot.definitions post approved = .error error) :
    let run := resolution service snapshot post name patch
    service.applyPatch snapshot ⟨post, name⟩ patch =
      { Outcome.refuse snapshot (.api (.storeFailed error.failure)) with
        log := run.log ++ [⟨run.elapsed, .commit post approved⟩], elapsed := run.elapsed } := by
  rw [resolution] at resolved
  simp only [Service.applyPatch, resolved, failed, resolution]

theorem applyPatch_of_stored {store : Store}
    (resolved : (resolution service snapshot post name patch).outcome = .ok approved)
    (stored : snapshot.store.commit snapshot.definitions post approved = .ok store) :
    let run := resolution service snapshot post name patch
    service.applyPatch snapshot ⟨post, name⟩ patch =
      { Outcome.answer snapshot (.json 200 (Values.toJson approved.flatten)) with
        store, log := run.log ++ [⟨run.elapsed, .commit post approved⟩], elapsed := run.elapsed } := by
  rw [resolution] at resolved
  simp only [Service.applyPatch, resolved, stored, resolution]

end Applying

/-! ## Following the rules -/

/-- Nothing stands between a request and its route but the layers around every answer. -/
structure Arrives (service : Service) (snapshot : Snapshot) (generatedId : String)
    (request : Request) (segment : String) : Prop extends Service.Patches request segment where
  running : snapshot.health.state.isShuttingDown = false
  timely : Http.declaresTooMuch service.network.maxBodyBytes request.headers = false →
    (service.respond snapshot generatedId request).elapsed < service.network.requestTimeout

/-- A request that arrives comes to what its route makes of it. -/
theorem Arrives.respond (h : Arrives service snapshot generatedId request segment)
    (bounded : Bounded service request) :
    service.respond snapshot generatedId request =
      (Service.admitWork snapshot fun admitted =>
        service.patchPost admitted (Service.withId generatedId request) segment).mapResponse
        (service.dressed generatedId request) := by
  have declared := bounded_iff.1 bounded
  have timely := (Service.elapsed_lt_iff h.ne_preflight declared).1 (h.timely declared)
  rw [Service.respond_of_timely h.ne_preflight declared timely,
    Service.followRoute_of_patches (Service.patches_withId_iff.2 h.toPatches)]

/-- A request that does not say what it must is refused, and nobody is asked. -/
theorem Arrives.respond_of_refusal (h : Arrives service snapshot generatedId request segment)
    (bounded : Bounded service request)
    (wrong : Service.patchRequest service.network (Service.withId generatedId request) segment =
      .error refusal) :
    service.respond snapshot generatedId request =
      Outcome.answer snapshot (service.dressed generatedId request refusal.response) := by
  rw [h.respond bounded, Service.admitWork, h.running, if_neg Bool.false_ne_true]
  simp only [Service.patchPost, wrong]
  rfl

/-- Applying a patch does not look at how the service is. -/
theorem applyPatch_enter (service : Service) (snapshot : Snapshot) (context : Context)
    (patch : Values) :
    let entered := service.applyPatch { snapshot with health := snapshot.health.enter } context patch
    let applied := service.applyPatch snapshot context patch
    entered.response = applied.response ∧ entered.calls = applied.calls ∧
      entered.store = applied.store := by
  intro entered applied
  simp only [entered, applied, Service.applyPatch]
  split
  · exact ⟨rfl, rfl, rfl⟩
  · split <;> exact ⟨rfl, rfl, rfl⟩

/-- A request that says what it must is applied. -/
theorem Arrives.respond_of_understood (h : Arrives service snapshot generatedId request segment)
    (understood : Understood service generatedId request segment post name patch) :
    let applied := service.applyPatch snapshot ⟨post, name⟩ patch
    (service.respond snapshot generatedId request).response =
        service.dressed generatedId request applied.response ∧
      (service.respond snapshot generatedId request).calls = applied.calls ∧
      (service.respond snapshot generatedId request).store = applied.store := by
  intro applied
  obtain ⟨response, calls, store⟩ := applyPatch_enter service snapshot ⟨post, name⟩ patch
  rw [h.respond understood.toBounded, Service.admitWork, h.running, if_neg Bool.false_ne_true]
  simp only [Service.patchPost, patchRequest_of_understood understood]
  exact ⟨congrArg (service.dressed generatedId request) response, calls, store⟩

/-- **The rules are followed.** -/
theorem Answers.sound {response : Response} {calls : List Call} {store : Store}
    (arrives : Arrives service snapshot generatedId request segment)
    (h : Answers service snapshot generatedId request segment response calls store) :
    (service.respond snapshot generatedId request).response = response ∧
      (service.respond snapshot generatedId request).calls = calls ∧
      (service.respond snapshot generatedId request).store = store := by
  -- A request that is refused for what it says is answered with the refusal.
  have refused : ∀ refusal : Refusal, Bounded service request →
      Service.patchRequest service.network (Service.withId generatedId request) segment =
        .error refusal →
      (service.respond snapshot generatedId request).response =
          service.dressed generatedId request refusal.response ∧
        (service.respond snapshot generatedId request).calls = [] ∧
        (service.respond snapshot generatedId request).store = snapshot.store := by
    intro refusal bounded wrong
    rw [arrives.respond_of_refusal bounded wrong]
    exact ⟨rfl, rfl, rfl⟩
  cases h with
  | tooLong declared above =>
    have tooMuch := declaresTooMuch_eq_true_iff.2 ⟨_, declared, above⟩
    rw [Service.respond, Service.exchange, Service.declaresTooMuch_withId, if_pos tooMuch]
    exact ⟨Service.finish_of_patches arrives.toPatches _, rfl, rfl⟩
  | unreadable h unreadable =>
    refine refused (.unreadableSegment "post_id") h (bind_eq_error_iff.2 (.inl ?_))
    rw [Service.parameter, unreadable]
  | unsigned h unsigned =>
    refine refused (.api (.missingRequester _)) h.toBounded ?_
    rw [patchRequest_of_spelled h, Service.requester, unsigned]
    rfl
  | undelivered h longer =>
    refine refused .bodyTooLong h.toBounded ?_
    rw [patchRequest_of_signed h, Service.readBody, Request.read?, if_pos longer]
    rfl
  | @misaddressed post _ h malformed =>
    refine refused (.api (.invalidTarget post)) h.toBounded ?_
    have bad : ¬ Service.isPostId post = true := by
      rw [Service.isPostId_iff]
      rintro ⟨nonempty, plain⟩
      rcases malformed with empty | ⟨c, hc, other⟩
      · exact nonempty empty
      · rw [plain c hc] at other
        cases other
    rw [patchRequest_of_delivered h, Service.checkPostId, if_neg bad]
    rfl
  | @garbled _ _ wrong h garbled =>
    refine refused (.api (.invalidBody wrong.message)) h.toBounded ?_
    rw [patchRequest_of_addressed h, Service.decodePatch, garbled]
    rfl
  | @unresolved _ _ _ error h refused =>
    obtain ⟨response, calls, store⟩ := arrives.respond_of_understood h
    rw [response, calls, store, applyPatch_of_refused refused]
    exact ⟨dressed_patch error, rfl, rfl⟩
  | @unstored _ _ _ _ error h failed =>
    obtain ⟨response, calls, store⟩ := arrives.respond_of_understood h.toUnderstood
    rw [response, calls, store, applyPatch_of_unstorable h.approved failed]
    exact ⟨dressed_api (.storeFailed error.failure), List.map_append .., rfl⟩
  | stored h stored =>
    obtain ⟨response, calls, store⟩ := arrives.respond_of_understood h.toUnderstood
    rw [response, calls, store, applyPatch_of_stored h.approved stored]
    exact ⟨rfl, List.map_append .., rfl⟩

/-- **The rules leave no request out.** -/
theorem exists_answers (service : Service) (snapshot : Snapshot) (generatedId : String)
    (request : Request) (segment : String) :
    ∃ response calls store,
      Answers service snapshot generatedId request segment response calls store := by
  by_cases bounded : Bounded service request
  swap
  · rw [bounded_iff, Bool.not_eq_false, declaresTooMuch_eq_true_iff] at bounded
    obtain ⟨length, declared, above⟩ := bounded
    exact ⟨_, _, _, .tooLong declared above⟩
  rcases spelled : Http.decodeSegment? segment with _ | post
  · exact ⟨_, _, _, .unreadable bounded spelled⟩
  rcases signed : Service.requester? service.network
    (Service.withId generatedId request).headers with _ | name
  · exact ⟨_, _, _, .unsigned ⟨bounded, spelled⟩ signed⟩
  by_cases longer : Http.readLimit service.network.maxBodyBytes request.headers <
    request.body.length
  · exact ⟨_, _, _, .undelivered ⟨⟨bounded, spelled⟩, signed⟩ longer⟩
  have delivered : Delivered service generatedId request segment post name :=
    ⟨⟨⟨bounded, spelled⟩, signed⟩, Nat.not_lt.1 longer⟩
  by_cases nonempty : post = ""
  · exact ⟨_, _, _, .misaddressed delivered (.inl nonempty)⟩
  by_cases plain : ∀ c ∈ post.toList, c.isAlphanum = true
  swap
  · refine ⟨_, _, _, .misaddressed delivered (.inr ?_)⟩
    simpa using plain
  have addressed : Addressed service generatedId request segment post name :=
    ⟨delivered, nonempty, plain⟩
  rcases decoded : Json.decode Values.decoder request.body with wrong | patch
  · exact ⟨_, _, _, .garbled addressed decoded⟩
  have understood : Understood service generatedId request segment post name patch :=
    ⟨addressed, decoded⟩
  rcases resolved : (resolution service snapshot post name patch).outcome with error | approved
  · exact ⟨_, _, _, .unresolved understood resolved⟩
  rcases committed : snapshot.store.commit snapshot.definitions post approved with error | store
  · exact ⟨_, _, _, .unstored ⟨understood, resolved⟩ committed⟩
  · exact ⟨_, _, _, .stored ⟨understood, resolved⟩ committed⟩

/-- **The first thing that is wrong with a patch decides its answer**, while the service is running
and the deadline does not pass: the rules say what is answered, which calls are made and what is
stored, and nothing else is. -/
theorem first_fault_decides (service : Service) (snapshot : Snapshot) (generatedId : String)
    (request : Request) (segment : String)
    (arrives : Arrives service snapshot generatedId request segment)
    (response : Response) (calls : List Call) (store : Store) :
    Answers service snapshot generatedId request segment response calls store ↔
      (service.respond snapshot generatedId request).response = response ∧
        (service.respond snapshot generatedId request).calls = calls ∧
        (service.respond snapshot generatedId request).store = store := by
  refine ⟨Answers.sound arrives, ?_⟩
  obtain ⟨response', calls', store', answers⟩ :=
    exists_answers service snapshot generatedId request segment
  obtain ⟨rfl, rfl, rfl⟩ := answers.sound arrives
  rintro ⟨rfl, rfl, rfl⟩
  exact answers

/-- Nobody asks for a post that cannot be, with a body that is no patch. -/
def faultyRequest : Request where
  method := "PATCH"
  target := "/api/v4/properties/posts/p-1"
  body := [byte '?']

theorem faultyRequest_spelled : Spelled sampleService faultyRequest "p-1" "p-1" where
  declared := nofun
  spelled := rfl

theorem requester?_faultyRequest :
    Service.requester? sampleService.network (Service.withId "r1" faultyRequest).headers = none := by
  have first : Http.Headers.first? (Service.withId "r1" faultyRequest).headers "user" = none := by
    decide +kernel
  rw [Service.requester?, sampleService, first]
  split <;> rfl

theorem faultyRequest_arrives :
    Arrives sampleService (sampleServer.snapshot 0) "r1" faultyRequest "p-1" := by
  have asks : Service.Patches faultyRequest "p-1" := ⟨rfl, by decide +kernel⟩
  refine ⟨asks, rfl, fun declared => (Service.elapsed_lt_iff asks.ne_preflight declared).2 ?_⟩
  have wrong : Service.patchRequest sampleService.network (Service.withId "r1" faultyRequest) "p-1" =
      .error (.api (.missingRequester "user")) := by
    rw [patchRequest_of_spelled faultyRequest_spelled, Service.requester, requester?_faultyRequest]
    rfl
  rw [Service.followRoute_of_patches (Service.patches_withId_iff.2 asks), Service.admitWork]
  simp only [Service.patchPost, wrong]
  decide

theorem faultyRequest_is_unsigned :
    let outcome := sampleService.respond (sampleServer.snapshot 0) "r1" faultyRequest
    outcome.response = fault sampleService "r1" faultyRequest "missing_requester"
        "missing requester identity header user" 401 none ∧
      outcome.calls = [] ∧ outcome.store = sampleServer.store :=
  (first_fault_decides sampleService (sampleServer.snapshot 0) "r1" faultyRequest "p-1"
    faultyRequest_arrives _ _ _).1 (.unsigned faultyRequest_spelled requester?_faultyRequest)

end Precedence

end PropertyGate
