import PropertyGate.Flagging.Settings
import PropertyGate.Http.Body
import PropertyGate.Lifecycle.Health
import PropertyGate.Patch.Pipeline
import PropertyGate.Service.Config
import PropertyGate.Service.Refusal
import PropertyGate.Service.Route
import PropertyGate.Store.Basic

/-!
# Service/Endpoint — what the service does for each operation

An operation finds the service in some state (`Snapshot`) and comes to an `Outcome`: an answer, the
store afterwards, and what was asked of others on the way. A request about a post names the post and
a requester; whatever is wrong with a request is found before anything is asked or stored, in a
fixed order.
-/

namespace PropertyGate

open Http (Request Response Headers)

/-- **What of a service stays the same while it runs.** The registries are those of the declared
groups and fields, unless others answer in their place. -/
structure Service where
  registries : Definitions → Registries := Definitions.registries
  handlers : HandlerRegistry := .standard
  pipeline : PipelineConfig := {}
  flagging : FlaggingSettings := {}
  network : NetworkConfig := {}

instance : Inhabited Service := ⟨{}⟩

/-- What a request finds: what is declared and stored, how the service is, and for how many seconds
it has been up. -/
structure Snapshot where
  definitions : Definitions
  store : Store
  health : Health
  uptime : Nat

instance : Inhabited Snapshot := ⟨⟨.empty, .empty, {}, 0⟩⟩

/-- **What comes of a request**: the answer, the store and the health of the service afterwards, the
calls made and when, and the time taken in milliseconds. -/
structure Outcome where
  response : Response
  store : Store
  health : Health
  log : List TimedCall
  elapsed : Nat

namespace Outcome

/-- The calls made, in order. -/
def calls (outcome : Outcome) : List Call := outcome.log.map (·.call)

/-- An answer that changes nothing, asks nobody and takes no time. -/
def answer (snapshot : Snapshot) (response : Response) : Outcome :=
  ⟨response, snapshot.store, snapshot.health, [], 0⟩

/-- The answer to a refused request. -/
def refuse (snapshot : Snapshot) (refusal : Refusal) : Outcome := answer snapshot refusal.response

/-- The outcome with another answer. -/
def mapResponse (outcome : Outcome) (f : Response → Response) : Outcome :=
  { outcome with response := f outcome.response }

end Outcome

namespace Service

/-! ## Probes -/

/-- The document that tells how the service is. -/
def healthDocument (service : Service) (snapshot : Snapshot) : Json.Value :=
  .object [("in_flight", .number (.integer snapshot.health.inFlight)),
    ("permission_groups", .array (service.handlers.names.map Json.Value.text)),
    ("state", .text snapshot.health.state.name),
    ("uptime_secs", .number (.integer snapshot.uptime))]

/-- Whether the service is ready, as the status of an answer. -/
def readinessStatus (state : HealthState) : UInt16 := if state = .ready then 200 else 503

/-! ## What a request must say -/

/-- The text that a segment stands for. -/
def parameter (name segment : String) : Except Refusal String :=
  match Http.decodeSegment? segment with
  | some value => .ok value
  | none => .error (.unreadableSegment name)

/-- The requester that the headers name, if they name one: the first value of the configured header,
without the blanks around it. -/
def requester? (config : NetworkConfig) (headers : Headers) : Option String :=
  if Http.isHeaderName config.requesterHeader then
    (Headers.first? headers config.requesterHeader).bind fun value =>
      let name := Text.trimBlanks value.toList
      if Http.isPlain value && !name.isEmpty then some (String.ofList name) else none
  else none

/-- The requester, who must be named. -/
def requester (config : NetworkConfig) (headers : Headers) : Except Refusal String :=
  match requester? config headers with
  | some requester => .ok requester
  | none => .error (.api (.missingRequester config.requesterHeader))

/-- Ids of posts are ASCII letters and digits, and at least one. -/
def isPostId (id : String) : Bool := !id.isEmpty && id.all Char.isAlphanum

def checkPostId (id : String) : Except Refusal Unit :=
  if isPostId id then .ok () else .error (.api (.invalidTarget id))

/-- The body, which must not be too long. -/
def readBody (config : NetworkConfig) (request : Request) : Except Refusal Bytes :=
  match request.read? config.maxBodyBytes with
  | some body => .ok body
  | none => .error .bodyTooLong

/-- The patch that a body holds. -/
def decodePatch (body : Bytes) : Except Refusal Values :=
  (Json.decode Values.decoder body).mapError fun fault => .api (.invalidBody fault.message)

/-- What a request to read a post says. -/
def readRequest (config : NetworkConfig) (request : Request) (segment : String) :
    Except Refusal Context := do
  let post ← parameter "post_id" segment
  let requester ← requester config request.headers
  checkPostId post
  return ⟨post, requester⟩

/-- **What a request to change a post says.** -/
def patchRequest (config : NetworkConfig) (request : Request) (segment : String) :
    Except Refusal (Context × Values) := do
  let post ← parameter "post_id" segment
  let requester ← requester config request.headers
  let body ← readBody config request
  checkPostId post
  let patch ← decodePatch body
  return (⟨post, requester⟩, patch)

/-! ## Operations -/

/-- The pipeline over what is declared. -/
def pipelineOver (service : Service) (definitions : Definitions) : Pipeline :=
  ⟨service.registries definitions, service.handlers, service.pipeline⟩

/-- Resolves a patch and stores what is approved. The answer shows what was stored. -/
def applyPatch (service : Service) (snapshot : Snapshot) (context : Context) (patch : Values) :
    Outcome :=
  let run := (service.pipelineOver snapshot.definitions).resolve context patch
  match run.outcome with
  | .error error =>
    { Outcome.refuse snapshot (.api (.patch error)) with log := run.log, elapsed := run.elapsed }
  | .ok approved =>
    let log := run.log ++ [⟨run.elapsed, .commit context.target approved⟩]
    match snapshot.store.commit snapshot.definitions context.target approved with
    | .error error =>
      { Outcome.refuse snapshot (.api (.storeFailed error.failure)) with
        log, elapsed := run.elapsed }
    | .ok store =>
      { Outcome.answer snapshot (.json 200 (Values.toJson approved.flatten)) with
        store, log, elapsed := run.elapsed }

/-- Changes a post. -/
def patchPost (service : Service) (snapshot : Snapshot) (request : Request) (segment : String) :
    Outcome :=
  match patchRequest service.network request segment with
  | .error refusal => .refuse snapshot refusal
  | .ok (context, patch) => service.applyPatch snapshot context patch

/-- Shows the values of a post. -/
def readPost (service : Service) (snapshot : Snapshot) (request : Request) (segment : String) :
    Outcome :=
  match readRequest service.network request segment with
  | .error refusal => .refuse snapshot refusal
  | .ok context =>
    { Outcome.answer snapshot
        (.json 200 (Values.toJson (snapshot.store.values context.target))) with
      log := atOnce [.readValues context.target] }

/-- Shows whether a team can flag posts. -/
def showTeamStatus (service : Service) (snapshot : Snapshot) (segment : String) : Outcome :=
  match parameter "team_id" segment with
  | .error refusal => .refuse snapshot refusal
  | .ok teamId =>
    .answer snapshot
      (.json 200 (TeamFlaggingStatus.mk teamId (service.flagging.isEnabledFor teamId)).toJson)

/-- **What an operation comes to.** -/
def perform (service : Service) (snapshot : Snapshot) (request : Request) :
    Operation → Outcome
  | .showHealth => .answer snapshot (.json 200 (service.healthDocument snapshot))
  | .showLiveness => .answer snapshot (.empty 200)
  | .showReadiness => .answer snapshot (.empty (readinessStatus snapshot.health.state))
  | .readPost segment => service.readPost snapshot request segment
  | .patchPost segment => service.patchPost snapshot request segment
  | .showTeamStatus segment => service.showTeamStatus snapshot segment

end Service

end PropertyGate
