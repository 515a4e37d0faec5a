import PropertyGate.Http.Coding
import PropertyGate.Http.Origin
import PropertyGate.Service.Endpoint

/-!
# Service/Exchange — from a request to its answer

Around the operations lie the concerns of every exchange, from the inside out: API requests are
admitted and counted, the id of the request is copied to its answer, a request past its deadline is
given up, answers are marked for pages of other origins and coded, requests that declare too long a
body are refused, and before anything else a request without an id is given one. The answer to a
method that a route lacks names the methods that it has, and the answer to `HEAD` has no body.
-/

namespace PropertyGate

open Http (Request Response Headers)

namespace Service

/-- What a method asks of a route; a method that the route lacks is answered without a body. -/
def dispatchMethod (service : Service) (snapshot : Snapshot) (request : Request) (route : Route) :
    Outcome :=
  match route.operation? request.method with
  | some operation => service.perform snapshot request operation
  | none => .answer snapshot (.empty 405)

/-- **Admits work unless the service is shutting down.** While the work is done it counts as in
flight. -/
def admitWork (snapshot : Snapshot) (work : Snapshot → Outcome) : Outcome :=
  if snapshot.health.state.isShuttingDown then .refuse snapshot .shuttingDown
  else
    let outcome := work { snapshot with health := snapshot.health.enter }
    { outcome with health := outcome.health.leave }

/-- What the route of a request comes to. -/
def followRoute (service : Service) (snapshot : Snapshot) (request : Request) : Outcome :=
  match Route.of? request with
  | none => .answer snapshot (.empty 404)
  | some route =>
    if route.isApi then admitWork snapshot fun admitted => service.dispatchMethod admitted request route
    else service.dispatchMethod snapshot request route

/-- The name of the header that carries the id of a request. -/
def requestIdHeader : String := "x-request-id"

/-- The request with an id: its own, or else the given one, as one header more. -/
def withId (generatedId : String) (request : Request) : Request :=
  match Headers.first? request.headers requestIdHeader with
  | some _ => request
  | none => { request with headers := request.headers ++ [⟨requestIdHeader, generatedId⟩] }

/-- Copies the id of a request to the answer. -/
def identified (request : Request) (outcome : Outcome) : Outcome :=
  outcome.mapResponse fun response =>
    response.withHeader? requestIdHeader (Headers.first? request.headers requestIdHeader)

/-- **Gives up work that is not done before the deadline**: from then on nothing is asked, and nothing
of it is stored. -/
def within (timeout : Nat) (snapshot : Snapshot) (outcome : Outcome) : Outcome :=
  if outcome.elapsed < timeout then outcome
  else
    { outcome with
      response := .empty 408
      store := snapshot.store
      log := outcome.log.filter (·.moment < timeout)
      elapsed := timeout }

/-- What is asked, up to the deadline; questions about what may be asked are answered at once. -/
def guarded (service : Service) (snapshot : Snapshot) (request : Request) : Outcome :=
  if request.method = Http.preflightMethod then .answer snapshot Http.preflight
  else
    within service.network.requestTimeout snapshot
      (identified request (service.followRoute snapshot request))

/-- Names the methods of the route in answers to methods that it lacks, and takes the body from
answers to `HEAD`. -/
def finish (request : Request) (response : Response) : Response :=
  let named := match Route.of? request with
    | some route =>
      if (route.operation? request.method).isNone then response.withHeader "allow" route.allowed
      else response
    | none => response
  if request.method = "HEAD" then { named with body := "" } else named

/-- What a request with an id comes to. -/
def exchange (service : Service) (snapshot : Snapshot) (request : Request) : Outcome :=
  if Http.declaresTooMuch service.network.maxBodyBytes request.headers then
    .answer snapshot (.text 413 lengthLimitText)
  else
    (service.guarded snapshot request).mapResponse fun response =>
      (response.forOrigin service.network.corsOrigins request.headers).coded request.headers

/-- **The answer to a request.** `generatedId` is the id that the request is given if it has none. -/
def respond (service : Service) (snapshot : Snapshot) (generatedId : String) (request : Request) :
    Outcome :=
  (service.exchange snapshot (withId generatedId request)).mapResponse (finish request)

end Service

end PropertyGate
