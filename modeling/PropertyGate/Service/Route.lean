import PropertyGate.Http.Path

/-!
# Service/Route — which paths and methods the service knows

Three probes tell how the service is; two routes are the API. A route has a method or two, and with
`GET` always `HEAD`. Paths are compared as they are written: nothing is decoded, and a segment that
stands for an id stays undecoded.
-/

namespace PropertyGate

/-- A path that the service knows, with the segment that stands for an id. -/
inductive Route where
  | health
  | liveness
  | readiness
  | post (segment : String)
  | teamStatus (segment : String)
deriving DecidableEq, Repr

/-- What is asked of the service. -/
inductive Operation where
  | showHealth
  | showLiveness
  | showReadiness
  | readPost (segment : String)
  | patchPost (segment : String)
  | showTeamStatus (segment : String)
deriving DecidableEq, Repr

namespace Route

/-- **The route of a path.** The id of a post is not empty; the id of a team may be. -/
def ofPath? (path : String) : Option Route :=
  match Http.segments path with
  | ["", "health"] => some .health
  | ["", "health", "live"] => some .liveness
  | ["", "health", "ready"] => some .readiness
  | ["", "api", "v4", "properties", "posts", id] => if id.isEmpty then none else some (.post id)
  | ["", "api", "v4", "content_flagging", "teams", id, "status"] => some (.teamStatus id)
  | _ => none

/-- The route of a request. -/
def of? (request : Http.Request) : Option Route := ofPath? (Http.targetPath request.target)

/-- Whether the route is part of the API, and not a probe. -/
def isApi : Route → Bool
  | .health => false
  | .liveness => false
  | .readiness => false
  | .post _ => true
  | .teamStatus _ => true

/-- What `GET` asks for. -/
def shown : Route → Operation
  | .health => .showHealth
  | .liveness => .showLiveness
  | .readiness => .showReadiness
  | .post segment => .readPost segment
  | .teamStatus segment => .showTeamStatus segment

/-- What `PATCH` asks for, where it asks for anything. -/
def changed? : Route → Option Operation
  | .post segment => some (.patchPost segment)
  | _ => none

/-- What a method asks for. -/
def operation? (route : Route) (method : String) : Option Operation :=
  if method = "GET" || method = "HEAD" then some route.shown
  else if method = "PATCH" then route.changed?
  else none

/-- The methods that the route has, as answers to other methods name them. -/
def allowed (route : Route) : String :=
  if route.changed?.isSome then "GET,HEAD,PATCH" else "GET,HEAD"

end Route

end PropertyGate
