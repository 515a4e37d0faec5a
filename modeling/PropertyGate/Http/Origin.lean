import PropertyGate.Http.Message

/-!
# Http/Origin — answers for pages of other origins

The service lists the origins whose pages may read its answers; the entry `*` admits all. An answer
names the admitted origin, and says that it depends on the origin that asked. Questions about what
may be asked (`OPTIONS`) are answered here, whatever their path.
-/

namespace PropertyGate.Http

/-- The entry that admits every origin. -/
def anyOrigin : String := "*"

/-- **The origin that an answer admits**: every one, or the one that asks if it is listed. -/
def admittedOrigin? (listed : List String) (request : Headers) : Option String :=
  if listed.contains anyOrigin then some anyOrigin
  else
    (Headers.first? request "origin").filter fun origin =>
      isHeaderValue origin && listed.contains origin

/-- The headers of a request that an answer depends on. -/
def originDependence : String :=
  "origin, access-control-request-method, access-control-request-headers"

/-- Marks an answer for pages of other origins. -/
def Response.forOrigin (response : Response) (listed : List String) (request : Headers) :
    Response :=
  (response.withHeader "vary" originDependence).withHeader? "access-control-allow-origin"
    (admittedOrigin? listed request)

/-- The method of questions about what may be asked. -/
def preflightMethod : String := "OPTIONS"

/-- The answer to a question about what may be asked. -/
def preflight : Response :=
  ((Response.empty 200).withHeader "access-control-allow-methods" "GET,PATCH").withHeader
    "access-control-allow-headers" "*"

end PropertyGate.Http
