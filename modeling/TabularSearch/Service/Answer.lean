import TabularSearch.Rows.Export
import TabularSearch.Service.Call
import TabularSearch.Service.Failure
import TabularSearch.Service.Origin

/-!
# The service

Queries are run or compiled over HTTP, and the health of the service can be
asked.  What an answer owes to the moment, the identity of the request and the
time that passed, is given from outside; all else is a function of the request.

The form of the rows is checked before the query, so a form that is not known
never reaches the backend.
-/

namespace TabularSearch

open TabularSearch.Json

/-- The version of the programs. -/
def version : String := "0.1.0"

/-- What the service answers from. -/
structure Service where
  backend : Backend
  style : PathStyle
  /-- The origins configured. -/
  origins : List String

/-- What belongs to one moment of the running service. -/
structure Occasion where
  requestId : String
  uptimeSeconds : UInt64
  executionMillis : UInt64

/-- An answer, with the requests that were handed to the backend for it. -/
structure Exchange where
  sent : List SearchRequest
  response : HttpResponse

/-- An answer for which nothing was sent. -/
def Exchange.silent (response : HttpResponse) : Exchange :=
  { sent := [], response }

/-- A result as JSON. -/
def ResultSet.toValue
    (executionMillis : UInt64)
    (result : ResultSet) :
    Value :=
  .object
    [("rows", rowsValue result.rows),
      ("meta",
        .object <|
          [("total_hits", .ofWord result.totalHits),
            ("row_count", .ofWord (.ofNat result.rows.length)),
            ("took_ms", .ofWord result.took),
            ("execution_time_ms", .ofWord executionMillis)] ++
          (match result.scrollId with
            | some scroll => [("scroll_id", .string scroll)]
            | none => []))]

/-- The rows of a result in a form, unless they cannot be written. -/
def ResultSet.content
    (occasion : Occasion)
    (format : OutputFormat)
    (result : ResultSet) :
    Except ExportFailure Content :=
  match format with
  | .json => .ok (.json (result.toValue occasion.executionMillis))
  | other =>
    (writeRows other result.rows).map fun text => .text other.contentType text

namespace Service

/-- The answer to a query to run. -/
def runQuery
    (service : Service)
    (occasion : Occasion)
    (call : QueryCall) :
    Exchange :=
  match OutputFormat.ofWord? call.format with
  | none =>
    .silent <| ServiceFailure.response occasion.requestId <| .unacceptable <|
      "Invalid format: " ++ call.format ++ ". Use json, ndjson or csv"
  | some format =>
    let execution := service.backend.execute call.query
    { sent := execution.sent
      response :=
        match execution.result with
        | .error error =>
          ServiceFailure.response occasion.requestId (.query error)
        | .ok result =>
          match result.content occasion format with
          | .error failure =>
            ServiceFailure.response occasion.requestId (.unwritten failure)
          | .ok content => .plain 200 content }

/-- A compiled request as JSON. -/
def requestValue
    (style : PathStyle)
    (request : SearchRequest) :
    Value :=
  .object <|
    [("path", .string (request.path style))] ++
    (match request.scroll? with
      | some keepAlive => [("scroll", .string keepAlive)]
      | none => []) ++
    [("body", request.body)]

/-- The answer to a query to compile. -/
def compile
    (service : Service)
    (occasion : Occasion)
    (query : Query) :
    HttpResponse :=
  match SearchRequest.ofChecked query with
  | .error cause =>
    ServiceFailure.response occasion.requestId (.query (.invalid cause))
  | .ok request => .plain 200 (.json (requestValue service.style request))

/-- Whether the backend answers. -/
def isReady (service : Service) : Bool :=
  match service.backend.ping with
  | .ok () => true
  | .error _ => false

/-- The health of the service in full. -/
def health
    (service : Service)
    (occasion : Occasion) :
    HttpResponse :=
  .plain 200 <| .json <| .object
    [("status", .string (if service.isReady then "healthy" else "degraded")),
      ("backend", .string (if service.isReady then "ok" else "unreachable")),
      ("backend_url", .string service.backend.endpoint),
      ("uptime_seconds", .ofWord occasion.uptimeSeconds),
      ("version", .string version)]

/-- The status that tells whether queries can be run. -/
def readiness (service : Service) : HttpResponse :=
  .bare (if service.isReady then 200 else 503)

end Service

/-- What a path leads to. -/
inductive Route where
  | query
  | compilation
  | health
  | liveness
  | readiness
  deriving DecidableEq

namespace Route

/-- The route at a path. -/
def ofPath? : String → Option Route
  | "/api/v1/query" => some query
  | "/api/v1/query/translate" => some compilation
  | "/health" => some health
  | "/health/live" => some liveness
  | "/health/ready" => some readiness
  | _ => none

/-- Whether the route takes calls; the others are only looked at. -/
def takesCalls : Route → Bool
  | query | compilation => true
  | health | liveness | readiness => false

/-- Whether a method may be used on the route. -/
def allows
    (route : Route)
    (method : String) :
    Bool :=
  if route.takesCalls then method = "POST"
  else method = "GET" || method = "HEAD"

end Route

namespace Service

/-- The answer of a route to a method that it allows. -/
def answerRoute
    (service : Service)
    (occasion : Occasion)
    (request : HttpRequest) :
    Route → Exchange
  | .query =>
    match request.call QueryCall.read with
    | .error rejection => .silent rejection.response
    | .ok call => service.runQuery occasion call
  | .compilation =>
    match request.call readCompileCall with
    | .error rejection => .silent rejection.response
    | .ok query => .silent (service.compile occasion query)
  | .health => .silent (service.health occasion)
  | .liveness => .silent (.bare 200)
  | .readiness => .silent service.readiness

/-- The answer to a request, before anything is said of origins. -/
def dispatch
    (service : Service)
    (occasion : Occasion)
    (request : HttpRequest) :
    Exchange :=
  match Route.ofPath? request.path with
  | none => .silent (.bare 404)
  | some route =>
    if route.allows request.method then
      service.answerRoute occasion request route
    else .silent (.bare 405)

/-- The answer to a request.  Browsers that ask for permission first are
answered on every path alike. -/
def answer
    (service : Service)
    (occasion : Occasion)
    (request : HttpRequest) :
    Exchange :=
  let exchange :=
    if request.method = "OPTIONS" then .silent (.bare 200)
    else service.dispatch occasion request
  { exchange with
    response :=
      { exchange.response with
        headOnly := request.method = "HEAD"
        allowedOrigin :=
          allowedOrigin? service.origins (request.header? "Origin") } }

end Service

end TabularSearch
