import TabularSearch.Json.Reader
import TabularSearch.Query.Written
import TabularSearch.Service.MediaType
import TabularSearch.Service.Message

/-!
# What callers send

A call is JSON at the start of the body, with a media type that says so.  What
follows the JSON is not looked at.
-/

namespace TabularSearch

open TabularSearch.Json

/-- A query to run, and the form in which its rows are wanted. -/
structure QueryCall where
  query : Query
  options : QueryOptions
  format : String

/-- The parts of a call read so far. -/
structure QueryCallParts where
  query : Option Query
  options : Option QueryOptions
  format : Option String

/-- One member of a call. -/
def QueryCallParts.step
    (parts : QueryCallParts)
    (name : String)
    (document : Document) :
    Except Fault QueryCallParts :=
  match name with
  | "query" =>
    (fill parts.query Query.read document).map fun query => { parts with query }
  | "options" =>
    (fill parts.options QueryOptions.read document).map fun options =>
      { parts with options }
  | "format" =>
    (fill parts.format readString document).map fun format =>
      { parts with format }
  | _ => (skip document).map fun _ => parts

/-- The call that a document writes; rows are wanted as JSON
if it does not say. -/
def QueryCall.read (document : Document) : Except Fault QueryCall := do
  let parts ←
    readRecord .direct ["query", "options", "format"] QueryCallParts.step
      { query := none, options := none, format := none } document
  return {
    query := ← required parts.query
    options := parts.options.getD .default
    format := parts.format.getD "json" }

/-- A query to compile, read into its place. -/
def stepCompileCall
    (query : Option Query)
    (name : String)
    (document : Document) :
    Except Fault (Option Query) :=
  match name with
  | "query" => fill query Query.read document
  | _ => (skip document).map fun _ => query

/-- The query that a document asks to compile. -/
def readCompileCall (document : Document) : Except Fault Query := do
  required (← readRecord .direct ["query"] stepCompileCall none document)

/-- Why a body is not read as a call. -/
inductive Rejection where
  /-- The media type is not JSON. -/
  | mediaType
  | fault (fault : Fault)
  deriving DecidableEq

namespace Rejection

/-- The status that a call is turned away with. -/
def status : Rejection → Nat
  | mediaType => 415
  | fault .text => 400
  | fault .shape => 422

/-- The wording of a rejection. -/
def message : Rejection → String
  | mediaType => "The content type has to be application/json"
  | fault .text => "The body is not JSON"
  | fault .shape => "The body has not the shape of a call"

/-- The answer to a call that is turned away. -/
def response (rejection : Rejection) : HttpResponse :=
  .plain rejection.status (.text "text/plain; charset=utf-8" rejection.message)

end Rejection

/-- The call in the body of a request. -/
def HttpRequest.call
    {Call : Type}
    (read : Document → Except Fault Call)
    (request : HttpRequest) :
    Except Rejection Call :=
  if (request.header? "Content-Type").any isJsonMediaType then
    match read (readDocument request.body.toList).1 with
    | .ok call => .ok call
    | .error fault => .error (.fault fault)
  else .error .mediaType

end TabularSearch
