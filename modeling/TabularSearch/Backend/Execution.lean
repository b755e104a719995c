import TabularSearch.Backend.Basic
import TabularSearch.Query.Validity
import TabularSearch.Response.Flatten
import TabularSearch.Rows.Finish

/-!
# Running queries

A query is checked, compiled, sent once, and the answer becomes finished rows.
A query that is refused sends nothing.
-/

namespace TabularSearch

/-- Why a query has no rows. -/
inductive QueryError where
  | invalid (cause : InvalidQuery)
  | backend (error : BackendError)
  /-- The answer has not the shape of a search response. -/
  | unreadable (reason : String)
  deriving DecidableEq

namespace QueryError

/-- The wording of an error. -/
def message : QueryError → String
  | .invalid cause => "Invalid query: " ++ cause.message
  | .backend error => "Transport error: " ++ error.message
  | .unreadable reason => "Decode error: " ++ reason

/-- An answer that cannot be read is no failure of the backend's transport. -/
def ofBackend : BackendError → QueryError
  | .unreadable reason => .unreadable reason
  | error => .backend error

end QueryError

/-- Finished rows with what the answer tells beside them. -/
structure ResultSet where
  rows : List Row
  totalHits : UInt64
  scrollId : Option String
  /-- Milliseconds that the backend took. -/
  took : UInt64

/-- What came of a query, with the requests that were handed to the backend. -/
structure Execution where
  sent : List SearchRequest
  result : Except QueryError ResultSet

/-- The request of a query whose names are checked first. -/
def SearchRequest.ofChecked (query : Query) :
    Except InvalidQuery SearchRequest :=
  match query.check with
  | .error cause => .error cause
  | .ok () => SearchRequest.ofQuery query

/-- The finished rows of an answer. -/
def ResultSet.ofResponse
    (query : Query)
    (request : SearchRequest)
    (response : SearchResponse) :
    ResultSet :=
  { rows := finishRows query request.finish (flattenResponse query response)
    totalHits := response.total
    scrollId := response.scrollId
    took := response.took }

/-- A query run on a backend. -/
def Backend.execute
    (backend : Backend)
    (query : Query) :
    Execution :=
  match SearchRequest.ofChecked query with
  | .error cause => { sent := [], result := .error (.invalid cause) }
  | .ok request =>
    { sent := [request]
      result :=
        match backend.search request with
        | .error error => .error (.ofBackend error)
        | .ok response => .ok (.ofResponse query request response) }

/-- A query that is refused does not reach the backend. -/
theorem Backend.execute_eq_of_refused
    {query : Query}
    {cause : InvalidQuery}
    (refused : SearchRequest.ofChecked query = .error cause)
    (backend : Backend) :
    backend.execute query =
      { sent := [], result := .error (.invalid cause) } := by
  rw [execute, refused]

end TabularSearch
