import TabularSearch.Backend.Execution

/-!
# Recorders

A recorder is a backend with one answer to everything that keeps the body of
each request it is given.  Queries are run on it one after the other, and every
turn leaves the recorder as it is then, what was noted for the log, and what
came of the query.  The caller's wishes reach the notes and nothing else.
-/

namespace TabularSearch

open TabularSearch.Json

/-- A backend with the same answer to every request, and the
bodies it has received. -/
structure Recorder where
  answer : Value
  received : List Value

/-- What is noted while a query is run. -/
inductive Note where
  /-- A request is about to be sent. -/
  | compiled
      (body : Value)
      (scroll : Option String)
      (ignoreFilters selectionOnly : Bool)
      (ignoredFilters : Nat)
  /-- The answer may be partial. -/
  | timedOut
  | complete (rows : Nat) (totalHits took : UInt64)

/-- What running one query leaves behind. -/
structure Turn where
  recorder : Recorder
  notes : List Note
  result : Except QueryError ResultSet

/-- The note of a request with the wishes that came along. -/
def Note.ofRequest
    (request : SearchRequest)
    (options : QueryOptions) :
    Note :=
  .compiled request.body request.scroll? options.ignoreFilters
    options.selectionOnly options.ignoredFilterIds.length

/-- The notes of an answer and the rows made of it. -/
def Note.ofAnswer
    (response : SearchResponse)
    (found : ResultSet) :
    List Note :=
  (if response.timedOut then [.timedOut] else []) ++
    [.complete found.rows.length found.totalHits found.took]

namespace Recorder

/-- A recorder that has received nothing yet. -/
def new (answer : Value) : Recorder :=
  { answer, received := [] }

/-- The request is kept whether or not the answer can be read. -/
def search
    (recorder : Recorder)
    (request : SearchRequest) :
    Recorder × Except BackendError SearchResponse :=
  ({ recorder with received := recorder.received ++ [request.body] },
    Backend.readAnswer recorder.answer)

/-- One query run on a recorder. -/
def execute
    (recorder : Recorder)
    (query : Query)
    (options : QueryOptions) :
    Turn :=
  match SearchRequest.ofChecked query with
  | .error cause => { recorder, notes := [], result := .error (.invalid cause) }
  | .ok request =>
    match recorder.search request with
    | (recorder, .error error) =>
      { recorder, notes := [.ofRequest request options],
        result := .error (.ofBackend error) }
    | (recorder, .ok response) =>
      let found := ResultSet.ofResponse query request response
      { recorder
        notes := .ofRequest request options :: Note.ofAnswer response found
        result := .ok found }

/-- The turns of queries run one after the other. -/
def run (recorder : Recorder) : List (Query × QueryOptions) → List Turn
  | [] => []
  | (query, options) :: rest =>
    let turn := recorder.execute query options
    turn :: turn.recorder.run rest

end Recorder

end TabularSearch
