import TabularSearch.Proofs.Request.Planned
import TabularSearch.Proofs.Response.Hits

/-!
# Queries for documents

An accepted query without aggregates, groups and distinct values asks for
documents.  Its order and its window are sent, and nothing is done to the rows
that come back: they are the documents of the answer, each as it is, whatever
the query's fields, condition, order, limit and offset.  What can still go wrong
is the condition, for the checks look at its names and not at what its values
can be compared by; then nothing is sent.
-/

namespace TabularSearch

open TabularSearch.Json

/-- A query that is accepted and asks for documents. -/
structure Query.ForDocuments (query : Query) : Prop where
  passed : query.check = .ok ()
  aggregates : query.aggregates = []
  groups : query.groups = []
  distinct : query.distinct = false

/-- The request for the documents that a filter lets through. -/
def SearchRequest.forDocuments
    (query : Query)
    (filter : Filter) :
    SearchRequest :=
  { database := query.database
    table := query.table
    window := .ofRange query.limit query.offset
    source := if query.fields.isEmpty then none else some query.fields
    sort := query.sort
    totalHits := false
    filter
    aggregations := []
    finish := { sortsRows := false, pagesRows := false } }

namespace Query.ForDocuments

variable {query : Query} (asked : query.ForDocuments)

include asked

theorem accepted : query.Accepted :=
  Query.check_eq_ok_iff.1 asked.passed

theorem isPlain : query.isPlain = true := by
  simp [Query.isPlain, Query.isAggregate, asked.aggregates, asked.groups,
    asked.distinct]

/-- Order and window are sent as they are asked for, and leave
nothing to be done. -/
theorem ofChecked_eq :
    SearchRequest.ofChecked query =
      (Filter.ofQuery query.condition []).map
        (SearchRequest.forDocuments query) := by
  have plan : query.plan =
      { presentFields := [], aggregations := [], delivery := .ofQuery query
        totalHits := false } := by
    simp [Query.plan, Query.countedFields, Query.measuredFields,
      Query.countsTotal, nestLevels, asked.aggregates, asked.groups]
  have filters : query.plan.filters = [] := by
    rw [plan]
    rfl
  have planned : SearchRequest.ofPlan query query.plan =
      (Filter.ofQuery query.condition []).map
        (SearchRequest.forDocuments query) := by
    rw [SearchRequest.ofPlan, filters]
    congr 1
    funext filter
    simp [SearchRequest.forDocuments, asked.isPlain, plan]
  rw [SearchRequest.ofChecked, asked.passed]
  exact (SearchRequest.ofQuery_eq_ofPlan asked.accepted asked.distinct).trans
    planned

/-- The rows are those of the documents, in their order. -/
theorem rows_ofResponse
    (filter : Filter)
    (response : SearchResponse) :
    (ResultSet.ofResponse query (.forDocuments query filter) response).rows =
      response.hits.map Hit.toRow := by
  rw [ResultSet.ofResponse, SearchRequest.forDocuments, finishRows,
    flattenResponse, if_pos asked.isPlain]
  rfl

theorem execute_eq
    {backend : Backend}
    {filter : Filter}
    {response : SearchResponse}
    (compiled : Filter.ofQuery query.condition [] = .ok filter)
    (answer : backend.search (.forDocuments query filter) = .ok response) :
    backend.execute query =
      { sent := [.forDocuments query filter]
        result :=
          .ok (.ofResponse query (.forDocuments query filter) response) } := by
  rw [Backend.execute, asked.ofChecked_eq, compiled]
  simp only [Except.map, answer]

theorem execute_eq_of_error
    {cause : InvalidQuery}
    (refused : Filter.ofQuery query.condition [] = .error cause)
    (backend : Backend) :
    backend.execute query =
      { sent := [], result := .error (.invalid cause) } := by
  refine Backend.execute_eq_of_refused ?_ backend
  rw [asked.ofChecked_eq, refused]
  rfl

/-- There are rows only if the condition compiles. -/
theorem rows_of_result
    {backend : Backend}
    {response : SearchResponse}
    (answers : ∀ request, backend.search request = .ok response)
    {found : ResultSet}
    (result : (backend.execute query).result = .ok found) :
    found.rows = response.hits.map Hit.toRow := by
  cases compiled : Filter.ofQuery query.condition [] with
  | error cause =>
      rw [asked.execute_eq_of_error compiled] at result
      cases result
  | ok filter =>
      rw [asked.execute_eq compiled (answers _)] at result
      cases result
      exact asked.rows_ofResponse filter response

end Query.ForDocuments

/--
An accepted query for documents, on a backend that answers with what was read
from a document.  If its condition compiles, one request is sent, with the order
and the window that were asked for, and there is one row for each document of
the answer, in their order, which shows the document as it is.  Otherwise
nothing is sent.  All such queries that have rows have the same.
-/
theorem documents_untouched
    {document : Document}
    {response : SearchResponse}
    (read : SearchResponse.read document = .ok response)
    {backend : Backend}
    (answers : ∀ request, backend.search request = .ok response)
    {query : Query}
    (asked : query.ForDocuments) :
    (∀ filter,
      Filter.ofQuery query.condition [] = .ok filter →
        ∃ request found,
          backend.execute query = { sent := [request], result := .ok found } ∧
            request.sort = query.sort ∧
              request.window = .ofRange query.limit query.offset ∧
              List.Forall₂ Hit.ShownBy response.hits found.rows) ∧
      (∀ cause,
        Filter.ofQuery query.condition [] = .error cause →
          backend.execute query =
            { sent := [], result := .error (.invalid cause) }) ∧
        ∀ other : Query,
          other.ForDocuments →
            ∀ found others,
              (backend.execute query).result = .ok found →
                (backend.execute other).result = .ok others →
                  others.rows = found.rows := by
  refine ⟨?_, ?_, ?_⟩
  · intro filter compiled
    refine ⟨.forDocuments query filter, _,
      asked.execute_eq compiled (answers _), rfl, rfl, ?_⟩
    rw [asked.rows_ofResponse]
    exact SearchResponse.shownBy_of_read read
  · intro cause refused
    exact asked.execute_eq_of_error refused backend
  · intro other otherAsked found others result otherResult
    rw [asked.rows_of_result answers result,
      otherAsked.rows_of_result answers otherResult]

/-- An answer with one document, which has a member under the
name of the identifier. -/
def ownIdentifier : Value :=
  .object
    [("hits",
      .object
        [("hits",
          .array
            [.object
              [("_id", .string "1"),
                ("_source",
                  .object [("_id", .string "x"), ("host", .string "a")])]])])]

/-- The second page of one document each, by host. -/
def secondHost : Query :=
  { Query.ofTable "db" "t" with
    sort := [{ key := "host", direction := .descending }], limit := some 1,
    offset := some 1 }

/-- The document is shown although it is only the first one of the answer; its
own identifier takes the place of the member. -/
theorem documents_untouched_secondHost :
    ∃ request found,
      secondHost.ForDocuments ∧
        (Backend.canned ownIdentifier).execute secondHost =
          { sent := [request], result := .ok found } ∧
          request.sort = secondHost.sort ∧
            found.rows.map Row.entries =
              [[("_id", .string "1"), ("host", .string "a")]] := by
  have asked : secondHost.ForDocuments := ⟨rfl, rfl, rfl, rfl⟩
  have read : SearchResponse.read (.ofValue ownIdentifier) = .ok _ := rfl
  have answers (request : SearchRequest) :
      (Backend.canned ownIdentifier).search request = .ok _ :=
    rfl
  rcases documents_untouched read answers asked with ⟨rows, -, -⟩
  rcases rows .everything rfl with ⟨request, found, executed, sort, -, -⟩
  refine ⟨request, found, asked, executed, sort, ?_⟩
  have result :
      (Backend.canned ownIdentifier |>.execute secondHost).result =
        .ok found := by
    rw [executed]
  rw [asked.rows_of_result answers result]
  rfl

/-- Documents whose latency is above a truth value. -/
def latencyAboveTruth : Query :=
  { Query.ofTable "db" "t" with
    condition := some (.compare "latency" .greater (.bool true)) }

/-- The query is accepted and the answer can be read, but there is no row for
its document: truth values have no order, and nothing is sent. -/
theorem latencyAboveTruth_has_no_rows :
    latencyAboveTruth.ForDocuments ∧
      (∃ response,
        SearchResponse.read (.ofValue ownIdentifier) = .ok response ∧
          response.hits.length = 1) ∧
        ((Backend.canned ownIdentifier).execute latencyAboveTruth).sent = [] ∧
          ∀ found,
            ((Backend.canned ownIdentifier).execute latencyAboveTruth).result ≠
              .ok found := by
  refine ⟨⟨rfl, rfl, rfl, rfl⟩, ⟨_, rfl, rfl⟩, rfl, ?_⟩
  intro found result
  cases result

end TabularSearch
