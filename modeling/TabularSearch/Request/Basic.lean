import TabularSearch.Aggregation.Plan
import TabularSearch.Filter.Compile
import TabularSearch.Request.Window

/-!
# Search requests

What is sent to the backend for a query: where it goes, and a body with the
window, the filter and the aggregations.  `SearchRequest.ofQuery` compiles a
query without checking its names; `SearchRequest.body` writes the body.
-/

namespace TabularSearch

open TabularSearch.Json

/-- How a search path names its target. -/
inductive PathStyle where
  /-- Database, table. -/
  | typed
  /-- Table only. -/
  | index
  deriving DecidableEq

/-- The word for a style of paths. -/
def PathStyle.word : PathStyle → String
  | .typed => "typed"
  | .index => "index"

/-- The style of a word in any case. -/
def PathStyle.ofWord? (word : String) : Option PathStyle :=
  if Text.equalIgnoringCase word "typed" then some .typed
  else if Text.equalIgnoringCase word "index" then some .index
  else none

/-- What is still to be done to the rows of an answer. -/
structure FinishPlan where
  sortsRows : Bool
  pagesRows : Bool
  deriving DecidableEq

/-- A request to the backend. -/
structure SearchRequest where
  database : String
  table : String
  window : Window
  /-- The fields of documents that are sent back; none means all. -/
  source : Option (List String)
  /-- The order of documents. -/
  sort : List SortKey
  /-- Whether all matching documents are counted exactly. -/
  totalHits : Bool
  filter : Filter
  aggregations : List Aggregation
  finish : FinishPlan

/-- The name of the aggregation over the distinct values of a field. -/
def distinctName : String := "distinct"

namespace SearchRequest

/-- The request for the distinct values of a field. -/
def ofDistinct
    (query : Query)
    (field : String) :
    Except InvalidQuery SearchRequest :=
  (Filter.ofQuery query.condition []).map fun filter =>
    { database := query.database
      table := query.table
      window := .ofRange query.limit query.offset
      source := some [field]
      sort := []
      totalHits := false
      filter
      aggregations :=
        [.node distinctName (.terms field answerCeiling .fullestFirst) []]
      finish := { sortsRows := !query.sort.isEmpty, pagesRows := true } }

/-- The request for documents or aggregates. -/
def ofPlan
    (query : Query)
    (plan : Plan) :
    Except InvalidQuery SearchRequest :=
  (Filter.ofQuery query.condition plan.filters).map fun filter =>
    { database := query.database
      table := query.table
      window := .ofRange query.limit query.offset
      source := if query.fields.isEmpty then none else some query.fields
      sort := if query.isPlain then query.sort else []
      totalHits := plan.totalHits
      filter
      aggregations := plan.aggregations
      finish :=
        if query.isPlain then { sortsRows := false, pagesRows := false }
        else { sortsRows := plan.delivery.sortsRows, pagesRows := true } }

/-- The request of a query whose names are taken as they are. -/
def ofQuery (query : Query) : Except InvalidQuery SearchRequest :=
  if query.distinct then
    match query.fields with
    | [] => .error .distinctWithoutField
    | field :: _ => ofDistinct query field
  else
    match Plan.ofQuery query with
    | .error cause => .error cause
    | .ok plan => ofPlan query plan

/-- The segments of the search path. -/
def segments (request : SearchRequest) : PathStyle → List String
  | .typed => [request.database, request.table, "_search"]
  | .index => [request.table, "_search"]

/-- The search path as text. -/
def path
    (request : SearchRequest)
    (style : PathStyle) :
    String :=
  "/".intercalate (request.segments style)

/-- A key of the order as it is sent. -/
def sortValue (key : SortKey) : Value :=
  Filter.single key.key (Filter.single "order" (.string key.direction.word))

/-- A member that is there only if a condition holds. -/
def memberIf
    (condition : Bool)
    (name : String)
    (value : Value) :
    Members :=
  if condition then [(name, value)] else []

/-- The body of the request. -/
def body (request : SearchRequest) : Value :=
  .object <|
    [("explain", .bool false), ("from", .ofWord request.window.start),
      ("size", .ofWord request.window.size)] ++
    (match request.source with
      | some fields => [("_source", .array (fields.map .string))]
      | none => []) ++
    memberIf (!request.sort.isEmpty) "sort"
        (.array (request.sort.map sortValue)) ++
    memberIf request.totalHits "track_total_hits" (.bool true) ++
    [("query", request.filter.toValue)] ++
    memberIf (!request.aggregations.isEmpty) "aggs"
      (aggregationsValue request.aggregations)

/-- How long the request's cursor is kept open, if it opens one. -/
def scroll? (request : SearchRequest) : Option String :=
  request.window.scroll?

end SearchRequest

end TabularSearch
