import TabularSearch.Aggregation.Basic
import TabularSearch.Query.Invalid

/-!
# Planning aggregations

The levels of grouping are nested in their order, and the statistics that the
aggregates need stand inside the innermost level.  Counts need no statistics
where the count of documents answers them.  Whether the backend can order and
cut the buckets is decided from the number of levels, what the rows are sorted
by, and whether rows are left out in front.
-/

namespace TabularSearch

/-- What the rows of a grouped query are sorted by. -/
inductive SortTarget where
  | unsorted
  /-- By nothing but the key of the only level. -/
  | ownKey (direction : Direction)
  | other
  deriving DecidableEq

/-- The level's key may be named by its label or by its field. -/
def SortTarget.ofQuery (query : Query) : SortTarget :=
  match query.sort, query.groups with
  | [], _ => .unsorted
  | [key], [group] =>
    if key.key = group.label ∨ key.key = group.field then .ownKey key.direction
    else .other
  | _, _ => .other

/-- How the buckets are ordered and cut, and whether the rows
still have to be sorted. -/
structure Delivery where
  order : BucketOrder
  /-- The most buckets of a level. -/
  cap : UInt64
  /-- Whether the rows are sorted here. -/
  sortsRows : Bool
  deriving DecidableEq

/-- A limit below the ceiling. -/
def cappedLimit (limit : Option UInt64) : UInt64 :=
  match limit with
  | some limit => min limit answerCeiling
  | none => answerCeiling

/--
Only a single level without rows left out in front is cut by the
backend, and only where nothing or the level's own key is sorted by;
otherwise all buckets are fetched.
-/
def Delivery.decide
    (levels : Nat)
    (target : SortTarget)
    (hasOffset : Bool)
    (limit : Option UInt64) :
    Delivery :=
  match levels, target, hasOffset with
  | 0, _, _ =>
    { order := .fullestFirst, cap := answerCeiling, sortsRows := false }
  | 1, .unsorted, false =>
    { order := .fullestFirst, cap := cappedLimit limit, sortsRows := false }
  | 1, .ownKey direction, false =>
    { order := .byKey direction, cap := cappedLimit limit, sortsRows := false }
  | _, target, _ =>
    { order := .fullestFirst, cap := answerCeiling,
      sortsRows := target ≠ .unsorted }

/-- The delivery for a query. -/
def Delivery.ofQuery (query : Query) : Delivery :=
  decide query.groups.length (SortTarget.ofQuery query) query.rowOffset.isSome
    query.rowLimit

/-- What the aggregates of a query need, gathered one by one. -/
structure Needs where
  /-- Fields that documents need to have at all. -/
  presentFields : List String
  /-- Fields of which statistics are needed. -/
  statisticsFields : List String
  /-- Whether the exact number of matching documents is needed. -/
  totalHits : Bool
  deriving DecidableEq

/-- Nothing is needed yet. -/
def Needs.none : Needs :=
  { presentFields := [], statisticsFields := [], totalHits := false }

/-- A name added at the end unless it is there. -/
def addName
    (names : List String)
    (name : String) :
    List String :=
  if name ∈ names then names else names ++ [name]

/-- What one more aggregate needs. -/
def Needs.add
    (query : Query)
    (needs : Needs)
    (aggregate : Aggregate) :
    Except InvalidQuery Needs :=
  match aggregate.measure, aggregate.target with
  | .count, .allDocuments =>
    .ok { needs with totalHits := needs.totalHits || query.groups.isEmpty }
  | .count, .field field =>
    if query.groups.isEmpty then
      .ok { needs with
        presentFields := addName needs.presentFields field, totalHits := true }
    else if (query.groupLabelFor? field).isNone then
      .ok { needs with
        statisticsFields := addName needs.statisticsFields field }
    else .ok needs
  | measure, .allDocuments =>
    .error (.measureWithoutField measure aggregate.label)
  | _, .field field =>
    .ok { needs with statisticsFields := addName needs.statisticsFields field }

/-- What the aggregates need; the first one that cannot be computed counts. -/
def Needs.gather
    (query : Query)
    (needs : Needs) :
    List Aggregate → Except InvalidQuery Needs
  | [] => .ok needs
  | aggregate :: rest =>
    match needs.add query aggregate with
    | .error cause => .error cause
    | .ok more => more.gather query rest

/-- The kind of a level of grouping. -/
def Grouping.kind
    (delivery : Delivery) :
    Grouping → AggregationKind
  | .byField field _ => .terms field delivery.cap delivery.order
  | .byTime field _ granularity => .dates field granularity delivery.order

/-- The levels nested in their order around the innermost aggregations. -/
def nestLevels
    (delivery : Delivery)
    (innermost : List Aggregation) :
    List Grouping → List Aggregation
  | [] => innermost
  | group :: rest =>
    [.node group.label (group.kind delivery)
      (nestLevels delivery innermost rest)]

/-- The aggregations of a query and what else its aggregates need. -/
structure Plan where
  /-- Filters that only let documents with a counted field through. -/
  presentFields : List String
  aggregations : List Aggregation
  delivery : Delivery
  /-- Whether the exact number of matching documents is needed. -/
  totalHits : Bool

/-- The plan of a query: the fields that have to be present, the aggregations
level by level, what the backend sorts and cuts, and whether the total counts.
-/
def Plan.ofQuery (query : Query) : Except InvalidQuery Plan :=
  match Needs.none.gather query query.aggregates with
  | .error cause => .error cause
  | .ok needs =>
    let delivery := Delivery.ofQuery query
    .ok
      { presentFields := needs.presentFields
        aggregations :=
          nestLevels delivery
            (needs.statisticsFields.map Aggregation.statistics) query.groups
        delivery
        totalHits := needs.totalHits }

/-- The filters for the counted fields. -/
def Plan.filters (plan : Plan) : List Filter :=
  plan.presentFields.map Filter.present

end TabularSearch
