import TabularSearch.Filter.Basic
import TabularSearch.Query.Basic

/-!
# Aggregations

A tree of named aggregations: levels that part documents into buckets, by a
field's values or by a calendar component, and statistics of a field.
`Aggregation.toValue` is the form in which an aggregation is sent; siblings are
sent as the members of one object.
-/

namespace TabularSearch

open TabularSearch.Json

/-- The order of the buckets of a level. -/
inductive BucketOrder where
  /-- The fullest first, equally full ones by key. -/
  | fullestFirst
  | byKey (direction : Direction)
  deriving DecidableEq

/-- What an aggregation computes. -/
inductive AggregationKind where
  | terms (field : String) (size : UInt64) (order : BucketOrder)
  | dates (field : String) (granularity : Granularity) (order : BucketOrder)
  | statistics (field : String)
  deriving DecidableEq

/-- A named aggregation with the ones computed inside each of its buckets. -/
inductive Aggregation where
  | node (name : String) (kind : AggregationKind) (children : List Aggregation)

/-- The name under which the result comes back. -/
def Aggregation.name : Aggregation → String
  | .node name _ _ => name

/-- What is computed at a node. -/
def Aggregation.kind : Aggregation → AggregationKind
  | .node _ kind _ => kind

/-- What is computed inside each bucket of a node. -/
def Aggregation.children : Aggregation → List Aggregation
  | .node _ _ children => children

/-- The most documents or buckets that one answer may hold. -/
def answerCeiling : UInt64 := 10000

/-- The name of the statistics of a field. -/
def statisticsName (field : String) : String :=
  "_stats_" ++ field

/-- The statistics of a field. -/
def Aggregation.statistics (field : String) : Aggregation :=
  .node (statisticsName field) (.statistics field) []

/-- The order of buckets as it is asked for. -/
def BucketOrder.toValue : BucketOrder → Value
  | .fullestFirst =>
    .array
      [Filter.single "_count" (.string "desc"),
        Filter.single "_key" (.string "asc")]
  | .byKey direction => .array [Filter.single "_key" (.string direction.word)]

/-- Seconds are a fixed interval; every longer granularity is
a calendar interval. -/
def Granularity.intervalMember : Granularity → String × Value
  | .second => ("fixed_interval", .string "1s")
  | longer => ("calendar_interval", .string longer.word)

/-- The members that say what is computed. -/
def AggregationKind.members : AggregationKind → Members
  | .terms field size order =>
    [("terms",
      .object
        [("field", .string field), ("size", Value.ofWord size),
          ("order", order.toValue)])]
  | .dates field granularity order =>
    [("date_histogram",
      .object
        [("field", .string field), granularity.intervalMember,
          ("format", .string granularity.formatToken),
          ("min_doc_count", Value.ofWord 1), ("order", order.toValue)])]
  | .statistics field => [("stats", Filter.single "field" (.string field))]

/-- The member for what is computed inside each bucket, where
there is anything. -/
def nestedMember (aggregations : Members) : Members :=
  match aggregations with
  | [] => []
  | _ :: _ => [("aggs", .object aggregations)]

mutual

/-- The form in which an aggregation is sent. -/
def Aggregation.toValue : Aggregation → Value
  | .node _ kind children =>
    .object (kind.members ++ nestedMember (aggregationMembers [] children))

/-- Siblings by name; of a repeated name the last one is sent, at
the first one's place. -/
def aggregationMembers (sent : Members) : List Aggregation → Members
  | [] => sent
  | .node name kind children :: rest =>
    aggregationMembers
      (putEntry name (Aggregation.toValue (.node name kind children)) sent) rest

end

/-- The form in which siblings are sent. -/
def aggregationsValue (aggregations : List Aggregation) : Value :=
  .object (aggregationMembers [] aggregations)

end TabularSearch
