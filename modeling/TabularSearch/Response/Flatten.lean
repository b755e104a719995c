import TabularSearch.Aggregation.Basic
import TabularSearch.Request.Basic
import TabularSearch.Response.Basic
import TabularSearch.Rows.Row
import TabularSearch.Text.Ascii
import TabularSearch.Text.Blank

/-!
# From answers to rows

Documents become rows as they are, with their identifier.  Nested buckets are
walked depth first, and every way down to an innermost bucket becomes one row:
the keys on the way under the labels of the groups, then the aggregates.
-/

namespace TabularSearch

open TabularSearch.Json
open TabularSearch.Text

/-- The column of a document's identifier. -/
def idColumn : String := "_id"

/-- A bucket on the way down: its column's value and its number of documents. -/
structure Step where
  key : Value
  count : UInt64

/-- The row of a document. -/
def Hit.toRow (hit : Hit) : Row :=
  (Row.ofList hit.source).insert idColumn (.string hit.id)

/-- The key of a field's bucket; a number that is spelled as a
truth value is one. -/
def fieldKey (bucket : Members) : Value :=
  match bucketKey bucket, bucketKeyText? bucket with
  | .number _, some "true" => .bool true
  | .number _, some "false" => .bool false
  | key, _ => key

/-- A whole number with a sign, of 64 bits, with white space around it. -/
def readSigned? (text : String) : Option Int :=
  (signedInt? (trim text.toList)).filter fun value =>
    decide (-0x8000000000000000 ≤ value) && decide (value < 0x8000000000000000)

/-- The component in a date bucket's key: as the backend spells it,
or else from the key. -/
def timeKey?
    (granularity : Granularity)
    (bucket : Members) :
    Option Int :=
  match (bucketKeyText? bucket).bind readSigned? with
  | some component => some component
  | none => (bucketKey bucket).asSigned?.bind granularity.component?

/-- A whole number as a value; null where it does not fit 64 bits. -/
def intValue (value : Int) : Value :=
  match Number.ofInt? value with
  | some number => .number number
  | none => .null

/-- The value of a level's column for a bucket. -/
def groupKey
    (bucket : Members) :
    Grouping → Value
  | .byField _ _ => fieldKey bucket
  | .byTime _ _ granularity =>
    match timeKey? granularity bucket with
    | some component => intValue component
    | none => .null

/-- A measure from the statistics in a scope; counts and sums
of nothing are zero. -/
def measureValue
    (aggregate : Aggregate)
    (scope : Members) :
    Value :=
  match aggregate.target.field?.bind fun field =>
      statisticOf? scope (statisticsName field) aggregate.measure.word with
  | some value => value
  | none =>
    match aggregate.measure with
    | .count | .sum => .ofWord 0
    | _ => .null

/-- The number of documents at the innermost level on a field. -/
def countOn?
    (groups : List Grouping)
    (steps : List Step)
    (field : String) :
    Option UInt64 :=
  ((groups.zip steps).reverse.find? fun level => level.1.field == field).map
    fun level => level.2.count

/-- The value of an aggregate in the innermost bucket at the end of a way. -/
def leafValue
    (groups : List Grouping)
    (steps : List Step)
    (scope : Members)
    (aggregate : Aggregate) :
    Value :=
  match aggregate.measure, aggregate.target with
  | .count, .allDocuments => .ofWord ((steps.getLast?.map Step.count).getD 0)
  | .count, .field field =>
    match countOn? groups steps field with
    | some count => .ofWord count
    | none => measureValue aggregate scope
  | _, _ => measureValue aggregate scope

/-- The row of a way down to an innermost bucket. -/
def leafRow
    (query : Query)
    (steps : List Step)
    (scope : Members) :
    Row :=
  Row.ofList <|
    (query.groups.zip steps).map (fun level => (level.1.label, level.2.key)) ++
      query.aggregates.map fun aggregate =>
        (aggregate.label, leafValue query.groups steps scope aggregate)

/-- The rows of all ways through the remaining levels, after the steps taken. -/
def flattenLevels
    (query : Query)
    (taken : List Step)
    (scope : Members) :
    List Grouping → List Row
  | [] => [leafRow query taken scope]
  | group :: rest =>
    (bucketsOf scope group.label).flatMap fun bucket =>
      flattenLevels query
        (taken ++
          [{ key := groupKey bucket group, count := bucketCount bucket }])
            bucket rest

/-- The one row of aggregates over all matching documents. -/
def totalsRow
    (query : Query)
    (response : SearchResponse) :
    Row :=
  Row.ofList <| query.aggregates.map fun aggregate =>
    (aggregate.label,
      match aggregate.measure with
      | .count => .ofWord response.total
      | _ => measureValue aggregate response.aggregations)

/-- The rows of the distinct values of the first projected field. -/
def distinctRows
    (query : Query)
    (response : SearchResponse) :
    List Row :=
  match query.fields with
  | [] => []
  | field :: _ =>
    (bucketsOf response.aggregations distinctName).map fun bucket =>
      Row.empty.insert field (fieldKey bucket)

/-- The rows of an answer to a query. -/
def flattenResponse
    (query : Query)
    (response : SearchResponse) :
    List Row :=
  if query.isPlain then response.hits.map Hit.toRow
  else if query.distinct then distinctRows query response
  else if query.groups.isEmpty then [totalsRow query response]
  else flattenLevels query [] response.aggregations query.groups

end TabularSearch
