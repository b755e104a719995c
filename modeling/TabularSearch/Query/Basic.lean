import TabularSearch.Json.Value
import TabularSearch.Time.Instant

/-!
# Queries over tables

A query names a table and says which rows are wanted: the fields of
documents, the distinct values of a field, or aggregates over groups of
documents, under a condition, in an order and within a window of rows.
Nothing here knows the backend that answers.
-/

namespace TabularSearch

open TabularSearch.Json
open TabularSearch.Time

/-- How a field is compared with a value. -/
inductive Comparison where
  | equal
  | notEqual
  | greater
  | greaterOrEqual
  | less
  | lessOrEqual
  | contains
  | notContains
  deriving DecidableEq

/-- The written form of a comparison. -/
def Comparison.symbol : Comparison → String
  | .equal => "="
  | .notEqual => "!="
  | .greater => ">"
  | .greaterOrEqual => ">="
  | .less => "<"
  | .lessOrEqual => "<="
  | .contains => "contains"
  | .notContains => "not contains"

/-- Values that fields are compared with. -/
inductive Scalar where
  | null
  | bool (value : Bool)
  | number (value : Number)
  | text (value : String)
  | date (value : Instant)
  deriving DecidableEq

namespace Scalar

/-- Whether there is no value. -/
def isNull : Scalar → Bool
  | .null => true
  | _ => false

/-- What a value is called in messages. -/
def kind : Scalar → String
  | .null => "null"
  | .bool _ => "boolean"
  | .number _ => "number"
  | .text _ => "string"
  | .date _ => "date"

end Scalar

/-- A condition on documents. -/
inductive Condition where
  | compare (field : String) (comparison : Comparison) (value : Scalar)
  /-- Every part holds. -/
  | all (parts : List Condition)
  /-- Some part holds. -/
  | any (parts : List Condition)
  deriving Inhabited

/-- What is computed of a group of documents. -/
inductive Measure where
  | count
  | average
  | least
  | greatest
  | sum
  deriving DecidableEq

namespace Measure

/-- The written form of a measure. -/
def word : Measure → String
  | .count => "count"
  | .average => "avg"
  | .least => "min"
  | .greatest => "max"
  | .sum => "sum"

/-- The form of a measure in messages. -/
def title : Measure → String
  | .count => "COUNT"
  | .average => "AVG"
  | .least => "MIN"
  | .greatest => "MAX"
  | .sum => "SUM"

end Measure

/-- What a measure is taken of. -/
inductive Target where
  | allDocuments
  | field (name : String)
  deriving DecidableEq

namespace Target

/-- A star stands for all documents. -/
def ofText (text : String) : Target :=
  if text = "*" then .allDocuments else .field text

/-- The text for a target; all documents are a star. -/
def toText : Target → String
  | .allDocuments => "*"
  | .field name => name

/-- The field, where the target is one. -/
def field? : Target → Option String
  | .allDocuments => none
  | .field name => some name

theorem ofText_toText
    {target : Target}
    (named : target ≠ .field "*") :
    ofText target.toText = target := by
  cases target with
  | allDocuments => rfl
  | field name =>
    have different : name ≠ "*" := fun star => named (by rw [star])
    simp [ofText, toText, different]

end Target

/-- An output column computed over documents. -/
structure Aggregate where
  label : String
  measure : Measure
  target : Target
  deriving DecidableEq

/-- Calendar components by which dates are grouped. -/
inductive Granularity where
  | second
  | minute
  | hour
  | day
  | month
  | year
  deriving DecidableEq

namespace Granularity

/-- The word for a component. -/
def word : Granularity → String
  | .second => "second"
  | .minute => "minute"
  | .hour => "hour"
  | .day => "day"
  | .month => "month"
  | .year => "year"

/-- The date format of which the rendering is just the component. -/
def formatToken : Granularity → String
  | .second => "s"
  | .minute => "m"
  | .hour => "H"
  | .day => "d"
  | .month => "M"
  | .year => "yyyy"

/-- The component of a calendar reading. -/
def ofMoment
    (moment : Moment) :
    Granularity → Int
  | .second => moment.second
  | .minute => moment.minute
  | .hour => moment.hour
  | .day => moment.date.day
  | .month => moment.date.month
  | .year => moment.date.year

/-- The component of a count of milliseconds from 1970; none
outside the range of dates. -/
def component?
    (granularity : Granularity)
    (millis : Int) :
    Option Int :=
  if InRange (millis / 1000) then
    some (granularity.ofMoment (Moment.ofSecond (millis / 1000)))
  else none

end Granularity

/-- One level of grouping. -/
inductive Grouping where
  /-- By the distinct values of a field. -/
  | byField (field label : String)
  /-- By a calendar component of a date field. -/
  | byTime (field label : String) (granularity : Granularity)
  deriving DecidableEq

namespace Grouping

/-- The field whose values make the groups. -/
def field : Grouping → String
  | .byField field _ => field
  | .byTime field _ _ => field

/-- The column that shows the groups. -/
def label : Grouping → String
  | .byField _ label => label
  | .byTime _ label _ => label

end Grouping

/-- The way of sorting. -/
inductive Direction where
  | ascending
  | descending
  deriving DecidableEq

/-- The word for a direction. -/
def Direction.word : Direction → String
  | .ascending => "asc"
  | .descending => "desc"

/-- One key of an order on rows. -/
structure SortKey where
  key : String
  direction : Direction
  deriving DecidableEq

/-- A query, ready to be checked and compiled. -/
structure Query where
  database : String
  table : String
  /-- The projected fields; none means all. -/
  fields : List String
  /-- Whether only the distinct values of the first projected
  field are wanted. -/
  distinct : Bool
  condition : Option Condition
  aggregates : List Aggregate
  /-- The levels of grouping, the outermost first. -/
  groups : List Grouping
  /-- The keys of the order, the most significant first. -/
  sort : List SortKey
  limit : Option UInt64
  offset : Option UInt64
  deriving Inhabited

namespace Query

/-- A query for all documents of a table. -/
def ofTable (database table : String) : Query :=
  { database
    table
    fields := []
    distinct := false
    condition := none
    aggregates := []
    groups := []
    sort := []
    limit := none
    offset := none }

/-- Whether rows are computed over documents. -/
def isAggregate (query : Query) : Bool :=
  !query.aggregates.isEmpty || !query.groups.isEmpty

/-- Whether every row is a document. -/
def isPlain (query : Query) : Bool :=
  !query.isAggregate && !query.distinct

/-- The limit; zero counts as absent. -/
def rowLimit (query : Query) : Option UInt64 :=
  query.limit.filter (· ≠ 0)

/-- The offset; zero counts as absent. -/
def rowOffset (query : Query) : Option UInt64 :=
  query.offset.filter (· ≠ 0)

/-- The label of the innermost group level on a field. -/
def groupLabelFor?
    (query : Query)
    (field : String) :
    Option String :=
  (query.groups.reverse.find? fun group => group.field == field).map
    Grouping.label

end Query

/-- Wishes of the caller that travel beside a query and change no answer. -/
structure QueryOptions where
  ignoreFilters : Bool
  selectionOnly : Bool
  ignoredFilterIds : List String
  deriving DecidableEq

/-- No wishes. -/
def QueryOptions.default : QueryOptions :=
  { ignoreFilters := false, selectionOnly := false, ignoredFilterIds := [] }

end TabularSearch
