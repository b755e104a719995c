import TabularSearch.Json.Value

/-!
# Filters

The backend's language of filters: leaves that look at one field,
and boolean nodes that join filters.  `Filter.toValue` is the form
in which a filter is sent.
-/

namespace TabularSearch

open TabularSearch.Json

/-- The side of a range that a bound closes. -/
inductive Bound where
  | above
  | atLeast
  | below
  | atMost
  deriving DecidableEq

/-- The name of a bound in a range. -/
def Bound.key : Bound → String
  | .above => "gt"
  | .atLeast => "gte"
  | .below => "lt"
  | .atMost => "lte"

/-- A filter on documents, before it is written. -/
inductive Filter where
  | everything
  | nothing
  | term (field : String) (value : Value)
  /-- The field has a value. -/
  | present (field : String)
  | range (field : String) (bound : Bound) (value : Value)
  /-- The field's text matches a regular expression from end to end. -/
  | pattern (field : String) (expression : String)
  /-- All of the first, some of the second unless there are
  none, none of the third. -/
  | clauses (must should mustNot : List Filter)
  deriving Inhabited

namespace Filter

/-- Every filter matches. -/
def all (filters : List Filter) : Filter :=
  .clauses filters [] []

/-- Some filter matches. -/
def any (filters : List Filter) : Filter :=
  .clauses [] filters []

/-- The filter does not match. -/
def not (filter : Filter) : Filter :=
  .clauses [] [] [filter]

/-- An object with one member. -/
def single
    (name : String)
    (value : Value) :
    Value :=
  .object [(name, value)]

/-- A member for a list of filters unless it is empty. -/
def groupMember
    (name : String)
    (filters : List Value) :
    Members :=
  match filters with
  | [] => []
  | _ :: _ => [(name, .array filters)]

/-- One filter of the optional ones has to match, where there are any. -/
def minimumMember (should : List Filter) : Members :=
  match should with
  | [] => []
  | _ :: _ => [("minimum_should_match", .ofWord 1)]

mutual

/-- The form in which a filter is sent. -/
def toValue : Filter → Value
  | .everything => single "match_all" (.object [])
  | .nothing => single "match_none" (.object [])
  | .term field value => single "term" (single field value)
  | .present field => single "exists" (single "field" (.string field))
  | .range field bound value =>
    single "range" (single field (single bound.key value))
  | .pattern field expression =>
    single "regexp" (single field (.string expression))
  | .clauses must should mustNot =>
    single "bool" <| .object <|
      groupMember "must" (toValues must) ++
        groupMember "should" (toValues should) ++
        groupMember "must_not" (toValues mustNot) ++ minimumMember should

/-- The written forms of several filters, in order. -/
def toValues : List Filter → List Value
  | [] => []
  | filter :: rest => filter.toValue :: toValues rest

end

mutual

/-- The bounds of the ranges in a filter, from left to right. -/
def bounds : Filter → List Bound
  | .range _ bound _ => [bound]
  | .clauses must should mustNot =>
    boundsOf must ++ boundsOf should ++ boundsOf mustNot
  | _ => []

/-- The bounds in several filters, in order. -/
def boundsOf : List Filter → List Bound
  | [] => []
  | filter :: rest => filter.bounds ++ boundsOf rest

end

end Filter

end TabularSearch
