import TabularSearch.Query.Basic

/-!
# Building queries step by step

Each step adds to a query or replaces a part of it: fields, the condition,
the limit and the offset are replaced, while aggregates, groups and sort
keys are added at the end.
-/

namespace TabularSearch

open TabularSearch.Json
open TabularSearch.Time

/-- A number compared as it is; what is not a finite number is null. -/
def Scalar.ofBinary (number : Option Binary64) : Scalar :=
  match number with
  | some number => .number (.binary number)
  | none => .null

/-- An optional text; a missing one is null. -/
def Scalar.ofText? (content : Option String) : Scalar :=
  match content with
  | some content => .text content
  | none => .null

/-- The condition that a field equals a value. -/
def Condition.equals
    (field : String)
    (value : Scalar) :
    Condition :=
  .compare field .equal value

namespace Query

/-- The query for some fields of the documents. -/
def withFields
    (query : Query)
    (fields : List String) :
    Query :=
  { query with fields }

/-- Only the distinct values of the first projected field. -/
def onlyDistinct (query : Query) : Query :=
  { query with distinct := true }

/-- The query on what meets a condition, in place of any before. -/
def filtered
    (query : Query)
    (condition : Condition) :
    Query :=
  { query with condition := some condition }

/-- The query with one more aggregate. -/
def aggregated
    (query : Query)
    (label : String)
    (measure : Measure)
    (target : Target) :
    Query :=
  { query with aggregates := query.aggregates ++ [{ label, measure, target }] }

/-- The number of documents as a column. -/
def counted
    (query : Query)
    (label : String) :
    Query :=
  query.aggregated label .count .allDocuments

/-- The query with one more level of groups, innermost. -/
def grouped
    (query : Query)
    (group : Grouping) :
    Query :=
  { query with groups := query.groups ++ [group] }

/-- The query with one more sort key, the least significant. -/
def sorted
    (query : Query)
    (key : String)
    (direction : Direction) :
    Query :=
  { query with sort := query.sort ++ [{ key, direction }] }

/-- The query with a limit. -/
def limited
    (query : Query)
    (limit : UInt64) :
    Query :=
  { query with limit := some limit }

/-- The query with an offset. -/
def skipping
    (query : Query)
    (offset : UInt64) :
    Query :=
  { query with offset := some offset }

end Query

end TabularSearch
