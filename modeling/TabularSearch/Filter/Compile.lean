import TabularSearch.Filter.Basic
import TabularSearch.Filter.Pattern
import TabularSearch.Json.Printer
import TabularSearch.Query.Invalid
import TabularSearch.Time.Rfc3339

/-!
# From conditions to filters

A condition becomes a filter part by part: a comparison becomes a leaf or its
negation, and the joined parts of a condition become the clauses of one boolean
node.  Joining nothing holds always, choosing from nothing never.  A comparison
for order takes numbers as binary numbers, dates as text and texts as they are.
-/

namespace TabularSearch

open TabularSearch.Json
open TabularSearch.Time

/-- The bound of a comparison for order. -/
def Comparison.bound? : Comparison → Option Bound
  | .greater => some .above
  | .greaterOrEqual => some .atLeast
  | .less => some .below
  | .lessOrEqual => some .atMost
  | _ => none

namespace Scalar

/-- The value sent for a scalar; dates are sent as text to the second. -/
def sent : Scalar → Value
  | .null => .null
  | .bool truth => .bool truth
  | .number written => .number written
  | .text content => .string content
  | .date instant => .string instant.secondText

/-- The value sent for a scalar that closes a range; null and truth
values have no order. -/
def bound? : Scalar → Option Value
  | .number written => some (.number (.binary written.toBinary64))
  | .text content => some (.string content)
  | .date instant => some (.string instant.secondText)
  | .null | .bool _ => none

/-- The text that a scalar is searched for by; null has none. -/
def searchText? : Scalar → Option (List Char)
  | .null => none
  | .bool truth => some (Value.bool truth).text
  | .number written => some written.text
  | .text content => some content.toList
  | .date instant => some instant.secondText.toList

end Scalar

namespace Filter

/-- The filter of texts that contain a scalar. -/
def ofText
    (field : String)
    (comparison : Comparison)
    (value : Scalar) :
    Except InvalidQuery Filter :=
  match value.searchText? with
  | some text => .ok (.pattern field (String.ofList (containing text)))
  | none => .error (.nullText comparison field)

/-- The filter of values on one side of a scalar. -/
def ofBound
    (field : String)
    (comparison : Comparison)
    (bound : Bound)
    (value : Scalar) :
    Except InvalidQuery Filter :=
  match value.bound? with
  | some sent => .ok (.range field bound sent)
  | none => .error (.unorderedValue comparison field value.kind)

/-- The filter of one comparison. -/
def ofComparison
    (field : String)
    (comparison : Comparison)
    (value : Scalar) :
    Except InvalidQuery Filter :=
  if field = "" then .error .emptyField
  else
    match comparison with
    | .equal =>
      .ok
        (if value.isNull then not (.present field) else .term field value.sent)
    | .notEqual =>
      .ok
        (if value.isNull then .present field else not (.term field value.sent))
    | .greater => ofBound field comparison .above value
    | .greaterOrEqual => ofBound field comparison .atLeast value
    | .less => ofBound field comparison .below value
    | .lessOrEqual => ofBound field comparison .atMost value
    | .contains => ofText field comparison value
    | .notContains => (ofText field comparison value).map not

mutual

/-- The filter of a condition. -/
def ofCondition : Condition → Except InvalidQuery Filter
  | .compare field comparison value => ofComparison field comparison value
  | .all [] => .ok .everything
  | .all (part :: rest) => (ofConditions (part :: rest)).map all
  | .any [] => .ok .nothing
  | .any (part :: rest) => (ofConditions (part :: rest)).map any

/-- The filters of conditions; the first fault from the left counts. -/
def ofConditions : List Condition → Except InvalidQuery (List Filter)
  | [] => .ok []
  | part :: rest =>
    match ofCondition part with
    | .error cause => .error cause
    | .ok filter =>
      match ofConditions rest with
      | .error cause => .error cause
      | .ok filters => .ok (filter :: filters)

end

/-- The filters joined, or everything where there are none. -/
def join (filters : List Filter) : Filter :=
  match filters with
  | [] => .everything
  | _ :: _ => all filters

/-- The filter of an optional condition together with further filters. -/
def ofQuery
    (condition : Option Condition)
    (further : List Filter) :
    Except InvalidQuery Filter :=
  match condition with
  | none => .ok (join further)
  | some condition =>
    (ofCondition condition).map fun filter => join (filter :: further)

end Filter

end TabularSearch
