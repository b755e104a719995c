import TabularSearch.Query.Basic
import TabularSearch.Request.Basic
import TabularSearch.Rows.Row

/-!
# Finishing rows

Rows that the backend could not order or cut are sorted and cut here.  Values of
one kind are compared as that kind, values of different kinds by the kind;
numbers are compared as binary numbers, and missing or null values come last in
both directions.  Rows that are equal on all keys keep their order.
-/

namespace TabularSearch

open TabularSearch.Json

/-- The place of a value's kind in the order of kinds. -/
def kindRank : Value → Nat
  | .null => 0
  | .bool _ => 1
  | .number _ => 2
  | .string _ => 3
  | .array _ => 4
  | .object _ => 5

/-- The order of values that are there; two arrays or two objects are equal. -/
def comparePresent : Value → Value → Ordering
  | .bool left, .bool right => compare left right
  | .number left, .number right => left.toBinary64.compareValue right.toBinary64
  | .string left, .string right => compare left right
  | left, right => compare (kindRank left) (kindRank right)

/-- The order of cells in a direction; missing and null come last. -/
def compareCells
    (direction : Direction)
    (left right : Option Value) :
    Ordering :=
  match left.filter fun value => !value.isNull, right.filter fun value =>
    !value.isNull with
  | none, none => .eq
  | none, some _ => .gt
  | some _, none => .lt
  | some left, some right =>
    match direction with
    | .ascending => comparePresent left right
    | .descending => (comparePresent left right).swap

/-- The order of rows by keys, the most significant first. -/
def compareRows : List SortKey → Row → Row → Ordering
  | [], _, _ => .eq
  | key :: rest, left, right =>
    (compareCells key.direction (left.get? key.key) (right.get? key.key)).then
      (compareRows rest left right)

/-- The column that a sort key names: itself if any row has it, or else the
label of the innermost group on that field. -/
def resolveKey
    (query : Query)
    (rows : List Row)
    (key : String) :
    String :=
  if rows.any fun row => row.contains key then key
  else (query.groupLabelFor? key).getD key

/-- The sort keys with the columns that they name. -/
def resolveKeys
    (query : Query)
    (rows : List Row) :
    List SortKey :=
  query.sort.map fun key => { key with key := resolveKey query rows key.key }

/-- The rows in the order of the query. -/
def sortRows
    (query : Query)
    (rows : List Row) :
    List Row :=
  let keys := resolveKeys query rows
  rows.mergeSort fun left right => compareRows keys left right != .gt

/-- The rows of the query's page. -/
def pageRows
    (query : Query)
    (rows : List Row) :
    List Row :=
  let kept := rows.drop (query.rowOffset.getD 0).toNat
  match query.rowLimit with
  | some limit => kept.take limit.toNat
  | none => kept

/-- The rows sorted and cut as a plan says. -/
def finishRows
    (query : Query)
    (plan : FinishPlan)
    (rows : List Row) :
    List Row :=
  let sorted :=
    if plan.sortsRows && !query.sort.isEmpty then sortRows query rows else rows
  if plan.pagesRows then pageRows query sorted else sorted

end TabularSearch
