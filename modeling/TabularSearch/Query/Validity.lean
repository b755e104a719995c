import TabularSearch.Query.Invalid
import TabularSearch.Text.Blank

/-!
# Checking queries

A query is valid if its names are not blank, its output labels differ from each
other, and its parts can stand together.  `Query.check` tells the first cause in
the order of the query; what a comparison asks of its value is left to the
compilation of the condition.
-/

namespace TabularSearch

open TabularSearch.Text

/-- Refuses a blank name. -/
def checkName
    (role : NameRole)
    (name : String) :
    Except InvalidQuery Unit :=
  if isAllBlank name then .error (.blankName role) else .ok ()

/-- The checks of all items in order. -/
def checkAll
    {Item : Type}
    (check : Item → Except InvalidQuery Unit) :
    List Item → Except InvalidQuery Unit
  | [] => .ok ()
  | item :: rest =>
    match check item with
    | .error cause => .error cause
    | .ok () => checkAll check rest

mutual

/-- Refuses a blank field name anywhere in a condition. -/
def Condition.check : Condition → Except InvalidQuery Unit
  | .compare field _ _ => checkName .filterField field
  | .all parts => checkParts parts
  | .any parts => checkParts parts

/-- The parts of a condition, checked one by one. -/
def checkParts : List Condition → Except InvalidQuery Unit
  | [] => .ok ()
  | part :: rest =>
    match part.check with
    | .error cause => .error cause
    | .ok () => checkParts rest

end

/-- A label added to those seen before; a repeated one is refused. -/
def addLabel
    (seen : List String)
    (label : String) :
    Except InvalidQuery (List String) :=
  if label ∈ seen then .error (.repeatedLabel label) else .ok (label :: seen)

/-- The labels of the groups, checked one by one. -/
def checkGroups (seen : List String) :
    List Grouping → Except InvalidQuery (List String)
  | [] => .ok seen
  | group :: rest => do
    checkName .groupField group.field
    checkName .groupLabel group.label
    let seen ← addLabel seen group.label
    checkGroups seen rest

/-- Only the count is taken of all documents; a field that is
measured has a name. -/
def Aggregate.checkTarget (aggregate : Aggregate) : Except InvalidQuery Unit :=
  match aggregate.target, aggregate.measure with
  | .field field, _ => checkName .aggregateField field
  | .allDocuments, .count => .ok ()
  | .allDocuments, measure =>
    .error (.measureWithoutField measure aggregate.label)

/-- The labels of the aggregates after those of the groups,
checked one by one. -/
def checkAggregates (seen : List String) :
    List Aggregate → Except InvalidQuery (List String)
  | [] => .ok seen
  | aggregate :: rest => do
    checkName .aggregateLabel aggregate.label
    aggregate.checkTarget
    let seen ← addLabel seen aggregate.label
    checkAggregates seen rest

/-- Distinct values need a field and stand alone. -/
def Query.checkDistinct (query : Query) : Except InvalidQuery Unit :=
  if query.distinct then
    if query.fields.isEmpty then .error .distinctWithoutField
    else if query.isAggregate then .error .distinctWithGroups
    else .ok ()
  else .ok ()

/-- The first cause for which a query is refused, if there is one. -/
def Query.check (query : Query) : Except InvalidQuery Unit := do
  checkName .database query.database
  checkName .table query.table
  checkAll (checkName .projectedField) query.fields
  query.checkDistinct
  match query.condition with
  | some condition => condition.check
  | none => .ok ()
  let seen ← checkGroups [] query.groups
  let _ ← checkAggregates seen query.aggregates
  checkAll (fun key => checkName .sortKey key.key) query.sort

end TabularSearch
