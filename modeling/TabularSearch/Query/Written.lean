import TabularSearch.Json.Decode
import TabularSearch.Query.Basic
import TabularSearch.Time.Rfc3339

/-!
# The JSON form of queries

Queries and their parts are written as values and read from documents.  Names
are matched exactly; what may be left out is written all the same, except for
an absent condition, limit or offset.  Conditions and groupings carry their
kind in the member `type`.
-/

namespace TabularSearch

open TabularSearch.Json
open TabularSearch.Time

/-- The item of a table of words. -/
def wordOf?
    {Item : Type}
    (table : List (String × Item))
    (word : String) :
    Option Item :=
  itemAt? word table

/-- A table has every item under the item's own word, and no word twice. -/
structure Lists
    {Item : Type}
    (table : List (String × Item))
    (word : Item → String) :
    Prop where
  different : (table.map Prod.fst).Nodup
  every : ∀ item, (word item, item) ∈ table

/-- Every item is found again under its word. -/
theorem Lists.wordOf?_eq
    {Item : Type}
    {table : List (String × Item)}
    {word : Item → String}
    (lists : Lists table word)
    (item : Item) :
    wordOf? table (word item) = some item :=
  itemAt?_of_mem lists.different (lists.every item)

/-- The comparisons under their symbols. -/
def Comparison.table : List (String × Comparison) :=
  [("=", .equal), ("!=", .notEqual), (">", .greater), (">=", .greaterOrEqual),
    ("<", .less), ("<=", .lessOrEqual), ("contains", .contains),
    ("not contains", .notContains)]

theorem Comparison.lists_table : Lists table symbol where
  different := by decide
  every comparison := by
    cases comparison <;> decide

/-- The measures under their words. -/
def Measure.table : List (String × Measure) :=
  [("count", .count), ("avg", .average), ("min", .least), ("max", .greatest),
    ("sum", .sum)]

theorem Measure.lists_table : Lists table word where
  different := by decide
  every measure := by
    cases measure <;> decide

/-- The granularities under their words. -/
def Granularity.table : List (String × Granularity) :=
  [("second", .second), ("minute", .minute), ("hour", .hour), ("day", .day),
    ("month", .month), ("year", .year)]

theorem Granularity.lists_table : Lists table word where
  different := by decide
  every granularity := by
    cases granularity <;> decide

/-- The directions under their words. -/
def Direction.table : List (String × Direction) :=
  [("asc", .ascending), ("desc", .descending)]

theorem Direction.lists_table : Lists table word where
  different := by decide
  every direction := by
    cases direction <;> decide

/-! ## Writing -/

/-- A list of texts as a value. -/
def textsValue (texts : List String) : Value :=
  .array (texts.map .string)

/-- Plain scalars stand for themselves; a date is an object, to
tell it from a string. -/
def Scalar.toValue : Scalar → Value
  | .null => .null
  | .bool truth => .bool truth
  | .number written => .number written
  | .text content => .string content
  | .date instant => .object [("date", .string instant.text)]

mutual

/-- A condition under the kind that its tag tells. -/
def Condition.toValue : Condition → Value
  | .compare field comparison value =>
    .object
      [("type", .string "singular"), ("field", .string field),
        ("operator", .string comparison.symbol), ("value", value.toValue)]
  | .all parts =>
    .object [("type", .string "and"), ("clauses", .array (partValues parts))]
  | .any parts =>
    .object [("type", .string "or"), ("clauses", .array (partValues parts))]

/-- The values of the parts of a condition. -/
def partValues : List Condition → List Value
  | [] => []
  | part :: rest => part.toValue :: partValues rest

end

/-- An aggregate, with the text of its target. -/
def Aggregate.toValue (aggregate : Aggregate) : Value :=
  .object
    [("label", .string aggregate.label),
      ("function", .string aggregate.measure.word),
      ("field", .string aggregate.target.toText)]

/-- A group under the kind that its tag tells. -/
def Grouping.toValue : Grouping → Value
  | .byField field label =>
    .object
      [("type", .string "field"), ("field", .string field),
        ("label", .string label)]
  | .byTime field label granularity =>
    .object
      [("type", .string "time_function"), ("field", .string field),
        ("label", .string label), ("granularity", .string granularity.word)]

/-- A sort key with its direction. -/
def SortKey.toValue (key : SortKey) : Value :=
  .object [("key", .string key.key), ("direction", .string key.direction.word)]

/-- A member that is left out where there is nothing to say. -/
def optionalMember
    (name : String)
    (value : Option Value) :
    Members :=
  match value with
  | some value => [(name, value)]
  | none => []

/-- A query as a value. -/
def Query.toValue (query : Query) : Value :=
  .object <|
    [("database", .string query.database), ("table", .string query.table),
      ("fields", textsValue query.fields),
      ("distinct", .bool query.distinct)] ++
    optionalMember "where" (query.condition.map Condition.toValue) ++
    [("aggregates", .array (query.aggregates.map Aggregate.toValue)),
      ("group_by", .array (query.groups.map Grouping.toValue)),
      ("sort", .array (query.sort.map SortKey.toValue))] ++
    optionalMember "limit" (query.limit.map Value.ofWord) ++
    optionalMember "offset" (query.offset.map Value.ofWord)

/-- The caller's wishes as a value. -/
def QueryOptions.toValue (options : QueryOptions) : Value :=
  .object
    [("ignore_filters", .bool options.ignoreFilters),
      ("selection_only", .bool options.selectionOnly),
      ("ignored_filter_ids", textsValue options.ignoredFilterIds)]

/-! ## Reading -/

/-- The date of an object with a member `date` and any others. -/
def readDate : List (Option String × Document) → Except Fault Instant
  | [] => .error .shape
  | (name, document) :: rest =>
    if name = some "date" then
      match document with
      | .string text =>
        match Instant.read? text with
        | some instant =>
          if rest.any (fun member => member.1 == some "date") then .error .shape
          else .ok instant
        | none => .error .shape
      | _ => .error .shape
    else readDate rest

/-- A scalar is taken in whole and then told by its kind. -/
def Scalar.read (document : Document) : Except Fault Scalar :=
  if document.toValue?.isNone then .error .text
  else
    match document with
    | .null => .ok .null
    | .bool truth => .ok (.bool truth)
    | .number written => .ok (.number written)
    | .string content => .ok (.text content)
    | .object members _ => (readDate members).map .date
    | _ => .error .shape

/-- The kind of a tagged object.  A held tag may also be the place of
the kind in the table. -/
def readTag
    {Kind : Type}
    (reading : Reading)
    (table : List (String × Kind)) :
    Document → Except Fault Kind
  | .string text => required (wordOf? table text)
  | .number written =>
    match reading, written.toWord? with
    | .held, some place => required (table[place.toNat]?.map Prod.snd)
    | _, _ => .error .shape
  | other => .error other.fault

/-- The kind of a tagged object, with all its other members taken in whole. -/
def findTag
    {Kind : Type}
    (reading : Reading)
    (table : List (String × Kind))
    (found : Option Kind)
    (closed : Bool) :
    List (Option String × Document) → Except Fault Kind
  | [] => if closed then required found else .error .text
  | (none, _) :: _ => .error .text
  | (some name, document) :: rest =>
    if name = "type" then
      match found with
      | some _ => .error .shape
      | none =>
        match readTag reading table document with
        | .error fault => .error fault
        | .ok kind => findTag reading table (some kind) closed rest
    else if document.toValue?.isNone then .error .text
    else findTag reading table found closed rest

/-- The members of a tagged object other than its tag. -/
def untagged (members : List (Option String × Document)) :
    List (Option String × Document) :=
  members.filter fun member => member.1 != some "type"

/-- The kind at the head of a tagged array, with all other
elements taken in whole. -/
def headTag
    {Kind : Type}
    (reading : Reading)
    (table : List (String × Kind))
    (closed : Bool) :
    List Document → Except Fault Kind
  | [] => .error (if closed then .shape else .text)
  | tag :: fields =>
    match readTag reading table tag with
    | .error fault => .error fault
    | .ok kind =>
      if closed && fields.all (fun field => field.toValue?.isSome) then .ok kind
      else .error .text

/-- The kinds of conditions. -/
inductive ConditionKind where
  | compare
  | all
  | any
  deriving DecidableEq

/-- The kinds of conditions under their tags. -/
def ConditionKind.table : List (String × ConditionKind) :=
  [("singular", .compare), ("and", .all), ("or", .any)]

/-- The parts of a comparison read so far. -/
structure CompareParts where
  field : Option String
  comparison : Option Comparison
  value : Option Scalar

/-- One member of a comparison. -/
def CompareParts.step
    (parts : CompareParts)
    (name : String)
    (document : Document) :
    Except Fault CompareParts :=
  match name with
  | "field" =>
    (fill parts.field readString document).map fun field => { parts with field }
  | "operator" =>
    (fill parts.comparison (readWordOf .held (wordOf? Comparison.table))
      document).map fun comparison => { parts with comparison }
  | "value" =>
    (fill parts.value Scalar.read document).map fun value =>
      { parts with value }
  | _ => .ok parts

/-- The comparison of a held record. -/
def readCompare (document : Document) : Except Fault Condition := do
  let parts ←
    readRecord .held ["field", "operator", "value"] CompareParts.step
      { field := none, comparison := none, value := none } document
  return .compare (← required parts.field) (← required parts.comparison)
    (← required parts.value)

/-- Whether a member with a name is among the members. -/
def hasMember
    (name : String)
    (members : List (Option String × Document)) :
    Bool :=
  members.any fun member => member.1 == some name

mutual

/-- A condition from a tagged object or array; its own parts are held. -/
def readCondition (reading : Reading) : Document → Except Fault Condition
  | .object members closed =>
    match findTag reading ConditionKind.table none closed members with
    | .error fault => .error fault
    | .ok .compare => readCompare (.object (untagged members) true)
    | .ok .all => (readParts members).map .all
    | .ok .any => (readParts members).map .any
  | .array elements closed =>
    match headTag reading ConditionKind.table closed elements with
    | .error fault => .error fault
    | .ok .compare => readCompare (.array elements.tail true)
    | .ok .all => (readOnlyParts elements).map .all
    | .ok .any => (readOnlyParts elements).map .any
  | other => .error other.fault

/-- The parts under the one member `clauses`. -/
def readParts : List (Option String × Document) → Except Fault (List Condition)
  | [] => .error .shape
  | (name, document) :: rest =>
    if name = some "clauses" then
      if hasMember "clauses" rest then .error .shape else readPartList document
    else readParts rest

/-- The parts in the one element after the tag. -/
def readOnlyParts : List Document → Except Fault (List Condition)
  | [_, parts] => readPartList parts
  | _ => .error .shape

/-- An array of parts. -/
def readPartList : Document → Except Fault (List Condition)
  | .array elements _ => readConditions elements
  | _ => .error .shape

/-- The parts of a condition, in order. -/
def readConditions : List Document → Except Fault (List Condition)
  | [] => .ok []
  | element :: rest =>
    match readCondition .held element with
    | .error fault => .error fault
    | .ok part =>
      match readConditions rest with
      | .error fault => .error fault
      | .ok parts => .ok (part :: parts)

end

/-- The parts of an aggregate read so far. -/
structure AggregateParts where
  label : Option String
  measure : Option Measure
  target : Option String

/-- One member of an aggregate. -/
def AggregateParts.step
    (parts : AggregateParts)
    (name : String)
    (document : Document) :
    Except Fault AggregateParts :=
  match name with
  | "label" =>
    (fill parts.label readString document).map fun label => { parts with label }
  | "function" =>
    (fill parts.measure (readWordOf .direct (wordOf? Measure.table))
      document).map fun measure => { parts with measure }
  | "field" =>
    (fill parts.target readString document).map fun target =>
      { parts with target }
  | _ => (skip document).map fun _ => parts

/-- An aggregate, all of whose members have to be there. -/
def readAggregate (document : Document) : Except Fault Aggregate := do
  let parts ←
    readRecord .direct ["label", "function", "field"] AggregateParts.step
      { label := none, measure := none, target := none } document
  return {
    label := ← required parts.label
    measure := ← required parts.measure
    target := Target.ofText (← required parts.target) }

/-- The kinds of groupings. -/
inductive GroupingKind where
  | byField
  | byTime
  deriving DecidableEq

/-- The kinds of groups under their tags. -/
def GroupingKind.table : List (String × GroupingKind) :=
  [("field", .byField), ("time_function", .byTime)]

/-- The fields of a grouping in declared order. -/
def GroupingKind.names : GroupingKind → List String
  | .byField => ["field", "label"]
  | .byTime => ["field", "label", "granularity"]

/-- The parts of a grouping read so far. -/
structure GroupingParts where
  field : Option String
  label : Option String
  granularity : Option Granularity

/-- One member of a group of a kind. -/
def GroupingParts.step
    (kind : GroupingKind)
    (parts : GroupingParts)
    (name : String)
    (document : Document) :
    Except Fault GroupingParts :=
  match name, kind with
  | "field", _ =>
    (fill parts.field readString document).map fun field => { parts with field }
  | "label", _ =>
    (fill parts.label readString document).map fun label => { parts with label }
  | "granularity", .byTime =>
    (fill parts.granularity (readWordOf .held (wordOf? Granularity.table))
      document).map fun granularity => { parts with granularity }
  | _, _ => .ok parts

/-- The grouping of a held record. -/
def readGroupingOf
    (kind : GroupingKind)
    (document : Document) :
    Except Fault Grouping := do
  let parts ←
    readRecord .held kind.names (GroupingParts.step kind)
      { field := none, label := none, granularity := none } document
  let field ← required parts.field
  let label ← required parts.label
  match kind with
  | .byField => return .byField field label
  | .byTime => return .byTime field label (← required parts.granularity)

/-- A group, as a tagged object or array. -/
def readGrouping : Document → Except Fault Grouping
  | .object members closed => do
    let kind ← findTag .direct GroupingKind.table none closed members
    readGroupingOf kind (.object (untagged members) true)
  | .array elements closed => do
    let kind ← headTag .direct GroupingKind.table closed elements
    readGroupingOf kind (.array elements.tail true)
  | other => .error other.fault

/-- The parts of a sort key read so far. -/
structure SortParts where
  key : Option String
  direction : Option Direction

/-- One member of a sort key. -/
def SortParts.step
    (parts : SortParts)
    (name : String)
    (document : Document) :
    Except Fault SortParts :=
  match name with
  | "key" =>
    (fill parts.key readString document).map fun key => { parts with key }
  | "direction" =>
    (fill parts.direction (readWordOf .direct (wordOf? Direction.table))
      document).map fun direction => { parts with direction }
  | _ => (skip document).map fun _ => parts

/-- A sort key; without a direction it ascends. -/
def readSortKey (document : Document) : Except Fault SortKey := do
  let parts ←
    readRecord .direct ["key", "direction"] SortParts.step
      { key := none, direction := none } document
  return {
    key := ← required parts.key
    direction := parts.direction.getD .ascending }

/-- The parts of a query read so far. -/
structure QueryParts where
  database : Option String
  table : Option String
  fields : Option (List String)
  distinct : Option Bool
  condition : Option (Option Condition)
  aggregates : Option (List Aggregate)
  groups : Option (List Grouping)
  sort : Option (List SortKey)
  limit : Option (Option UInt64)
  offset : Option (Option UInt64)

/-- Nothing of a query is read yet. -/
def QueryParts.none : QueryParts :=
  { database := .none, table := .none, fields := .none, distinct := .none,
    condition := .none,
    aggregates := .none, groups := .none, sort := .none, limit := .none,
    offset := .none }

/-- The fields of a query in declared order. -/
def QueryParts.names : List String :=
  ["database", "table", "fields", "distinct", "where", "aggregates", "group_by",
    "sort", "limit", "offset"]

/-- One member of a query. -/
def QueryParts.step
    (parts : QueryParts)
    (name : String)
    (document : Document) :
    Except Fault QueryParts :=
  match name with
  | "database" =>
    (fill parts.database readString document).map fun database =>
      { parts with database }
  | "table" =>
    (fill parts.table readString document).map fun table => { parts with table }
  | "fields" =>
    (fill parts.fields (readList readString) document).map fun fields =>
      { parts with fields }
  | "distinct" =>
    (fill parts.distinct readBool document).map fun distinct =>
      { parts with distinct }
  | "where" =>
    (fill parts.condition (readOption (readCondition .direct)) document).map
      fun condition => { parts with condition }
  | "aggregates" =>
    (fill parts.aggregates (readList readAggregate) document).map
      fun aggregates => { parts with aggregates }
  | "group_by" =>
    (fill parts.groups (readList readGrouping) document).map fun groups =>
      { parts with groups }
  | "sort" =>
    (fill parts.sort (readList readSortKey) document).map fun sort =>
      { parts with sort }
  | "limit" =>
    (fill parts.limit (readOption readWord) document).map fun limit =>
      { parts with limit }
  | "offset" =>
    (fill parts.offset (readOption readWord) document).map fun offset =>
      { parts with offset }
  | _ => (skip document).map fun _ => parts

/-- The query that a document writes. -/
def Query.read (document : Document) : Except Fault Query := do
  let parts ← readRecord .direct QueryParts.names QueryParts.step
    QueryParts.none document
  return {
    database := ← required parts.database
    table := ← required parts.table
    fields := parts.fields.getD []
    distinct := parts.distinct.getD false
    condition := parts.condition.join
    aggregates := parts.aggregates.getD []
    groups := parts.groups.getD []
    sort := parts.sort.getD []
    limit := parts.limit.join
    offset := parts.offset.join }

/-- The parts of the options read so far. -/
structure OptionsParts where
  ignoreFilters : Option Bool
  selectionOnly : Option Bool
  ignoredFilterIds : Option (List String)

/-- One member of the caller's wishes. -/
def OptionsParts.step
    (parts : OptionsParts)
    (name : String)
    (document : Document) :
    Except Fault OptionsParts :=
  match name with
  | "ignore_filters" =>
    (fill parts.ignoreFilters readBool document).map
      fun ignoreFilters => { parts with ignoreFilters }
  | "selection_only" =>
    (fill parts.selectionOnly readBool document).map
      fun selectionOnly => { parts with selectionOnly }
  | "ignored_filter_ids" =>
    (fill parts.ignoredFilterIds (readList readString) document).map
      fun ignoredFilterIds => { parts with ignoredFilterIds }
  | _ => (skip document).map fun _ => parts

/-- The options that a document writes. -/
def QueryOptions.read (document : Document) : Except Fault QueryOptions := do
  let parts ←
    readRecord .direct
      ["ignore_filters", "selection_only", "ignored_filter_ids"]
      OptionsParts.step
      { ignoreFilters := none, selectionOnly := none, ignoredFilterIds := none }
        document
  return {
    ignoreFilters := parts.ignoreFilters.getD false
    selectionOnly := parts.selectionOnly.getD false
    ignoredFilterIds := parts.ignoredFilterIds.getD [] }

end TabularSearch
