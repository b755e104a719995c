import TabularSearch.Proofs.Json.Documents
import TabularSearch.Proofs.Time.Written
import TabularSearch.Query.Written

/-!
# Queries that are read back

A query is written as a value and read from the document of that value, part by
part: the members are read in the order in which they were written, and an
absent condition, limit or offset leaves its place empty.  Conditions are read
under the tag that tells their kind, by induction on their tree.  One thing is
not told by the written form: a star stands for all documents, so the field that
is itself named by a star is lost.
-/

namespace TabularSearch

open TabularSearch.Json
open TabularSearch.Time

/-! ## Scalars -/

theorem Scalar.read_ofValue (scalar : Scalar) :
    Scalar.read (.ofValue scalar.toValue) = .ok scalar := by
  have whole := Document.isNone_toValue?_ofValue scalar.toValue
  cases scalar with
  | date instant =>
      have dated :
          readDate (Document.ofMembers [("date", .string instant.text)]) =
            .ok instant := by
        simp [Document.ofMembers, Document.ofValue, readDate,
          Instant.read?_text]
      rw [Scalar.toValue, Document.ofValue] at whole ⊢
      rw [Scalar.read, if_neg (by rw [whole]; exact Bool.false_ne_true), dated]
      rfl
  | _ => rfl

/-! ## Tagged objects -/

section Tags

variable {Kind : Type} {table : List (String × Kind)} {word : String}
  {kind : Kind}
  {members : Members}

/-- Members that are no tag are taken in whole behind the tag. -/
theorem findTag_ofMembers
    (reading : Reading)
    (table : List (String × Kind))
    (kind : Kind)
    (others : ∀ member ∈ members, member.1 ≠ "type") :
    findTag reading table (some kind) true (Document.ofMembers members) =
      .ok kind := by
  induction members with
  | nil => rfl
  | cons member rest step =>
      rcases member with ⟨name, value⟩
      rw [List.forall_mem_cons] at others
      rw [Document.ofMembers, findTag, if_neg others.1,
        Document.isNone_toValue?_ofValue, if_neg Bool.false_ne_true,
        step others.2]

theorem findTag_tagged
    (reading : Reading)
    (known : wordOf? table word = some kind)
    (others : ∀ member ∈ members, member.1 ≠ "type") :
    findTag reading table none true
        (Document.ofMembers (("type", .string word) :: members)) =
      .ok kind := by
  rw [Document.ofMembers, findTag, if_pos rfl]
  simp only [Document.ofValue, readTag, known, required,
    findTag_ofMembers reading table kind others]

theorem untagged_tagged
    (others : ∀ member ∈ members, member.1 ≠ "type") :
    untagged (Document.ofMembers (("type", .string word) :: members)) =
      Document.ofMembers members := by
  have kept :
      (Document.ofMembers members).filter
          (fun member => member.1 != some "type") =
      Document.ofMembers members := by
    induction members with
    | nil => rfl
    | cons member rest step =>
        rw [List.forall_mem_cons] at others
        rw [Document.ofMembers,
          List.filter_cons_of_pos (by simpa using others.1), step others.2]
  rw [untagged, Document.ofMembers, List.filter_cons_of_neg (by simp), kept]

end Tags

/-- The word of an item is read as the item. -/
theorem Lists.readWordOf_eq
    {Item : Type}
    {table : List (String × Item)}
    {word : Item → String}
    (lists : Lists table word)
    (reading : Reading)
    (item : Item) :
    readWordOf reading (wordOf? table) (.string (word item)) = .ok item := by
  rw [readWordOf, readWordOf.lookUp, lists.wordOf?_eq]

/-! ## Conditions -/

theorem readCompare_ofMembers
    (field : String)
    (comparison : Comparison)
    (value : Scalar) :
    readCompare
        (.object
          (Document.ofMembers
            [("field", .string field), ("operator", .string comparison.symbol),
              ("value", value.toValue)])
          true) =
      .ok (.compare field comparison value) := by
  simp [readCompare, readRecord, Document.ofMembers, Document.ofValue,
    readMembers, CompareParts.step, Scalar.read_ofValue,
    Comparison.lists_table.readWordOf_eq]

theorem findTag_clauses
    (reading : Reading)
    {word : String}
    {kind : ConditionKind}
    (known : wordOf? ConditionKind.table word = some kind)
    (parts : List Value) :
    findTag reading ConditionKind.table none true
        (Document.ofMembers
          [("type", .string word), ("clauses", .array parts)]) =
      .ok kind :=
  findTag_tagged reading known (by simp)

/-- The parts are found behind the tag. -/
theorem readParts_tagged
    (word : String)
    (parts : List Value) :
    readParts
        (Document.ofMembers
          [("type", .string word), ("clauses", .array parts)]) =
      readConditions (Document.ofElements parts) := by
  simp [Document.ofMembers, Document.ofValue, readParts, hasMember,
    readPartList]

mutual

/-- By induction on the tree; whatever stands inside a tagged object
is read as a held part. -/
theorem readCondition_ofValue
    (reading : Reading) :
    ∀ condition : Condition,
      readCondition reading (.ofValue condition.toValue) = .ok condition
  | .compare field comparison value => by
    have others : ∀ member ∈
        [("field", Value.string field), ("operator", .string comparison.symbol),
          ("value", value.toValue)],
        member.1 ≠ "type" := by
      simp
    have known : wordOf? ConditionKind.table "singular" = some .compare := rfl
    have tag := findTag_tagged reading known others
    rw [Condition.toValue, Document.ofValue, readCondition, tag]
    simp only [untagged_tagged others, readCompare_ofMembers]
  | .all parts => by
    have known : wordOf? ConditionKind.table "and" = some .all := rfl
    rw [Condition.toValue, Document.ofValue, readCondition,
      findTag_clauses reading known]
    simp only [readParts_tagged, readConditions_ofElements parts]
    rfl
  | .any parts => by
    have known : wordOf? ConditionKind.table "or" = some .any := rfl
    rw [Condition.toValue, Document.ofValue, readCondition,
      findTag_clauses reading known]
    simp only [readParts_tagged, readConditions_ofElements parts]
    rfl

theorem readConditions_ofElements :
    ∀ parts : List Condition,
      readConditions (Document.ofElements (partValues parts)) = .ok parts
  | [] => rfl
  | part :: rest => by
    rw [partValues, Document.ofElements, readConditions,
      readCondition_ofValue .held part]
    simp only [readConditions_ofElements rest]

end

/-! ## Columns -/

/-- The aggregate whose target is told by its text: a field
named as a star is lost. -/
def Aggregate.retold (aggregate : Aggregate) : Aggregate :=
  { aggregate with target := Target.ofText aggregate.target.toText }

theorem readAggregate_ofValue (aggregate : Aggregate) :
    readAggregate (.ofValue aggregate.toValue) = .ok aggregate.retold := by
  simp [readAggregate, Aggregate.toValue, readRecord, Document.ofMembers,
    Document.ofValue, readMembers, AggregateParts.step,
    Measure.lists_table.readWordOf_eq, Aggregate.retold]

theorem readSortKey_ofValue (key : SortKey) :
    readSortKey (.ofValue key.toValue) = .ok key := by
  simp [readSortKey, SortKey.toValue, readRecord, Document.ofMembers,
    Document.ofValue, readMembers, SortParts.step,
    Direction.lists_table.readWordOf_eq]

theorem readGrouping_ofValue (group : Grouping) :
    readGrouping (.ofValue group.toValue) = .ok group := by
  cases group with
  | byField field label =>
      have others :
          ∀ member ∈ [("field", Value.string field), ("label", .string label)],
          member.1 ≠ "type" := by
        simp
      have known : wordOf? GroupingKind.table "field" = some .byField := rfl
      have tag := findTag_tagged .direct known others
      rw [Grouping.toValue, Document.ofValue, readGrouping, tag,
        untagged_tagged others]
      simp [readGroupingOf, readRecord, Document.ofMembers, Document.ofValue,
        readMembers, GroupingParts.step]
  | byTime field label granularity =>
      have others : ∀ member ∈
          [("field", Value.string field), ("label", .string label),
            ("granularity", .string granularity.word)],
          member.1 ≠ "type" := by
        simp
      have known : wordOf? GroupingKind.table "time_function" = some .byTime :=
        rfl
      have tag := findTag_tagged .direct known others
      rw [Grouping.toValue, Document.ofValue, readGrouping, tag,
        untagged_tagged others]
      simp [readGroupingOf, readRecord, Document.ofMembers, Document.ofValue,
        readMembers, GroupingParts.step, Granularity.lists_table.readWordOf_eq]

/-! ## Whole queries -/

theorem readStrings_ofValue (texts : List String) :
    readList readString (.ofValue (textsValue texts)) = .ok texts := by
  have each :
      ∀ text ∈ texts, readString (.ofValue (.string text)) = .ok (id text) :=
    fun _ _ => rfl
  rw [textsValue, readList_ofValue id texts each, List.map_id]

section Optional

variable {State Item : Type}
  {step : State → String → Document → Except Fault State}
  {name : String} {write : Item → Value} (place : Option Item → State)

/-- A member that may be left out is read into its place,
which is empty without it. -/
theorem readMembers_optional
    (read :
      ∀ item, step (place none) name (.ofValue (write item)) =
        .ok (place (some item)))
    (given : Option Item)
    (rest : List (Option String × Document)) :
    readMembers step (place none)
        (Document.ofMembers (optionalMember name (given.map write)) ++ rest) =
      readMembers step (place given) rest := by
  cases given with
  | none => rfl
  | some item =>
      rw [Option.map_some, optionalMember, Document.ofMembers,
        Document.ofMembers, List.cons_append, List.nil_append,
        readMembers_cons (read item)]

end Optional

theorem readOption_condition (condition : Condition) :
    readOption (readCondition .direct) (.ofValue condition.toValue) =
      .ok (some condition) := by
  refine readOption_ofValue ?_ (readCondition_ofValue .direct condition)
  cases condition <;> simp [Condition.toValue]

theorem readOption_word (word : UInt64) :
    readOption readWord (.ofValue (.ofWord word)) = .ok (some word) :=
  readOption_ofValue (by simp [Value.ofWord]) (readWord_ofValue word)

namespace QueryParts

variable (query : Query)

/-- The parts in front of the condition. -/
def ofNames : QueryParts :=
  { none with
    database := some query.database
    table := some query.table
    fields := some query.fields
    distinct := some query.distinct }

/-- The parts in front of the limit. -/
def ofLists : QueryParts :=
  { ofNames query with
    condition := query.condition.map some
    aggregates := some (query.aggregates.map Aggregate.retold)
    groups := some query.groups
    sort := some query.sort }

/-- The parts that are read of a query: an absent member
leaves its place empty. -/
def ofQuery : QueryParts :=
  { ofLists query with
    limit := query.limit.map some
    offset := query.offset.map some }

theorem readMembers_names (rest : List (Option String × Document)) :
    readMembers step none
        (Document.ofMembers
            [("database", .string query.database),
              ("table", .string query.table),
              ("fields", textsValue query.fields),
              ("distinct", .bool query.distinct)] ++
          rest) =
      readMembers step (ofNames query) rest := by
  simp [Document.ofMembers, Document.ofValue, readMembers, step, none,
    readStrings_ofValue, ofNames]

theorem readMembers_condition (rest : List (Option String × Document)) :
    readMembers step (ofNames query)
        (Document.ofMembers
          (optionalMember "where" (query.condition.map Condition.toValue)) ++
            rest) =
      readMembers step { ofNames query with
        condition := query.condition.map some } rest :=
  readMembers_optional
    (fun given => { ofNames query with condition := given.map some })
    (fun item => by simp [step, readOption_condition])
    query.condition rest

theorem readMembers_lists (rest : List (Option String × Document)) :
    readMembers step { ofNames query with
      condition := query.condition.map some }
        (Document.ofMembers
            [("aggregates", .array (query.aggregates.map Aggregate.toValue)),
              ("group_by", .array (query.groups.map Grouping.toValue)),
              ("sort", .array (query.sort.map SortKey.toValue))] ++
          rest) =
      readMembers step (ofLists query) rest := by
  have aggregates :=
    readList_ofValue Aggregate.retold query.aggregates fun aggregate _ =>
    readAggregate_ofValue aggregate
  have groups :=
    readList_ofValue id query.groups fun group _ => readGrouping_ofValue group
  have sort :=
    readList_ofValue id query.sort fun key _ => readSortKey_ofValue key
  simp [Document.ofMembers, readMembers, step, aggregates, groups, sort,
    ofLists, ofNames, none]

theorem readMembers_limit (rest : List (Option String × Document)) :
    readMembers step (ofLists query)
        (Document.ofMembers
          (optionalMember "limit" (query.limit.map Value.ofWord)) ++ rest) =
      readMembers step { ofLists query with
        limit := query.limit.map some } rest :=
  readMembers_optional
    (fun given => { ofLists query with limit := given.map some })
    (fun item => by simp [step, readOption_word])
    query.limit rest

theorem readMembers_offset (rest : List (Option String × Document)) :
    readMembers step { ofLists query with limit := query.limit.map some }
        (Document.ofMembers
          (optionalMember "offset" (query.offset.map Value.ofWord)) ++ rest) =
      readMembers step (ofQuery query) rest :=
  readMembers_optional
    (fun given =>
      { ofLists query with
          limit := query.limit.map some, offset := given.map some })
    (fun item => by simp [step, readOption_word])
    query.offset rest

theorem readRecord_ofValue :
    readRecord .direct names step none (.ofValue query.toValue) =
      .ok (ofQuery query) := by
  have last := readMembers_offset query []
  rw [List.append_nil] at last
  rw [Query.toValue, Document.ofValue, readRecord]
  simp only [Document.ofMembers_append, List.append_assoc]
  rw [readMembers_names, readMembers_condition, readMembers_lists,
    readMembers_limit, last]
  rfl

end QueryParts

/-! ## Round trips -/

theorem Query.read_ofValue_retold (query : Query) :
    Query.read (.ofValue query.toValue) =
      .ok { query with
        aggregates := query.aggregates.map Aggregate.retold } := by
  rw [Query.read, QueryParts.readRecord_ofValue]
  rcases query with ⟨_, _, _, _, condition, _, _, _, limit, offset⟩
  cases condition <;> cases limit <;> cases offset <;> rfl

theorem QueryOptions.read_ofValue (options : QueryOptions) :
    QueryOptions.read (.ofValue options.toValue) = .ok options := by
  simp [QueryOptions.read, QueryOptions.toValue, Document.ofValue,
    Document.ofMembers, readRecord, readMembers, OptionsParts.step,
    readStrings_ofValue]

theorem Aggregate.retold_eq_iff (aggregate : Aggregate) :
    aggregate.retold = aggregate ↔ aggregate.target ≠ .field "*" := by
  constructor
  · intro same star
    have target : Target.ofText aggregate.target.toText = aggregate.target :=
      congrArg Aggregate.target same
    rw [star] at target
    exact absurd target (by decide)
  · intro named
    rw [retold, Target.ofText_toText named]

/-- The JSON form of a query is read as the query itself, unless an aggregate is
of the field named as a star; that of options always is. -/
theorem Query.read_ofValue_iff
    (query : Query)
    (options : QueryOptions) :
    (Query.read (.ofValue query.toValue) = .ok query ↔
        ∀ aggregate ∈ query.aggregates, aggregate.target ≠ .field "*") ∧
      QueryOptions.read (.ofValue options.toValue) = .ok options := by
  refine ⟨?_, QueryOptions.read_ofValue options⟩
  have unchanged : query.aggregates.map Aggregate.retold = query.aggregates ↔
      ∀ aggregate ∈ query.aggregates, aggregate.target ≠ .field "*" := by
    simpa only [List.map_id, id, Aggregate.retold_eq_iff] using
      List.map_inj_left (l := query.aggregates) (f := Aggregate.retold)
        (g := id)
  rw [Query.read_ofValue_retold, ← unchanged]
  constructor
  · intro same
    exact congrArg Query.aggregates (Except.ok.inj same)
  · intro same
    rw [same]

end TabularSearch
