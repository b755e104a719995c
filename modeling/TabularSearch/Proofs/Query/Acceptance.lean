import Mathlib.Data.List.Nodup
import TabularSearch.Proofs.Outcome
import TabularSearch.Query.Validity

/-!
# The queries that are accepted

`Query.Accepted` says, without the order in which things are looked at, what
the checks of a query come to: its names hold more than white space, its
output labels are different, a measure other than the count has a field, and
distinct values are asked for alone.  `Query.check_eq_ok_iff` says that
exactly these queries pass.
-/

namespace TabularSearch

open TabularSearch.Text

/-- A name holds more than white space. -/
def Named (name : String) : Prop :=
  isAllBlank name = false

theorem Named.ne_empty
    {name : String}
    (named : Named name) :
    name ≠ "" := by
  rintro rfl
  cases named

mutual

/-- Every field in a condition has a name. -/
def Condition.AllNamed : Condition → Prop
  | .compare field _ _ => Named field
  | .all parts => PartsNamed parts
  | .any parts => PartsNamed parts

/-- All parts of a condition have named fields. -/
def PartsNamed : List Condition → Prop
  | [] => True
  | part :: rest => part.AllNamed ∧ PartsNamed rest

end

namespace Aggregate

/-- The measure can be taken of the target. -/
def Measurable (aggregate : Aggregate) : Prop :=
  match aggregate.target with
  | .field field => Named field
  | .allDocuments => aggregate.measure = .count

end Aggregate

namespace Query

/-- The labels of the output columns: the groups, then the aggregates. -/
def labels (query : Query) : List String :=
  query.groups.map Grouping.label ++ query.aggregates.map Aggregate.label

/-- What a query has to be like to be accepted. -/
structure Accepted (query : Query) : Prop where
  database : Named query.database
  table : Named query.table
  fields : ∀ field ∈ query.fields, Named field
  distinct :
    query.distinct = true → query.fields ≠ [] ∧ query.isAggregate = false
  condition : ∀ condition, query.condition = some condition → condition.AllNamed
  groups : ∀ group ∈ query.groups, Named group.field ∧ Named group.label
  aggregates :
    ∀ aggregate ∈ query.aggregates, Named aggregate.label ∧ aggregate.Measurable
  labels : query.labels.Nodup
  sort : ∀ key ∈ query.sort, Named key.key

end Query

theorem checkName_eq_ok_iff
    {role : NameRole}
    {name : String} :
    checkName role name = .ok () ↔ Named name := by
  unfold checkName Named
  split <;> simp_all

theorem checkAll_eq_ok_iff
    {Item : Type}
    {check : Item → Except InvalidQuery Unit}
    {items : List Item} :
    checkAll check items = .ok () ↔ ∀ item ∈ items, check item = .ok () := by
  induction items with
  | nil => simp [checkAll]
  | cons item rest step =>
      rw [checkAll, List.forall_mem_cons]
      cases check item with
      | error cause => simp
      | ok done => simpa using step

mutual

theorem Condition.check_eq_ok_iff :
    ∀ condition : Condition, condition.check = .ok () ↔ condition.AllNamed
  | .compare field _ _ => checkName_eq_ok_iff
  | .all parts => by
    rw [Condition.check, Condition.AllNamed, checkParts_eq_ok_iff parts]
  | .any parts => by
    rw [Condition.check, Condition.AllNamed, checkParts_eq_ok_iff parts]

theorem checkParts_eq_ok_iff :
    ∀ parts : List Condition, checkParts parts = .ok () ↔ PartsNamed parts
  | [] => by simp [checkParts, PartsNamed]
  | part :: rest => by
    rw [checkParts, PartsNamed, ← Condition.check_eq_ok_iff part,
      ← checkParts_eq_ok_iff rest]
    cases part.check with
    | error cause => simp
    | ok done => simp

end

theorem addLabel_eq_ok_iff
    {seen more : List String}
    {label : String} :
    addLabel seen label = .ok more ↔ label ∉ seen ∧ more = label :: seen := by
  unfold addLabel
  split <;> simp_all [eq_comm]

/-- The items of a list checked one by one, together with their labels. -/
def checkLabelled
    {Item : Type}
    (check : Item → Except InvalidQuery Unit)
    (label : Item → String)
    (seen : List String) :
    List Item → Except InvalidQuery (List String)
  | [] => .ok seen
  | item :: rest => do
    check item
    let seen ← addLabel seen (label item)
    checkLabelled check label seen rest

/-- The labels seen stay different from each other, the last one in front. -/
theorem checkLabelled_eq_ok_iff
    {Item : Type}
    {check : Item → Except InvalidQuery Unit}
    {label : Item → String}
    {seen more : List String}
    {items : List Item}
    (distinct : seen.Nodup) :
    checkLabelled check label seen items = .ok more ↔
      (∀ item ∈ items, check item = .ok ()) ∧
        ((items.map label).reverse ++ seen).Nodup ∧
        more = (items.map label).reverse ++ seen := by
  induction items generalizing seen with
  | nil => simp [checkLabelled, distinct, eq_comm]
  | cons item rest step =>
      rw [checkLabelled, check_bind_eq_ok_iff]
      simp only [bind_eq_ok_iff, addLabel_eq_ok_iff, List.forall_mem_cons,
        List.map_cons, List.reverse_cons, List.append_assoc,
        List.singleton_append]
      constructor
      · rintro ⟨checked, -, ⟨fresh, rfl⟩, others⟩
        rcases (step (List.nodup_cons.2 ⟨fresh, distinct⟩)).1 others with
          ⟨all, nodup, rfl⟩
        exact ⟨⟨checked, all⟩, nodup, rfl⟩
      · rintro ⟨⟨checked, all⟩, nodup, rfl⟩
        have fresh := List.nodup_cons.1 (List.nodup_append.1 nodup).2.1
        exact ⟨checked, _, ⟨fresh.1, rfl⟩,
          (step (List.nodup_cons.2 fresh)).2 ⟨all, nodup, rfl⟩⟩

/-- The check of a group: its field and its label have names. -/
def Grouping.check (group : Grouping) : Except InvalidQuery Unit := do
  checkName .groupField group.field
  checkName .groupLabel group.label

/-- The check of an aggregate: its label, then its target. -/
def Aggregate.check (aggregate : Aggregate) : Except InvalidQuery Unit := do
  checkName .aggregateLabel aggregate.label
  aggregate.checkTarget

theorem checkGroups_eq_checkLabelled
    (seen : List String)
    (groups : List Grouping) :
    checkGroups seen groups =
      checkLabelled Grouping.check Grouping.label seen groups := by
  induction groups generalizing seen with
  | nil => rfl
  | cons group rest step =>
      simp only [checkGroups, checkLabelled, Grouping.check, step, bind_assoc]

theorem checkAggregates_eq_checkLabelled
    (seen : List String)
    (aggregates : List Aggregate) :
    checkAggregates seen aggregates =
      checkLabelled Aggregate.check Aggregate.label seen aggregates := by
  induction aggregates generalizing seen with
  | nil => rfl
  | cons aggregate rest step =>
      simp only [checkAggregates, checkLabelled, Aggregate.check, step,
        bind_assoc]

theorem Grouping.check_eq_ok_iff {group : Grouping} :
    group.check = .ok () ↔ Named group.field ∧ Named group.label := by
  simp only [Grouping.check, check_bind_eq_ok_iff, checkName_eq_ok_iff]

theorem Aggregate.checkTarget_eq_ok_iff {aggregate : Aggregate} :
    aggregate.checkTarget = .ok () ↔ aggregate.Measurable := by
  unfold Aggregate.checkTarget Aggregate.Measurable
  cases aggregate.target with
  | field field => exact checkName_eq_ok_iff
  | allDocuments => cases aggregate.measure <;> simp

theorem Aggregate.check_eq_ok_iff {aggregate : Aggregate} :
    aggregate.check = .ok () ↔
      Named aggregate.label ∧ aggregate.Measurable := by
  simp only [Aggregate.check, check_bind_eq_ok_iff, checkName_eq_ok_iff,
    checkTarget_eq_ok_iff]

theorem Query.checkDistinct_eq_ok_iff {query : Query} :
    query.checkDistinct = .ok () ↔
      (query.distinct = true →
        query.fields ≠ [] ∧ query.isAggregate = false) := by
  unfold Query.checkDistinct
  cases query.distinct <;> cases query.fields <;> cases query.isAggregate <;>
    simp

/-- What is left to check after the condition: the labelled
parts and the order. -/
def Query.checkColumns (query : Query) : Except InvalidQuery Unit := do
  let seen ← checkGroups [] query.groups
  let _ ← checkAggregates seen query.aggregates
  checkAll (fun key => checkName .sortKey key.key) query.sort

theorem Query.checkColumns_eq_ok_iff {query : Query} :
    query.checkColumns = .ok () ↔
      (∀ group ∈ query.groups, Named group.field ∧ Named group.label) ∧
        (∀ aggregate ∈ query.aggregates,
          Named aggregate.label ∧ aggregate.Measurable) ∧
        query.labels.Nodup ∧ ∀ key ∈ query.sort, Named key.key := by
  have sorted :
      checkAll (fun key => checkName .sortKey key.key) query.sort = .ok () ↔
        ∀ key ∈ query.sort, Named key.key := by
    simp only [checkAll_eq_ok_iff, checkName_eq_ok_iff]
  have reversed :
      ((query.aggregates.map Aggregate.label).reverse ++
          (query.groups.map Grouping.label).reverse).Nodup ↔
            query.labels.Nodup := by
    rw [← List.reverse_append, List.nodup_reverse, Query.labels]
  simp only [Query.checkColumns, bind_eq_ok_iff, checkGroups_eq_checkLabelled,
    checkAggregates_eq_checkLabelled, sorted,
    checkLabelled_eq_ok_iff List.nodup_nil, List.append_nil,
    Grouping.check_eq_ok_iff]
  constructor
  · rintro ⟨_, ⟨groups, grouped, rfl⟩, _, aggregated, keys⟩
    rw [checkLabelled_eq_ok_iff grouped, reversed] at aggregated
    simp only [Aggregate.check_eq_ok_iff] at aggregated
    exact ⟨groups, aggregated.1, aggregated.2.1, keys⟩
  · rintro ⟨groups, aggregates, labels, keys⟩
    have grouped : ((query.groups.map Grouping.label).reverse).Nodup :=
      (List.nodup_append.1 (reversed.2 labels)).2.1
    have aggregated :=
      (checkLabelled_eq_ok_iff grouped).2
        ⟨fun _ member => Aggregate.check_eq_ok_iff.2 (aggregates _ member),
          reversed.2 labels, rfl⟩
    exact ⟨_, ⟨groups, grouped, rfl⟩, _, aggregated, keys⟩

/-- The checks pass exactly the queries that are accepted. -/
theorem Query.check_eq_ok_iff {query : Query} :
    query.check = .ok () ↔ query.Accepted := by
  have parts : query.check = .ok () ↔
      Named query.database ∧ Named query.table ∧
        (∀ field ∈ query.fields, Named field) ∧
        (query.distinct = true →
          query.fields ≠ [] ∧ query.isAggregate = false) ∧
        (∀ condition, query.condition = some condition → condition.AllNamed) ∧
        query.checkColumns = .ok () := by
    unfold Query.check
    simp only [check_bind_eq_ok_iff, checkName_eq_ok_iff, checkAll_eq_ok_iff,
      Query.checkDistinct_eq_ok_iff, Query.checkColumns]
    cases query.condition <;>
      simp [check_bind_eq_ok_iff, Condition.check_eq_ok_iff]
  rw [parts, Query.checkColumns_eq_ok_iff]
  constructor
  · rintro ⟨database, table, fields, distinct, condition, groups, aggregates,
      labels, sort⟩
    exact ⟨database, table, fields, distinct, condition, groups, aggregates,
      labels, sort⟩
  · rintro ⟨database, table, fields, distinct, condition, groups, aggregates,
      labels, sort⟩
    exact ⟨database, table, fields, distinct, condition, groups, aggregates,
      labels, sort⟩

end TabularSearch
