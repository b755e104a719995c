import TabularSearch.Proofs.Names
import TabularSearch.Proofs.Query.Acceptance

/-!
# What a plan asks for

The needs of the aggregates are gathered one by one; here they are said at once.
An aggregate is either counted from documents or measured from the statistics of
a field, and a plan asks for the statistics of exactly the measured fields, for
each once.  An accepted query always has a plan, `Query.plan`.
-/

namespace TabularSearch

/-- An aggregate is the count of a field. -/
def Aggregate.Counts
    (aggregate : Aggregate)
    (field : String) :
    Prop :=
  aggregate.measure = .count ∧ aggregate.target = .field field

/-- Only a count can do without a field. -/
theorem Aggregate.Measurable.exists_field
    {aggregate : Aggregate}
    (measurable : aggregate.Measurable)
    (uncounted : aggregate.measure ≠ .count) :
    ∃ field, aggregate.target = .field field := by
  unfold Aggregate.Measurable at measurable
  cases target : aggregate.target with
  | field field => exact ⟨field, rfl⟩
  | allDocuments =>
      rw [target] at measurable
      exact absurd measurable uncounted

namespace Query

/-- The field that documents need to have for a count over all groups. -/
def countedField?
    (query : Query)
    (aggregate : Aggregate) :
    Option String :=
  match aggregate.measure with
  | .count => if query.groups.isEmpty then aggregate.target.field? else none
  | _ => none

/-- The field from whose statistics an aggregate is read.  A count needs
statistics only below groups, and only of a field that no group is on. -/
def measuredField?
    (query : Query)
    (aggregate : Aggregate) :
    Option String :=
  match aggregate.measure with
  | .count =>
    aggregate.target.field?.filter fun field =>
      !query.groups.isEmpty && !query.groups.any fun group =>
        group.field == field
  | _ => aggregate.target.field?

/-- The fields that documents need to have at all. -/
def countedFields (query : Query) : List String :=
  addNames [] (query.aggregates.filterMap query.countedField?)

/-- The fields of which statistics are needed. -/
def measuredFields (query : Query) : List String :=
  addNames [] (query.aggregates.filterMap query.measuredField?)

/-- Whether an aggregate is answered by the number of matching documents. -/
def countsTotal (query : Query) : Bool :=
  query.groups.isEmpty && query.aggregates.any fun aggregate =>
    aggregate.measure = .count

/-- The plan of a query whose measures can all be taken. -/
def plan (query : Query) : Plan :=
  { presentFields := query.countedFields
    aggregations :=
      nestLevels (Delivery.ofQuery query)
        (query.measuredFields.map Aggregation.statistics) query.groups
    delivery := Delivery.ofQuery query
    totalHits := query.countsTotal }

theorem mem_measuredFields
    {query : Query}
    {field : String} :
    field ∈ query.measuredFields ↔
      ∃ aggregate ∈ query.aggregates,
        query.measuredField? aggregate = some field := by
  simp [measuredFields, mem_addNames]

theorem nodup_measuredFields (query : Query) : query.measuredFields.Nodup :=
  nodup_addNames List.nodup_nil _

theorem measuredField?_eq_field?
    {aggregate : Aggregate}
    (uncounted : aggregate.measure ≠ .count)
    (query : Query) :
    query.measuredField? aggregate = aggregate.target.field? := by
  unfold measuredField?
  split
  · contradiction
  · rfl

theorem mem_measuredFields_of_uncounted
    {query : Query}
    {aggregate : Aggregate}
    {field : String}
    (member : aggregate ∈ query.aggregates)
    (uncounted : aggregate.measure ≠ .count)
    (target : aggregate.target = .field field) :
    field ∈ query.measuredFields := by
  refine mem_measuredFields.2 ⟨aggregate, member, ?_⟩
  rw [measuredField?_eq_field? uncounted, target, Target.field?]

theorem countedField?_eq_some_iff
    {query : Query}
    (ungrouped : query.groups = [])
    {aggregate : Aggregate}
    {field : String} :
    query.countedField? aggregate = some field ↔ aggregate.Counts field := by
  rcases aggregate with ⟨label, measure, target⟩
  cases measure <;> cases target <;>
    simp [countedField?, ungrouped, Target.field?, Aggregate.Counts]

theorem mem_countedFields
    {query : Query}
    (ungrouped : query.groups = [])
    {field : String} :
    field ∈ query.countedFields ↔ ∃ aggregate ∈ query.aggregates,
      aggregate.Counts field := by
  simp [countedFields, mem_addNames, countedField?_eq_some_iff ungrouped]

theorem groupLabelFor?_isNone
    (query : Query)
    (field : String) :
    (query.groupLabelFor? field).isNone = !query.groups.any fun group =>
      group.field == field := by
  rw [groupLabelFor?, Option.isNone_map, Bool.eq_iff_iff]
  simp

end Query

/-- What is needed after some more aggregates. -/
def Needs.after
    (query : Query)
    (needs : Needs)
    (aggregates : List Aggregate) :
    Needs :=
  { presentFields :=
      addNames needs.presentFields (aggregates.filterMap query.countedField?)
    statisticsFields :=
      addNames needs.statisticsFields
        (aggregates.filterMap query.measuredField?)
    totalHits :=
      needs.totalHits ||
        (query.groups.isEmpty && aggregates.any fun aggregate =>
          aggregate.measure = .count) }

/-- One case for each kind of aggregate, and for counts one for
each source of the count. -/
theorem Needs.add_eq_ok
    {aggregate : Aggregate}
    (measurable : aggregate.Measurable)
    (query : Query)
    (needs : Needs) :
    needs.add query aggregate = .ok (needs.after query [aggregate]) := by
  rcases aggregate with ⟨label, measure, target⟩
  simp only [after, List.filterMap_cons, List.filterMap_nil]
  cases target with
  | allDocuments =>
      obtain rfl : measure = .count := measurable
      simp [add, Query.countedField?, Query.measuredField?, Target.field?]
  | field field =>
      cases measure with
      | count =>
          by_cases ungrouped : query.groups.isEmpty
          · simp [add, Query.countedField?, Query.measuredField?, Target.field?,
              ungrouped]
          · by_cases grouped : query.groups.any fun group =>
              group.field == field
            all_goals
              simp [add, Query.countedField?, Query.measuredField?,
                Target.field?, Query.groupLabelFor?_isNone, Option.filter_some,
                ungrouped, grouped]
      | _ =>
          simp [add, Query.countedField?, Query.measuredField?, Target.field?]

theorem Needs.after_cons
    (query : Query)
    (needs : Needs)
    (aggregate : Aggregate)
    (rest : List Aggregate) :
    needs.after query (aggregate :: rest) =
      (needs.after query [aggregate]).after query rest := by
  have split : aggregate :: rest = [aggregate] ++ rest := rfl
  rw [split]
  simp only [after, List.filterMap_append, addNames_append, List.any_append,
    Bool.and_or_distrib_left, Bool.or_assoc]

theorem Needs.gather_eq_ok
    {query : Query}
    {needs : Needs}
    {aggregates : List Aggregate}
    (measurable : ∀ aggregate ∈ aggregates, aggregate.Measurable) :
    needs.gather query aggregates = .ok (needs.after query aggregates) := by
  induction aggregates generalizing needs with
  | nil => simp [gather, after]
  | cons aggregate rest step =>
      rw [List.forall_mem_cons] at measurable
      simp only [gather, Needs.add_eq_ok measurable.1 query needs]
      rw [step measurable.2, ← Needs.after_cons]

/-- An accepted query has a plan. -/
theorem Plan.ofQuery_eq_ok
    {query : Query}
    (accepted : query.Accepted) :
    Plan.ofQuery query = .ok query.plan := by
  have measurable : ∀ aggregate ∈ query.aggregates, aggregate.Measurable :=
    fun aggregate member => (accepted.aggregates aggregate member).2
  rw [Plan.ofQuery, Needs.gather_eq_ok measurable]
  simp [Query.plan, Needs.after, Needs.none, Query.countedFields,
    Query.measuredFields, Query.countsTotal]

end TabularSearch
