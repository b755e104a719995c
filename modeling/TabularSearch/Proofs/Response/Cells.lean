import TabularSearch.Proofs.Query.Acceptance
import TabularSearch.Response.Flatten

/-!
# The cells of flattened rows

The labels of an accepted query are different from each other, so every row
of its answer has exactly these columns, and under each label the value
that was computed for it.
-/

namespace TabularSearch

open TabularSearch.Json

theorem Row.get?_ofList
    {pairs : Members}
    {column : String}
    {value : Value}
    (distinct : (pairs.map Prod.fst).Nodup)
    (member : (column, value) ∈ pairs) :
    (Row.ofList pairs).get? column = some value := by
  rw [Row.get?, Row.entries_ofList distinct]
  exact itemAt?_of_mem distinct member

/-- What a measure comes to where the backend has no statistic for it. -/
def Measure.absent : Measure → Value
  | .count | .sum => .ofWord 0
  | _ => .null

theorem measureValue_eq
    (aggregate : Aggregate)
    (scope : Members) :
    measureValue aggregate scope =
      ((aggregate.target.field?.bind fun field =>
        statisticOf? scope (statisticsName field) aggregate.measure.word).getD
          aggregate.measure.absent) := by
  unfold measureValue
  split
  · rename_i found
    rw [found, Option.getD_some]
  · rename_i missing
    rw [missing, Option.getD_none]
    cases aggregate.measure <;> rfl

namespace Query.Accepted

variable {query : Query} (accepted : query.Accepted)

include accepted

theorem distinct_eq_false (aggregated : query.isAggregate = true) :
    query.distinct = false := by
  cases asked : query.distinct with
  | false => rfl
  | true => rw [(accepted.distinct asked).2] at aggregated; cases aggregated

/-- A query with groups is answered level by level. -/
theorem flattenResponse_eq_flattenLevels
    (grouped : query.groups ≠ [])
    (response : SearchResponse) :
    flattenResponse query response =
      flattenLevels query [] response.aggregations query.groups := by
  have aggregated : query.isAggregate = true := by
    simp [Query.isAggregate, grouped]
  have alone := accepted.distinct_eq_false aggregated
  simp [flattenResponse, Query.isPlain, aggregated, alone, grouped]

/-- A query with aggregates but without groups is answered by one row. -/
theorem flattenResponse_eq_totalsRow
    (ungrouped : query.groups = [])
    (measured : query.aggregates ≠ [])
    (response : SearchResponse) :
    flattenResponse query response = [totalsRow query response] := by
  have aggregated : query.isAggregate = true := by
    simp [Query.isAggregate, measured]
  have alone := accepted.distinct_eq_false aggregated
  simp [flattenResponse, Query.isPlain, aggregated, alone, ungrouped]

end Query.Accepted

/-! ## The row of all matching documents -/

/-- The value of an aggregate over all matching documents. -/
def totalValue
    (response : SearchResponse)
    (aggregate : Aggregate) :
    Value :=
  match aggregate.measure with
  | .count => .ofWord response.total
  | _ => measureValue aggregate response.aggregations

theorem totalValue_eq_measureValue
    {aggregate : Aggregate}
    (uncounted : aggregate.measure ≠ .count)
    (response : SearchResponse) :
    totalValue response aggregate =
      measureValue aggregate response.aggregations := by
  unfold totalValue
  split
  · contradiction
  · rfl

theorem totalsRow_eq_ofList
    (query : Query)
    (response : SearchResponse) :
    totalsRow query response =
      Row.ofList
        (query.aggregates.map fun aggregate =>
          (aggregate.label, totalValue response aggregate)) :=
  rfl

theorem get?_totalsRow
    {query : Query}
    (accepted : query.Accepted)
    {aggregate : Aggregate}
    (member : aggregate ∈ query.aggregates)
    (response : SearchResponse) :
    (totalsRow query response).get? aggregate.label =
      some (totalValue response aggregate) := by
  have distinct : (query.aggregates.map Aggregate.label).Nodup :=
    (List.nodup_append.1 accepted.labels).2.1
  rw [totalsRow_eq_ofList]
  apply Row.get?_ofList
  · rw [List.map_map]
    exact distinct
  · exact List.mem_map_of_mem member

/-! ## The row of an innermost bucket -/

section Leaf

variable {query : Query} {steps : List Step}

theorem leafValue_eq_measureValue
    {aggregate : Aggregate}
    (uncounted : aggregate.measure ≠ .count)
    (groups : List Grouping)
    (steps : List Step)
    (scope : Members) :
    leafValue groups steps scope aggregate = measureValue aggregate scope := by
  unfold leafValue
  split
  · contradiction
  · contradiction
  · rfl

/-- The cells of a row: those of the groups, then those of the aggregates. -/
def leafPairs
    (query : Query)
    (steps : List Step)
    (scope : Members) :
    Members :=
  (query.groups.zip steps).map (fun level => (level.1.label, level.2.key)) ++
    query.aggregates.map fun aggregate =>
      (aggregate.label, leafValue query.groups steps scope aggregate)

theorem map_fst_leafPairs
    (aligned : steps.length = query.groups.length)
    (scope : Members) :
    (leafPairs query steps scope).map Prod.fst = query.labels := by
  have levels :
      (query.groups.zip steps).map (Grouping.label ∘ Prod.fst) =
        query.groups.map Grouping.label := by
    rw [← List.map_map, List.map_fst_zip (by omega)]
  simp only [leafPairs, List.map_append, List.map_map]
  exact congrArg (· ++ query.aggregates.map Aggregate.label) levels

theorem columns_leafRow
    (accepted : query.Accepted)
    (aligned : steps.length = query.groups.length)
    (scope : Members) :
    (leafRow query steps scope).columns = query.labels := by
  have names := map_fst_leafPairs aligned scope
  have distinct : ((leafPairs query steps scope).map Prod.fst).Nodup :=
    names ▸ accepted.labels
  rw [← names, Row.columns, leafRow, ← leafPairs, Row.entries_ofList distinct]

theorem get?_leafRow_of_mem
    (accepted : query.Accepted)
    (aligned : steps.length = query.groups.length)
    {scope : Members}
    {column : String}
    {value : Value}
    (member : (column, value) ∈ leafPairs query steps scope) :
    (leafRow query steps scope).get? column = some value := by
  have distinct : ((leafPairs query steps scope).map Prod.fst).Nodup :=
    map_fst_leafPairs aligned scope ▸ accepted.labels
  exact Row.get?_ofList distinct member

theorem get?_leafRow_group
    (accepted : query.Accepted)
    (aligned : steps.length = query.groups.length)
    (scope : Members)
    {level : Nat}
    {group : Grouping}
    {step : Step}
    (grouped : query.groups[level]? = some group)
    (taken : steps[level]? = some step) :
    (leafRow query steps scope).get? group.label = some step.key := by
  have paired : (group, step) ∈ query.groups.zip steps :=
    List.mem_of_getElem? (List.getElem?_zip_eq_some.2 ⟨grouped, taken⟩)
  exact get?_leafRow_of_mem accepted aligned
    (List.mem_append_left _ (List.mem_map.2 ⟨(group, step), paired, rfl⟩))

theorem get?_leafRow_aggregate
    (accepted : query.Accepted)
    (aligned : steps.length = query.groups.length)
    (scope : Members)
    {aggregate : Aggregate}
    (member : aggregate ∈ query.aggregates) :
    (leafRow query steps scope).get? aggregate.label =
      some (leafValue query.groups steps scope aggregate) :=
  get?_leafRow_of_mem accepted aligned
    (List.mem_append_right _ (List.mem_map.2 ⟨aggregate, member, rfl⟩))

end Leaf

end TabularSearch
