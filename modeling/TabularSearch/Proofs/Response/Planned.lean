import TabularSearch.Proofs.Response.Pruned

/-!
# Plans and rows

A plan is made from a query, and so are the rows from an answer, each on its
own.  Both find the same aggregations: a planned level is one that the paths of
all rows go through, at the depth where it was planned, and planned statistics
are those that a column is read from.
-/

namespace TabularSearch

open TabularSearch.Json

namespace Query

/-- In every row of every answer, the column of an aggregate is read from the
statistics with a name at the end of the row's path. -/
def ReadsStatistics
    (query : Query)
    (aggregate : Aggregate)
    (name : String) :
    Prop :=
  ∀ response : SearchResponse,
    List.Forall₂
      (fun path row =>
        row.get? aggregate.label =
          some
            ((statisticOf? (endOf response.aggregations path) name
              aggregate.measure.word).getD aggregate.measure.absent))
      (pathsFrom response.aggregations query.groups)
      (flattenResponse query response)

/-- The path of every row of every answer goes at a depth into a
bucket of the aggregation with a name, and the column of the level
holds the key of this bucket. -/
def Descends
    (query : Query)
    (depth : Nat)
    (group : Grouping)
    (name : String) :
    Prop :=
  ∀ response : SearchResponse,
    List.Forall₂
      (fun path row =>
        ∃ place bucket,
          path[depth]? = some (place, bucket) ∧
            BucketAt (endOf response.aggregations (path.take depth)) name
                place bucket ∧
              row.get? group.label = some (groupKey bucket group))
      (pathsFrom response.aggregations query.groups)
      (flattenResponse query response)

end Query

/-- A path has a bucket at every level, inside the buckets above. -/
theorem PathAt.bucketAt
    {scope : Members}
    {groups : List Grouping}
    {path : List (Nat × Members)}
    (reached : PathAt scope groups path)
    {depth : Nat}
    {group : Grouping}
    (grouped : groups[depth]? = some group) :
    ∃ place bucket,
      path[depth]? = some (place, bucket) ∧
        BucketAt (endOf scope (path.take depth)) group.label place bucket := by
  induction reached generalizing depth with
  | ends scope => cases grouped
  | @enters scope bucket top rest place path first others step =>
      cases depth with
      | zero =>
          obtain rfl : top = group := Option.some.inj grouped
          exact ⟨place, bucket, rfl, first⟩
      | succ depth =>
          rcases step grouped with ⟨below, inner, entered, here⟩
          refine ⟨below, inner, entered, ?_⟩
          rw [List.take_succ_cons, endOf_cons]
          exact here

namespace Query.Accepted

variable {query : Query} (accepted : query.Accepted)

include accepted

theorem descends
    {depth : Nat}
    {group : Grouping}
    (grouped : query.groups[depth]? = some group) :
    query.Descends depth group group.label := by
  intro response
  have levels : query.groups ≠ [] :=
    List.ne_nil_of_mem (List.mem_of_getElem? grouped)
  rw [flattenResponse_eq_map accepted levels, List.forall₂_map_right_iff,
    List.forall₂_same]
  intro path member
  have reached := mem_pathsFrom.1 member
  rcases reached.bucketAt grouped with ⟨place, bucket, entered, here⟩
  have row :=
    Query.isRowAt_leafRow accepted levels reached.length_eq
      response.aggregations
  exact ⟨place, bucket, entered, here,
    row.groups depth group (place, bucket) grouped entered⟩

/-- What is measured is read from the statistics of its field, with groups in
the innermost bucket, and without groups at the top. -/
theorem readsStatistics
    {aggregate : Aggregate}
    (member : aggregate ∈ query.aggregates)
    {field : String}
    (measured : query.measuredField? aggregate = some field) :
    query.ReadsStatistics aggregate (statisticsName field) := by
  intro response
  rcases Query.measuredField?_eq_some measured with ⟨target, counts⟩
  have value (scope : Members) : measureValue aggregate scope =
      (statisticOf? scope (statisticsName field) aggregate.measure.word).getD
        aggregate.measure.absent := by
    rw [measureValue_eq, target, Target.field?, Option.bind_some]
  by_cases ungrouped : query.groups = []
  · have uncounted : aggregate.measure ≠ .count :=
      fun counted => (counts counted).1 ungrouped
    have cell := get?_totalsRow accepted member response
    rw [totalValue_eq_measureValue uncounted, value] at cell
    rw [accepted.flattenResponse_eq_totalsRow ungrouped
      (List.ne_nil_of_mem member), ungrouped, pathsFrom]
    exact .cons cell .nil
  · rw [flattenResponse_eq_map accepted ungrouped, List.forall₂_map_right_iff,
      List.forall₂_same]
    intro path within
    have complete := length_stepsOf (mem_pathsFrom.1 within).length_eq
    rw [get?_leafRow_aggregate accepted complete _ member,
      leafValue_of_measured measured, value]

end Query.Accepted

/--
Of the plan of an accepted query with groups or aggregates, every scope is sent
whole.  What the plan does not ask for can be deleted from every answer, exactly
if no level on a field is directly above one that is labelled like the key of a
bucket.  Statistics are planned only below all levels, and only where a column
is read from them; anything else that is planned is a level that the paths of
all rows go through at the same depth.
-/
theorem plan_agrees_with_rows
    {query : Query}
    {plan : Plan}
    (checked : query.check = .ok ())
    (aggregated : query.isAggregate = true)
    (planned : Plan.ofQuery query = .ok plan) :
    (∀ depth siblings, ScopeAt plan.aggregations depth siblings →
        (siblings.map Aggregation.name).Nodup ∧
          aggregationsValue siblings =
            .object (siblings.map fun node => (node.name, node.toValue))) ∧
      ((∀ response,
          flattenResponse query (response.pruned plan) =
            flattenResponse query response) ↔
        KeysApart query.groups) ∧
      ∀ depth siblings node,
        ScopeAt plan.aggregations depth siblings → node ∈ siblings →
          (∃ field, node.kind = .statistics field ∧
            depth = query.groups.length ∧
              ∃ aggregate ∈ query.aggregates,
                aggregate.target = .field field ∧
                  query.ReadsStatistics aggregate node.name) ∨
          ∃ group, query.groups[depth]? = some group ∧
            node.kind = group.kind plan.delivery ∧
            query.Descends depth group node.name := by
  have accepted := Query.check_eq_ok_iff.1 checked
  obtain rfl : query.plan = plan :=
    Except.ok.inj ((Plan.ofQuery_eq_ok accepted).symm.trans planned)
  refine ⟨fun depth siblings reached => ?_,
    flattenResponse_pruned_iff accepted aggregated,
    fun depth siblings node reached member => ?_⟩
  · have distinct := Query.nodup_names reached
    exact ⟨distinct, aggregationsValue_eq_object distinct⟩
  · rcases Query.node_cases reached member with
      ⟨group, children, grouped, rfl⟩ | ⟨bottom, field, measured, rfl⟩
    · exact Or.inr ⟨group, grouped, rfl, accepted.descends grouped⟩
    · rcases Query.mem_measuredFields.1 measured with ⟨aggregate, within, read⟩
      exact Or.inl ⟨field, rfl, bottom, aggregate, within,
        (Query.measuredField?_eq_some read).1,
        accepted.readsStatistics within read⟩

theorem plan_agrees_with_rows_hostStatuses :
    hostStatuses.check = .ok () ∧ hostStatuses.isAggregate = true ∧
      ∃ plan,
        Plan.ofQuery hostStatuses = .ok plan ∧
          (∀ response,
            flattenResponse hostStatuses (response.pruned plan) =
              flattenResponse hostStatuses response) ∧
            ∀ siblings, ScopeAt plan.aggregations 2 siblings →
              (siblings.map Aggregation.name).Nodup := by
  have checked : hostStatuses.check = .ok () := rfl
  have planned : Plan.ofQuery hostStatuses = .ok hostStatuses.plan := rfl
  have apart : KeysApart hostStatuses.groups :=
    List.isChain_cons_cons.2 ⟨fun _ _ _ => by decide, List.isChain_singleton _⟩
  rcases plan_agrees_with_rows checked rfl planned with ⟨scopes, unread, -⟩
  exact ⟨checked, rfl, _, planned, unread.2 apart,
    fun siblings reached => (scopes 2 siblings reached).1⟩

end TabularSearch
