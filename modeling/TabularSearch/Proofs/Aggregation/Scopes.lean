import TabularSearch.Proofs.Aggregation.Needs

/-!
# The scopes of a plan

The aggregations that stand side by side make up a scope: those at the top of a
plan, and below every aggregation those that are computed inside its buckets.
In the plan of an accepted query every scope is one level of grouping, or the
statistics below the innermost level.  No name comes twice in a scope, so every
aggregation of it is sent.
-/

namespace TabularSearch

open TabularSearch.Json

/-- The aggregations side by side at a depth below the top. -/
inductive ScopeAt (top : List Aggregation) : Nat → List Aggregation → Prop where
  | top : ScopeAt top 0 top
  | inside
      {depth : Nat}
      {siblings : List Aggregation}
      {node : Aggregation}
      (above : ScopeAt top depth siblings)
      (member : node ∈ siblings) :
      ScopeAt top (depth + 1) node.children

/-! ## Scopes in the form in which they are sent -/

theorem aggregationMembers_eq_append
    {sent : Members}
    {siblings : List Aggregation}
    (distinct : (sent.map Prod.fst ++ siblings.map Aggregation.name).Nodup) :
    aggregationMembers sent siblings =
      sent ++ siblings.map fun node => (node.name, node.toValue) := by
  induction siblings generalizing sent with
  | nil => rw [aggregationMembers, List.map_nil, List.append_nil]
  | cons node rest step =>
      rcases node with ⟨name, kind, children⟩
      have fresh : name ∉ sent.map Prod.fst := fun member =>
        (List.nodup_append.1 distinct).2.2 name member name List.mem_cons_self
          rfl
      rw [aggregationMembers, putEntry_of_notMem fresh, step]
      · simp [Aggregation.name]
      · simpa [Aggregation.name] using distinct

theorem aggregationsValue_eq_object
    {siblings : List Aggregation}
    (distinct : (siblings.map Aggregation.name).Nodup) :
    aggregationsValue siblings =
      .object (siblings.map fun node => (node.name, node.toValue)) := by
  have fresh :
      (List.map Prod.fst ([] : Members) ++
        siblings.map Aggregation.name).Nodup :=
    distinct
  rw [aggregationsValue, aggregationMembers_eq_append fresh, List.nil_append]

/-! ## Levels and statistics -/

theorem statisticsName_injective : Function.Injective statisticsName :=
  fun _ _ same => (String.append_right_inj "_stats_").1 same

/-- Below the levels of grouping there is nothing but what is innermost, where
this has nothing inside. -/
theorem ScopeAt.eq_nestLevels
    {delivery : Delivery}
    {innermost siblings : List Aggregation}
    {groups : List Grouping}
    {depth : Nat}
    (leaves : ∀ node ∈ innermost, node.children = [])
    (reached : ScopeAt (nestLevels delivery innermost groups) depth siblings) :
    siblings = [] ∨
      depth ≤ groups.length ∧
        siblings = nestLevels delivery innermost (groups.drop depth) := by
  induction reached with
  | top => exact Or.inr ⟨Nat.zero_le _, rfl⟩
  | @inside depth siblings node above member step =>
      rcases step with rfl | ⟨within, rfl⟩
      · cases member
      · cases remaining : groups.drop depth with
        | nil =>
            rw [remaining, nestLevels] at member
            exact Or.inl (leaves node member)
        | cons group rest =>
            rw [remaining, nestLevels, List.mem_singleton] at member
            have below : groups.drop (depth + 1) = rest := by
              rw [← List.drop_drop, remaining, List.drop_one, List.tail_cons]
            have deeper : depth < groups.length := by
              rw [← Nat.not_le, ← List.drop_eq_nil_iff, remaining]
              exact List.cons_ne_nil _ _
            rw [member, below]
            exact Or.inr ⟨deeper, rfl⟩

namespace Query

variable {query : Query}

/-- A scope of the plan is a level, the statistics, or empty. -/
theorem scope_cases
    {depth : Nat}
    {siblings : List Aggregation}
    (reached : ScopeAt query.plan.aggregations depth siblings) :
    siblings = [] ∨
      (∃ group,
        query.groups[depth]? = some group ∧
          siblings =
            nestLevels query.plan.delivery
              (query.measuredFields.map Aggregation.statistics)
              (group :: query.groups.drop (depth + 1))) ∨
      depth = query.groups.length ∧
        siblings = query.measuredFields.map Aggregation.statistics := by
  have leaves :
      ∀ node ∈ query.measuredFields.map Aggregation.statistics,
        node.children = [] := by
    intro node member
    rcases List.mem_map.1 member with ⟨field, -, rfl⟩
    rfl
  rcases reached.eq_nestLevels leaves with rfl | ⟨within, rfl⟩
  · exact Or.inl rfl
  · rcases Nat.lt_or_eq_of_le within with deeper | rfl
    · refine Or.inr
        (Or.inl ⟨query.groups[depth], List.getElem?_eq_getElem deeper, ?_⟩)
      rw [List.drop_eq_getElem_cons deeper]
      rfl
    · exact Or.inr (Or.inr ⟨rfl, by rw [List.drop_length, nestLevels]⟩)

/-- An aggregation of the plan is a level at its depth, or
statistics below all levels. -/
theorem node_cases
    {depth : Nat}
    {siblings : List Aggregation}
    {node : Aggregation}
    (reached : ScopeAt query.plan.aggregations depth siblings)
    (member : node ∈ siblings) :
    (∃ group children,
      query.groups[depth]? = some group ∧
        node = .node group.label (group.kind query.plan.delivery) children) ∨
      depth = query.groups.length ∧
        ∃ field ∈ query.measuredFields,
          node = Aggregation.statistics field := by
  rcases scope_cases reached with rfl | ⟨group, grouped, rfl⟩ | ⟨bottom, rfl⟩
  · cases member
  · rw [nestLevels, List.mem_singleton] at member
    exact Or.inl ⟨group, _, grouped, member⟩
  · rcases List.mem_map.1 member with ⟨field, measured, rfl⟩
    exact Or.inr ⟨bottom, field, measured, rfl⟩

/-- No name comes twice in a scope of the plan. -/
theorem nodup_names
    {depth : Nat}
    {siblings : List Aggregation}
    (reached : ScopeAt query.plan.aggregations depth siblings) :
    (siblings.map Aggregation.name).Nodup := by
  rcases scope_cases reached with rfl | ⟨group, -, rfl⟩ | ⟨-, rfl⟩
  · exact List.nodup_nil
  · exact List.nodup_singleton _
  · rw [List.map_map]
    exact (nodup_measuredFields query).map statisticsName_injective

end Query

end TabularSearch
