import TabularSearch.Backend.Execution
import TabularSearch.Proofs.Aggregation.Needs

/-!
# The requests of accepted queries

A query that does not ask for distinct values is sent by its plan: it has
a request exactly if it is accepted and its condition compiles.  The rows
of a query with groups are cut here, and sorted here if the plan's
delivery leaves that open.
-/

namespace TabularSearch

namespace Filter

/-- Whether a query's filter compiles is up to its condition alone. -/
theorem exists_ofQuery
    {condition : Option Condition}
    {further : List Filter}
    {filter : Filter}
    (compiled : ofQuery condition further = .ok filter)
    (others : List Filter) :
    ∃ other, ofQuery condition others = .ok other := by
  cases condition with
  | none => exact ⟨join others, rfl⟩
  | some condition =>
      rcases map_eq_ok_iff.1 compiled with ⟨first, found, -⟩
      exact ⟨join (first :: others), map_eq_ok_iff.2 ⟨first, found, rfl⟩⟩

end Filter

/-- Only a limit above the ceiling opens a cursor. -/
theorem Window.scroll?_ofRange (limit offset : Option UInt64) :
    (ofRange limit offset).scroll? =
      if answerCeiling < limit.getD 0 then some scrollKeepAlive else none := by
  cases limit with
  | none => rfl
  | some limit =>
      by_cases zero : limit = 0
      · subst zero
        rfl
      · rw [ofRange, Option.filter_some_pos (by simpa using zero),
          Option.getD_some]
        by_cases within : limit ≤ answerCeiling
        · simp [within, UInt64.not_lt.2 within, scroll?]
        · simp [within, UInt64.not_le.1 within, scroll?]

namespace SearchRequest

theorem ofChecked_eq_ok_iff
    {query : Query}
    {request : SearchRequest} :
    ofChecked query = .ok request ↔
      query.Accepted ∧ ofQuery query = .ok request := by
  rw [← Query.check_eq_ok_iff, ofChecked]
  cases query.check <;> simp

theorem ofQuery_eq_ofPlan
    {query : Query}
    (accepted : query.Accepted)
    (undistinct : query.distinct = false) :
    ofQuery query = ofPlan query query.plan := by
  simp [ofQuery, undistinct, Plan.ofQuery_eq_ok accepted]

/-- The target and the window of a request are those of its query. -/
theorem target_of_ofQuery
    {query : Query}
    {request : SearchRequest}
    (sent : ofQuery query = .ok request) :
    request.database = query.database ∧ request.table = query.table ∧
      request.window = .ofRange query.limit query.offset := by
  rw [ofQuery] at sent
  split at sent
  · split at sent
    · cases sent
    · obtain ⟨_, -, rfl⟩ := map_eq_ok_iff.1 sent
      exact ⟨rfl, rfl, rfl⟩
  · split at sent
    · cases sent
    · obtain ⟨_, -, rfl⟩ := map_eq_ok_iff.1 sent
      exact ⟨rfl, rfl, rfl⟩

theorem segments_ne_empty
    {query : Query}
    {request : SearchRequest}
    (compiled : ofChecked query = .ok request)
    (style : PathStyle) :
    ∀ name ∈ request.segments style, name ≠ "" := by
  obtain ⟨accepted, sent⟩ := ofChecked_eq_ok_iff.1 compiled
  obtain ⟨database, table, -⟩ := target_of_ofQuery sent
  have named := accepted.database.ne_empty
  have named' := accepted.table.ne_empty
  cases style <;> simp [segments, database, table, named, named']

/-- An accepted query has a request if its condition compiles
beside any filters. -/
theorem exists_ofChecked
    {query : Query}
    (accepted : query.Accepted)
    (undistinct : query.distinct = false)
    {further : List Filter}
    {filter : Filter}
    (compiled : Filter.ofQuery query.condition further = .ok filter) :
    ∃ request, ofChecked query = .ok request := by
  rcases Filter.exists_ofQuery compiled query.plan.filters with ⟨planned, found⟩
  obtain ⟨request, sent⟩ : ∃ request, ofPlan query query.plan = .ok request :=
    ⟨_, map_eq_ok_iff.2 ⟨planned, found, rfl⟩⟩
  exact ⟨request,
    ofChecked_eq_ok_iff.2
      ⟨accepted, (ofQuery_eq_ofPlan accepted undistinct).trans sent⟩⟩

/-- What is sent for a query with groups, and what is left to do to the rows. -/
theorem ofChecked_grouped
    {query : Query}
    {request : SearchRequest}
    (compiled : ofChecked query = .ok request)
    (grouped : query.groups ≠ []) :
    query.Accepted ∧ query.distinct = false ∧
      request.aggregations = query.plan.aggregations ∧
        request.finish =
            { sortsRows := query.plan.delivery.sortsRows, pagesRows := true } ∧
          ∃ filter, Filter.ofQuery query.condition query.plan.filters =
            .ok filter := by
  rcases ofChecked_eq_ok_iff.1 compiled with ⟨accepted, sent⟩
  have aggregated : query.isAggregate = true := by
    simp [Query.isAggregate, grouped]
  have undistinct : query.distinct = false := by
    cases asked : query.distinct with
    | false => rfl
    | true => rw [(accepted.distinct asked).2] at aggregated; cases aggregated
  rw [ofQuery_eq_ofPlan accepted undistinct] at sent
  rcases map_eq_ok_iff.1 sent with ⟨filter, found, rfl⟩
  have rows : query.isPlain = false := by simp [Query.isPlain, aggregated]
  exact ⟨accepted, undistinct, rfl, by simp [rows], filter, found⟩

end SearchRequest

end TabularSearch
