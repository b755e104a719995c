import TabularSearch.Proofs.Aggregation.Sent
import TabularSearch.Proofs.Filter.Sent
import TabularSearch.Proofs.Request.Planned

/-!
# Requests as they are sent

The body of a request leaves out what is empty or not asked for, and writes its
aggregations as members under the names that the caller chose.  The requests of
accepted queries have no name twice in a scope, so the main statement holds: two
of them have one body exactly if they ask for the same window, fields, order,
count, filter and aggregations.
-/

namespace TabularSearch

open TabularSearch.Json

/-! ## Members of a body -/

theorem itemAt?_memberIf
    (key name : String)
    (condition : Bool)
    (value : Value) :
    itemAt? key (SearchRequest.memberIf condition name value) =
      if name = key ∧ condition = true then some value else none := by
  cases condition <;> simp [SearchRequest.memberIf, itemAt?]

namespace SearchRequest

/-- What a body shows of each part of a request, by the names of the parts. -/
structure ShownBy (request : SearchRequest) (body : Value) : Prop where
  start : body.get? "from" = some (.ofWord request.window.start)
  size : body.get? "size" = some (.ofWord request.window.size)
  source :
    body.get? "_source" = request.source.map fun fields =>
      .array (fields.map .string)
  sort : body.get? "sort" = listItem? (request.sort.map sortValue)
  totalHits :
    body.get? "track_total_hits" = if request.totalHits then some (.bool true)
      else none
  filter : body.get? "query" = some request.filter.toValue
  aggregations :
    body.get? "aggs" =
      if request.aggregations.isEmpty then none
      else some (aggregationsValue request.aggregations)

theorem shownBy_body (request : SearchRequest) :
    request.ShownBy request.body := by
  rcases request with
    ⟨database, table, window, source, sort, totalHits, filter, nodes, finish⟩
  have sorted :
      (if sort.isEmpty then none else some (Value.array (sort.map sortValue))) =
        listItem? (sort.map sortValue) := by
    cases sort <;> rfl
  cases source with
  | none =>
      constructor <;>
        simp [body, Value.get?, itemAt?_append, itemAt?_memberIf, itemAt?,
          ← sorted]
  | some fields =>
      constructor <;>
        simp [body, Value.get?, itemAt?_append, itemAt?_memberIf, itemAt?,
          ← sorted]

theorem sortValue_injective : Function.Injective sortValue := by
  rintro ⟨key, direction⟩ ⟨other, otherDirection⟩ same
  simp_all [sortValue, Filter.single, Direction.word_injective.eq_iff]

/-- The parts of a request that its body is about. -/
structure Alike (left right : SearchRequest) : Prop where
  start : left.window.start = right.window.start
  size : left.window.size = right.window.size
  source : left.source = right.source
  sort : left.sort = right.sort
  totalHits : left.totalHits = right.totalHits
  filter : left.filter = right.filter
  aggregations : left.aggregations = right.aggregations

theorem Alike.body_eq
    {left right : SearchRequest}
    (alike : left.Alike right) :
    left.body = right.body := by
  rw [body, body, alike.start, alike.size, alike.source, alike.sort,
    alike.totalHits, alike.filter, alike.aggregations]

theorem ShownBy.alike
    {left right : SearchRequest}
    {body : Value}
    (shown : left.ShownBy body)
    (other : right.ShownBy body)
    (apart : NamesApart left.aggregations)
    (otherApart : NamesApart right.aggregations) :
    left.Alike right where
  start := ofWord_inj.1 (Option.some.inj (shown.start.symm.trans other.start))
  size := ofWord_inj.1 (Option.some.inj (shown.size.symm.trans other.size))
  source := by
    have same := shown.source.symm.trans other.source
    refine Option.map_injective (fun fields others equal => ?_) same
    exact List.map_injective_iff.2 (fun _ _ => Value.string.inj)
      (Value.array.inj equal)
  sort := by
    have same := listItem?_injective (shown.sort.symm.trans other.sort)
    exact List.map_injective_iff.2 sortValue_injective same
  totalHits := by
    have same := shown.totalHits.symm.trans other.totalHits
    cases first : left.totalHits <;> cases second : right.totalHits <;> simp_all
  filter :=
    Filter.toValue_injective
      (Option.some.inj (shown.filter.symm.trans other.filter))
  aggregations := by
    have same := shown.aggregations.symm.trans other.aggregations
    cases first : left.aggregations <;> cases second : right.aggregations
    · rfl
    · simp [first, second] at same
    · simp [first, second] at same
    · rw [← first, ← second]
      refine eq_of_aggregationsValue apart otherApart ?_
      simpa [first, second] using same

theorem namesApart_leaf
    (name : String)
    (kind : AggregationKind) :
    NamesApart [.node name kind []] := by
  intro depth siblings reached
  have leaves :
      ∀ node ∈ [Aggregation.node name kind []], node.children = [] := by
    intro node member
    rw [List.mem_singleton.1 member, Aggregation.children]
  have unnested :
      nestLevels (Delivery.ofQuery default) [.node name kind []] [] =
      [.node name kind []] :=
    rfl
  rw [← unnested] at reached
  have bare := ScopeAt.eq_nestLevels leaves reached
  rw [List.drop_nil, unnested] at bare
  rcases bare with rfl | ⟨-, rfl⟩
  · exact List.nodup_nil
  · exact List.nodup_singleton _

/-- No name comes twice in a scope of what is sent for an accepted query. -/
theorem namesApart_of_ofChecked
    {query : Query}
    {request : SearchRequest}
    (compiled : ofChecked query = .ok request) :
    NamesApart request.aggregations := by
  rcases ofChecked_eq_ok_iff.1 compiled with ⟨accepted, sent⟩
  cases asked : query.distinct with
  | false =>
      rw [ofQuery_eq_ofPlan accepted asked] at sent
      rcases map_eq_ok_iff.1 sent with ⟨filter, -, rfl⟩
      exact fun depth siblings => Query.nodup_names
  | true =>
      rw [ofQuery, if_pos asked] at sent
      split at sent
      · cases sent
      · rcases map_eq_ok_iff.1 sent with ⟨filter, -, rfl⟩
        exact namesApart_leaf _ _

end SearchRequest

/--
Two queries that are accepted have one body, member by member and number by
number, exactly if their requests ask for the same: the window's start and size,
the fields of documents, the order, the exact count, the whole filter and the
whole tree of aggregations.
-/
theorem body_eq_iff_alike
    {query other : Query}
    {request another : SearchRequest}
    (compiled : SearchRequest.ofChecked query = .ok request)
    (otherCompiled : SearchRequest.ofChecked other = .ok another) :
    request.body = another.body ↔ request.Alike another := by
  constructor
  · intro same
    have shown := another.shownBy_body
    rw [← same] at shown
    exact request.shownBy_body.alike shown
      (SearchRequest.namesApart_of_ofChecked compiled)
      (SearchRequest.namesApart_of_ofChecked otherCompiled)
  · exact SearchRequest.Alike.body_eq

/-- The mean latency of each host in a month, for warnings in
a table of events. -/
def monthlyLatency : Query :=
  { Query.ofTable "logs" "events" with
    condition := some (.any [.compare "level" .equal (.text "warn"), .all []])
    aggregates :=
      [{ label := "mean", measure := .average, target := .field "latency" }]
    groups := [.byTime "ts" "month" .month, .byField "host" "host"] }

/-- The same of another table with a limit at the ceiling has the same body,
although it is sent elsewhere. -/
theorem body_eq_iff_alike_monthlyLatency :
    ∃ request another,
      SearchRequest.ofChecked monthlyLatency = .ok request ∧
        SearchRequest.ofChecked
            { monthlyLatency with table := "old", limit := some 10000 } =
          .ok another ∧
        request.body = another.body ∧ request.Alike another ∧
          request.table ≠ another.table := by
  have compiled : SearchRequest.ofChecked monthlyLatency = .ok _ := rfl
  have otherCompiled :
      SearchRequest.ofChecked
          { monthlyLatency with table := "old", limit := some 10000 } =
        .ok _ :=
    rfl
  have alike := (body_eq_iff_alike compiled otherCompiled).1 rfl
  exact ⟨_, _, compiled, otherCompiled, rfl, alike, by decide⟩

end TabularSearch
