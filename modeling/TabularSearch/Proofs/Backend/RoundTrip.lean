import TabularSearch.Proofs.Backend.Served
import TabularSearch.Proofs.Response.Pruned

/-!
# Rows from written buckets

Buckets that are grouped level by level and written for a plan come back as
rows: one for every way down to an innermost bucket, with the keys on the way
and the number of documents at its end.  A level's label is the name of its
result, and this name stands in one object with what the bucket around says of
itself.  So a level inside another one that is labelled like the key of a bucket
hides the key, and exactly then rows do not come back.
-/

namespace TabularSearch

open TabularSearch.Json

/-- The buckets on every way down through a number of levels, depth first. -/
def pathsDown : Nat → List Bucket → List (List Bucket)
  | 0, _ => [[]]
  | levels + 1, found =>
    found.flatMap fun bucket =>
      (pathsDown levels bucket.inner).map fun path => bucket :: path

theorem bucketPaths_whole
    (delivery : Delivery)
    (groups : List Grouping)
    (found : List Bucket) :
    bucketPaths .whole delivery groups found =
      pathsDown groups.length found := by
  induction groups generalizing found with
  | nil => rfl
  | cons group rest step =>
      rw [bucketPaths, List.length_cons, pathsDown, Listing.whole]
      apply List.flatMap_congr
      intro bucket _
      rw [step]

theorem length_of_mem_pathsDown
    {levels : Nat}
    {found path : List Bucket}
    (member : path ∈ pathsDown levels found) :
    path.length = levels := by
  induction levels generalizing found path with
  | zero =>
      rw [pathsDown, List.mem_singleton] at member
      rw [member, List.length_nil]
  | succ levels step =>
      rw [pathsDown, List.mem_flatMap] at member
      rcases member with ⟨bucket, -, inside⟩
      rcases List.mem_map.1 inside with ⟨rest, below, rfl⟩
      rw [List.length_cons, step below]

section Path

variable (delivery : Delivery) (innermost : List Aggregation)

theorem length_writtenPath
    {groups : List Grouping}
    {path : List Bucket}
    (aligned : path.length = groups.length) :
    (writtenPath .whole delivery innermost groups path).length =
      groups.length := by
  induction groups generalizing path with
  | nil => rfl
  | cons group rest step =>
      cases path with
      | nil => cases aligned
      | cons bucket path =>
          rw [writtenPath, List.length_cons, List.length_cons,
            step (Nat.succ.inj aligned)]

theorem getElem?_writtenPath
    {groups : List Grouping}
    {path : List Bucket}
    (aligned : path.length = groups.length)
    {level : Nat}
    {bucket : Bucket}
    (entered : path[level]? = some bucket) :
    (writtenPath .whole delivery innermost groups path)[level]? =
      some
        (bucket.written .whole
          (nestLevels delivery innermost (groups.drop (level + 1)))) := by
  induction groups generalizing path level with
  | nil =>
      rw [List.length_nil, List.length_eq_zero_iff] at aligned
      rw [aligned] at entered
      cases entered
  | cons group rest step =>
      cases path with
      | nil => cases aligned
      | cons first path =>
          cases level with
          | zero =>
              obtain rfl : first = bucket := Option.some.inj entered
              rfl
          | succ level =>
              rw [writtenPath, List.getElem?_cons_succ, List.drop_succ_cons]
              exact step (Nat.succ.inj aligned) entered

end Path

/-! ## The columns of a way -/

section Columns

variable {query : Query} (accepted : query.Accepted)
  (grouped : query.groups ≠ [])
  {path : List Members} (aligned : path.length = query.groups.length)
  (scope : Members)

include accepted grouped aligned

theorem isRowAt_rowAlong :
    query.IsRowAt (path.map (Prod.mk 0)) (rowAlong query scope path) := by
  have placed : (path.map (Prod.mk 0)).length = query.groups.length := by
    rw [List.length_map, aligned]
  have row := Query.isRowAt_leafRow accepted grouped placed scope
  rw [← rowAlong_map_snd, List.map_map] at row
  simpa [Function.comp_def] using row

theorem get?_rowAlong_group
    {level : Nat}
    {group : Grouping}
    {bucket : Members}
    (here : query.groups[level]? = some group)
    (entered : path[level]? = some bucket) :
    (rowAlong query scope path).get? group.label =
      some (groupKey bucket group) := by
  have row := isRowAt_rowAlong accepted grouped aligned scope
  apply row.groups level group (0, bucket) here
  rw [List.getElem?_map, entered, Option.map_some]

theorem get?_rowAlong_count
    {aggregate : Aggregate}
    (member : aggregate ∈ query.aggregates)
    (counted : aggregate.measure = .count)
    (everything : aggregate.target = .allDocuments)
    {bucket : Members}
    (last : path.getLast? = some bucket) :
    (rowAlong query scope path).get? aggregate.label =
      some (.ofWord (bucketCount bucket)) := by
  have row := isRowAt_rowAlong accepted grouped aligned scope
  rcases row.aggregates aggregate member with ⟨value, found, cell⟩
  rw [counted, everything] at cell
  cases cell with
  | documents innermost =>
      rw [List.getLast?_map, last, Option.map_some, Option.some.injEq]
        at innermost
      rw [found, ← innermost]

end Columns

/-- The row of a way: under the label of each level the key on the way, and
under the label of a count of all documents their number at the end. -/
structure Query.Returns
    (query : Query)
    (path : List Bucket)
    (row : Row) :
    Prop where
  columns : row.columns = query.labels
  keys :
    ∀ (level : Nat) group bucket,
      query.groups[level]? = some group → path[level]? = some bucket →
        row.get? group.label = some bucket.key
  counts :
    ∀ aggregate ∈ query.aggregates,
      aggregate.measure = .count → aggregate.target = .allDocuments →
        ∃ innermost,
          path.getLast? = some innermost ∧
            row.get? aggregate.label = some (.ofWord innermost.count)

section Returned

variable {query : Query} (accepted : query.Accepted)
  (grouped : query.groups ≠ [])
  {path : List Bucket} (aligned : path.length = query.groups.length)
  (scope : Members)

/-- What is asked for inside the buckets of a level. -/
def Query.askedBelow
    (query : Query)
    (level : Nat) :
    List Aggregation :=
  nestLevels query.plan.delivery
    (query.measuredFields.map Aggregation.statistics)
    (query.groups.drop (level + 1))

/-- The row that belongs to a path of buckets. -/
def Query.rowOf
    (query : Query)
    (scope : Members)
    (path : List Bucket) :
    Row :=
  rowAlong query scope
    (writtenPath .whole query.plan.delivery
      (query.measuredFields.map Aggregation.statistics) query.groups path)

theorem flattenResponse_eq_map_rowOf
    {query : Query}
    (accepted : query.Accepted)
    (grouped : query.groups ≠ [])
    {top : Bucket}
    {response : SearchResponse}
    (answered :
      response.aggregations =
        writtenResults .whole top query.plan.aggregations) :
    flattenResponse query response =
      (pathsDown query.groups.length top.inner).map
        (query.rowOf response.aggregations) := by
  rw [accepted.flattenResponse_eq_servedRows grouped answered, Query.servedRows,
    bucketPaths_whole, answered]
  rfl

include accepted grouped aligned

theorem columns_rowOf : (query.rowOf scope path).columns = query.labels := by
  have complete := length_writtenPath query.plan.delivery
    (query.measuredFields.map Aggregation.statistics) aligned
  exact (isRowAt_rowAlong accepted grouped complete scope).columns

/-- The column of a level holds the key as it is read from the bucket with all
that is written in it. -/
theorem get?_rowOf_group
    {level : Nat}
    {group : Grouping}
    {bucket : Bucket}
    (here : query.groups[level]? = some group)
    (entered : path[level]? = some bucket) :
    (query.rowOf scope path).get? group.label =
      some
        (groupKey (bucket.written .whole (query.askedBelow level)) group) := by
  apply get?_rowAlong_group accepted grouped _ scope here
  · exact getElem?_writtenPath _ _ aligned entered
  · exact length_writtenPath _ _ aligned

theorem get?_rowOf_count
    {aggregate : Aggregate}
    (member : aggregate ∈ query.aggregates)
    (counted : aggregate.measure = .count)
    (everything : aggregate.target = .allDocuments) :
    ∃ innermost,
      path.getLast? = some innermost ∧
        (query.rowOf scope path).get? aggregate.label =
          some (.ofWord innermost.count) := by
  have entered : path ≠ [] := by
    rw [← List.length_pos_iff, aligned]
    exact List.length_pos_iff.2 grouped
  have last : path[path.length - 1]? = some (path.getLast entered) := by
    rw [← List.getLast?_eq_getElem?, List.getLast?_eq_some_getLast entered]
  have bottom : query.askedBelow (path.length - 1) =
      query.measuredFields.map Aggregation.statistics := by
    rw [Query.askedBelow, Nat.sub_add_cancel (List.length_pos_iff.2 entered),
      aligned, List.drop_length, nestLevels]
  have unasked :=
    notMem_statistics (by decide : "doc_count".toList.head? ≠ some '_')
      query.measuredFields
  have written := getElem?_writtenPath query.plan.delivery
    (query.measuredFields.map Aggregation.statistics) aligned last
  have complete := length_writtenPath query.plan.delivery
    (query.measuredFields.map Aggregation.statistics) aligned
  rw [← Query.askedBelow, bottom, aligned, ← complete,
    ← List.getLast?_eq_getElem?] at written
  have counts :=
    get?_rowAlong_count accepted grouped complete scope member counted
    everything written
  rw [Bucket.bucketCount_written _ _ unasked] at counts
  exact ⟨path.getLast entered, List.getLast?_eq_some_getLast entered, counts⟩

end Returned

/-! ## Keys that are hidden -/

theorem bucketKey_eq_of_itemAt?
    {bucket : Members}
    {key : Value}
    (found : itemAt? "key" bucket = some key) :
    bucketKey bucket = key := by
  rw [bucketKey, found, Option.getD_some]

/-- The result of a level that is labelled like the key is read as the key. -/
theorem exists_groupKey_written_of_asked
    (bucket : Bucket)
    (delivery : Delivery)
    (innermost : List Aggregation)
    {below : Grouping}
    (hidden : below.label = "key")
    (rest : List Grouping)
    (field label : String) :
    ∃ members,
      groupKey
        (bucket.written .whole (nestLevels delivery innermost (below :: rest)))
          (.byField field label) =
        .object members := by
  have found :=
    itemAt?_label_resultsIn .whole bucket bucket.ownMembers delivery innermost
    below rest
  rw [hidden, ← Bucket.written] at found
  exact ⟨_, fieldKey_of_object (bucketKey_eq_of_itemAt? found)⟩

section Returned

variable {query : Query} (accepted : query.Accepted)
  (grouped : query.groups ≠ [])
  {path : List Bucket} (aligned : path.length = query.groups.length)
  (scope : Members)

include accepted grouped aligned

/-- With texts for keys, a way is returned if no level on it is
labelled like the key. -/
theorem returns_rowOf
    (fields :
      ∀ group ∈ query.groups, ∃ field label, group = .byField field label)
    (texts : ∀ bucket ∈ path, ∃ text, bucket.key = .string text)
    (apart : ∀ group ∈ query.groups.tail, group.label ≠ "key") :
    query.Returns path (query.rowOf scope path) where
  columns := columns_rowOf accepted grouped aligned scope
  keys := by
    intro level group bucket here entered
    obtain ⟨field, label, rfl⟩ := fields group (List.mem_of_getElem? here)
    obtain ⟨text, key⟩ := texts bucket (List.mem_of_getElem? entered)
    have unasked : "key" ∉ (query.askedBelow level).map Aggregation.name := by
      apply notMem_nestLevels (by decide)
      intro below next
      rw [List.head?_drop] at next
      apply apart below
      apply List.mem_of_getElem?
      rw [List.getElem?_tail, next]
    rw [get?_rowOf_group accepted grouped aligned scope here entered,
      groupKey_written key unasked]
  counts := by
    intro aggregate member counted everything
    exact get?_rowOf_count accepted grouped aligned scope member counted
      everything

/-- A text above a level that is labelled like the key is lost. -/
theorem not_returns_rowOf
    {level : Nat}
    {field label : String}
    {below : Grouping}
    (here : query.groups[level]? = some (.byField field label))
    (next : query.groups[level + 1]? = some below)
    (hidden : below.label = "key")
    {bucket : Bucket}
    {text : String}
    (entered : path[level]? = some bucket)
    (key : bucket.key = .string text) :
    ¬ query.Returns path (query.rowOf scope path) := by
  intro returns
  have shown := returns.keys level _ _ here entered
  obtain ⟨deeper, rfl⟩ := List.getElem?_eq_some_iff.1 next
  rw [get?_rowOf_group accepted grouped aligned scope here entered,
    Option.some.injEq, key, Query.askedBelow, List.drop_eq_getElem_cons deeper]
    at shown
  obtain ⟨members, hides⟩ :=
    exists_groupKey_written_of_asked bucket query.plan.delivery
    (query.measuredFields.map Aggregation.statistics) hidden
    (query.groups.drop (level + 1 + 1)) field label
  rw [hides] at shown
  cases shown

end Returned

/-- Buckets inside each other, one on each level. -/
def Bucket.chain : Nat → Bucket
  | 0 => .ofText "" 0 []
  | levels + 1 => .ofText "" 0 [chain levels]

theorem Bucket.key_chain (levels : Nat) :
    (Bucket.chain levels).key = .string "" := by
  cases levels <;> rfl

/-- Down a chain there is one way, and every key on it is the empty text. -/
theorem exists_pathsDown_chain (levels : Nat) :
    ∃ path,
      pathsDown levels (Bucket.chain levels).inner = [path] ∧
        ∀ bucket ∈ path, bucket.key = .string "" := by
  induction levels with
  | zero =>
      refine ⟨[], rfl, fun bucket member => ?_⟩
      cases member
  | succ levels step =>
      rcases step with ⟨path, only, keys⟩
      refine ⟨Bucket.chain levels :: path, ?_, ?_⟩
      · rw [Bucket.chain, Bucket.ofText, pathsDown, List.flatMap_singleton,
          only, List.map_singleton]
      · rw [List.forall_mem_cons]
        exact ⟨Bucket.key_chain levels, keys⟩

/--
Buckets with texts for keys, one level of them for each group on a field, come
back from the answer that is written of them as one row for every way down to an
innermost bucket, exactly if none of the levels inside another one is labelled
like the key of a bucket.
-/
theorem flattenResponse_returns_iff
    {query : Query}
    {plan : Plan}
    (checked : query.check = .ok ())
    (grouped : query.groups ≠ [])
    (fields :
      ∀ group ∈ query.groups, ∃ field label, group = .byField field label)
    (planned : Plan.ofQuery query = .ok plan) :
    (∀ (top : Bucket) (response : SearchResponse),
        (∀ path ∈ pathsDown query.groups.length top.inner,
          ∀ bucket ∈ path, ∃ text, bucket.key = .string text) →
          response.aggregations = writtenResults .whole top plan.aggregations →
            List.Forall₂ query.Returns (pathsDown query.groups.length top.inner)
              (flattenResponse query response)) ↔
      ∀ group ∈ query.groups.tail, group.label ≠ "key" := by
  have accepted := Query.check_eq_ok_iff.1 checked
  obtain rfl : query.plan = plan :=
    Except.ok.inj ((Plan.ofQuery_eq_ok accepted).symm.trans planned)
  constructor
  · intro returns below member hidden
    obtain ⟨level, inside⟩ := List.mem_iff_getElem?.1 member
    rw [List.getElem?_tail] at inside
    have deeper : level + 1 < query.groups.length :=
      (List.getElem?_eq_some_iff.1 inside).1
    have here : query.groups[level]? = some query.groups[level] :=
      List.getElem?_eq_getElem (by omega)
    obtain ⟨field, label, onField⟩ := fields _ (List.mem_of_getElem? here)
    rw [onField] at here
    -- One way down, and on it the level above the one labelled like the key.
    obtain ⟨path, only, keys⟩ := exists_pathsDown_chain query.groups.length
    let top := Bucket.chain query.groups.length
    let response :=
      SearchResponse.ofAggregations
        (writtenResults .whole top query.plan.aggregations)
    have aligned : path.length = query.groups.length :=
      length_of_mem_pathsDown (by rw [only]; exact List.mem_singleton_self path)
    have texts : ∀ way ∈ pathsDown query.groups.length top.inner,
        ∀ bucket ∈ way, ∃ text, bucket.key = .string text := by
      intro way within bucket entered
      rw [only, List.mem_singleton] at within
      exact ⟨"", keys bucket (within ▸ entered)⟩
    have back := returns top response texts rfl
    rw [flattenResponse_eq_map_rowOf accepted grouped rfl, only,
      List.map_singleton] at back
    have entered : path[level]? = some path[level] :=
      List.getElem?_eq_getElem (by omega)
    exact not_returns_rowOf accepted grouped aligned _ here inside hidden
      entered (keys _ (List.getElem_mem _)) (List.forall₂_cons.1 back).1
  · intro apart top response texts answered
    rw [flattenResponse_eq_map_rowOf accepted grouped answered,
      List.forall₂_map_right_iff, List.forall₂_same]
    intro path member
    exact returns_rowOf accepted grouped (length_of_mem_pathsDown member) _
      fields (texts path member) apart

/-! ## Hosts and their statuses -/

/-- Two documents at the host `a`, one of them with a status. -/
def hostTree : Bucket :=
  .ofText "" 2 [.ofText "a" 2 [.ofText "ok" 1 []]]

theorem pathsDown_hostTree :
    pathsDown 2 hostTree.inner =
      [[.ofText "a" 2 [.ofText "ok" 1 []], .ofText "ok" 1 []]] :=
  rfl

theorem exists_text_of_mem_hostTree :
    ∀ path ∈ pathsDown 2 hostTree.inner, ∀ bucket ∈ path, ∃ text,
      bucket.key = .string text := by
  intro path member bucket entered
  rw [pathsDown_hostTree, List.mem_singleton] at member
  rw [member, List.mem_pair] at entered
  rcases entered with rfl | rfl
  · exact ⟨"a", rfl⟩
  · exact ⟨"ok", rfl⟩

theorem flattenResponse_returns_hostTree :
    hostStatuses.check = .ok () ∧
      Plan.ofQuery hostStatuses = .ok hostStatuses.plan ∧
        ∀ response : SearchResponse,
          response.aggregations =
              writtenResults .whole hostTree hostStatuses.plan.aggregations →
            List.Forall₂ hostStatuses.Returns (pathsDown 2 hostTree.inner)
              (flattenResponse hostStatuses response) := by
  have checked : hostStatuses.check = .ok () := rfl
  have planned : Plan.ofQuery hostStatuses = .ok hostStatuses.plan := rfl
  have fields : ∀ group ∈ hostStatuses.groups,
      ∃ field label, group = .byField field label := by
    intro group member
    rcases List.mem_pair.1 member with rfl | rfl
    · exact ⟨_, _, rfl⟩
    · exact ⟨_, _, rfl⟩
  have returns :=
    (flattenResponse_returns_iff checked (List.cons_ne_nil _ _) fields
      planned).2
    (by decide)
  exact ⟨checked, planned, fun response answered =>
    returns hostTree response exists_text_of_mem_hostTree answered⟩

/-- The answer for hosts over statuses that are labelled like the key. -/
def hiddenHosts : SearchResponse :=
  .ofAggregations (writtenResults .whole hostTree hostKeys.plan.aggregations)

/-- The column of the hosts holds the result of the inner level,
and the host is lost. -/
theorem host_hidden_by_key_label :
    hostKeys.check = .ok () ∧ Plan.ofQuery hostKeys = .ok hostKeys.plan ∧
      (flattenResponse hostKeys hiddenHosts).map Row.entries =
        [[("host",
            .object
              [("buckets",
                .array
                  [.object
                    [("key", .string "ok"), ("doc_count", .ofWord 1)]])]),
          ("key", .string "ok")]] ∧
      ¬ List.Forall₂ hostKeys.Returns (pathsDown 2 hostTree.inner)
          (flattenResponse hostKeys hiddenHosts) := by
  have shown : (flattenResponse hostKeys hiddenHosts).map (·.get? "host") =
      [some
        (.object
          [("buckets",
            .array
              [.object [("key", .string "ok"), ("doc_count", .ofWord 1)]])])] :=
    rfl
  refine ⟨rfl, rfl, rfl, fun back => ?_⟩
  obtain ⟨row, rows⟩ : ∃ row, flattenResponse hostKeys hiddenHosts = [row] :=
    ⟨_, rfl⟩
  rw [rows, pathsDown_hostTree, List.forall₂_cons] at back
  rw [rows, List.map_singleton, List.singleton_inj] at shown
  have key := back.1.keys 0 (.byField "host" "host") _ rfl rfl
  cases key.symm.trans shown

end TabularSearch
