import TabularSearch.Proofs.Backend.Pages
import TabularSearch.Proofs.Response.Rearranged
import TabularSearch.Proofs.Rows.Order

/-!
# Rows of buckets in any order

A query that is sorted here, and of which no two rows are equal on all sort
keys, has the same rows however the buckets of its levels are listed: sorting
forgets the order, and whatever is inside objects is not looked at.  Objects
come into rows only where a level on a field is directly above one that is
labelled like the key of a bucket; there they are copied as they are, and with
them the order of their buckets.
-/

namespace TabularSearch

open TabularSearch.Json

/-! ## Finishing veiled rows -/

section Veiled

variable (columns : List String)

theorem comparePresent_veilValue (left right : Value) :
    comparePresent (veilValue left) (veilValue right) =
      comparePresent left right := by
  cases left <;> cases right <;> rfl

theorem filter_map_veilValue (cell : Option Value) :
    (cell.map veilValue).filter (fun value => !value.isNull) =
      (cell.filter fun value => !value.isNull).map veilValue := by
  cases cell with
  | none => rfl
  | some value => cases value <;> rfl

theorem compareCells_veilValue
    (direction : Direction)
    (left right : Option Value) :
    compareCells direction (left.map veilValue) (right.map veilValue) =
      compareCells direction left right := by
  rw [compareCells_eq_compareLast, compareCells_eq_compareLast,
    filter_map_veilValue, filter_map_veilValue]
  cases left.filter fun value => !value.isNull with
  | none => cases right.filter fun value => !value.isNull <;> rfl
  | some first =>
      cases right.filter fun value => !value.isNull with
      | none => rfl
      | some second => cases direction <;> exact comparePresent_veilValue _ _

theorem compareRows_veiled
    (keys : List SortKey)
    (left right : Row) :
    compareRows keys (left.veiled columns) (right.veiled columns) =
      compareRows keys left right := by
  induction keys with
  | nil => rfl
  | cons key rest step =>
      rw [compareRows, compareRows, step, Row.get?_veiled, Row.get?_veiled]
      by_cases veiled : key.key ∈ columns
      · simp only [veilCell, veiled, if_true]
        exact congrArg (Ordering.then · _) (compareCells_veilValue _ _ _)
      · simp only [veilCell, veiled, if_false, Option.map_id']

variable (query : Query) (rows : List Row)

theorem resolveKeys_map_veiled :
    resolveKeys query (rows.map (Row.veiled columns)) =
      resolveKeys query rows := by
  have kept (column : String) :
      (fun row : Row => row.contains column) ∘ Row.veiled columns =
        fun row => row.contains column := by
    funext row
    rw [Function.comp_apply, Bool.eq_iff_iff, Row.contains_iff,
      Row.contains_iff, Row.columns_veiled]
  simp only [resolveKeys, resolveKey, List.any_map, kept]

theorem map_veiled_sortRows :
    (sortRows query rows).map (Row.veiled columns) =
      sortRows query (rows.map (Row.veiled columns)) := by
  simp only [sortRows, resolveKeys_map_veiled]
  apply List.map_mergeSort
  intro left _ right _
  rw [compareRows_veiled]

theorem separated_map_veiled
    {query : Query}
    {rows : List Row}
    (separated : Separated query rows) :
    Separated query (rows.map (Row.veiled columns)) := by
  rw [Separated, resolveKeys_map_veiled, List.pairwise_map]
  simp only [compareRows_veiled]
  exact separated

theorem map_pageRows (change : Row → Row) :
    (pageRows query rows).map change = pageRows query (rows.map change) := by
  unfold pageRows
  cases query.rowLimit with
  | none => exact List.map_drop
  | some limit => simp only [List.map_take, List.map_drop]

end Veiled

/-- Rows that are the same up to their order and what is veiled
are so on every page. -/
theorem map_veiled_finishRows_eq
    {query : Query}
    {rows others : List Row}
    {columns : List String}
    (sorted : query.sort ≠ [])
    (separated : Separated query rows)
    (same :
      (rows.map (Row.veiled columns)).Perm (others.map (Row.veiled columns))) :
    (finishRows query { sortsRows := true, pagesRows := true } rows).map
        (Row.veiled columns) =
      (finishRows query { sortsRows := true, pagesRows := true } others).map
        (Row.veiled columns) := by
  have finish (rows : List Row) :
      finishRows query { sortsRows := true, pagesRows := true } rows =
        pageRows query (sortRows query rows) := by
    simp [finishRows, sorted]
  rw [finish, finish, map_pageRows, map_pageRows, map_veiled_sortRows,
    map_veiled_sortRows,
    sortRows_eq_of_perm (separated_map_veiled columns separated) same]

/-! ## Two answers -/

/-- A request whose rows are sorted here, answered by two backends with the same
buckets in two orders, where no two rows are equal on all sort keys. -/
structure Rearrangement
    (query : Query)
    (request : SearchRequest)
    (one other : Backend)
    (first second : SearchResponse) :
    Prop where
  compiled : SearchRequest.ofChecked query = .ok request
  sortedHere : request.finish.sortsRows = true
  before : one.search request = .ok first
  after : other.search request = .ok second
  moved : Rearranged query.groups first.aggregations second.aggregations
  separated : Separated query (flattenResponse query first)

theorem Delivery.sort_ne_nil
    {query : Query}
    (sorted : (Delivery.ofQuery query).sortsRows = true) :
    query.sort ≠ [] := by
  intro unsorted
  have target : SortTarget.ofQuery query = .unsorted := by
    rw [SortTarget.ofQuery, unsorted]
  rw [Delivery.ofQuery, target] at sorted
  unfold Delivery.decide at sorted
  split at sorted <;> simp_all

section Rearrangement

variable {query : Query} {request : SearchRequest} {one other : Backend}
  {first second : SearchResponse}

/-- Both answers have the same rows, up to what is inside objects in columns
that show the result of a level. -/
theorem Rearrangement.exists_rowsOf
    (grouped : query.groups ≠ [])
    (rearrangement : Rearrangement query request one other first second) :
    ∃ rows others,
      one.rowsOf query = .ok rows ∧ other.rowsOf query = .ok others ∧
        rows.map (Row.veiled (shadowedLabels query.groups)) =
          others.map (Row.veiled (shadowedLabels query.groups)) := by
  rcases rearrangement with
    ⟨compiled, sortedHere, before, after, moved, separated⟩
  rcases SearchRequest.ofChecked_grouped compiled grouped with
    ⟨accepted, -, -, finish, -⟩
  rw [finish] at sortedHere
  have here : query.plan.delivery.sortsRows = true := sortedHere
  have sorted : query.sort ≠ [] := Delivery.sort_ne_nil here
  refine ⟨_, _, Backend.rowsOf_eq_finishRows compiled before,
    Backend.rowsOf_eq_finishRows compiled after, ?_⟩
  rw [finish, here]
  apply map_veiled_finishRows_eq sorted separated
  rw [accepted.flattenResponse_eq_flattenLevels grouped,
    accepted.flattenResponse_eq_flattenLevels grouped]
  have levels : query.groups = [] ++ query.groups := rfl
  exact map_veiled_flattenLevels_perm query _ levels (List.Subset.refl _) rfl
    rfl rfl moved

theorem Rearrangement.rowsOf_eq
    (grouped : query.groups ≠ [])
    (apart : KeysApart query.groups)
    (rearrangement : Rearrangement query request one other first second) :
    one.rowsOf query = other.rowsOf query := by
  rcases rearrangement.exists_rowsOf grouped with
    ⟨rows, others, before, after, same⟩
  have unveiled : Row.veiled [] = id := funext Row.veiled_nil
  rw [shadowedLabels_eq_nil_iff.2 apart, unveiled, List.map_id, List.map_id]
    at same
  rw [before, after, same]

end Rearrangement

/-! ## Results that are shown -/

section Mixed

variable {query : Query}

/-- A bucket whose key is the result of a level, with one
bucket and something else. -/
def keyedBucket (elements : List Value) : Members :=
  [("key", .object [("buckets", .array elements)])]

theorem flattenLevels_keyedBucket
    {below : Grouping}
    (key : below.label = "key")
    (more : List Grouping)
    (steps : List Step)
    {bucket : Members}
    {elements : List Value}
    (single : elements.filterMap Value.asObject? = [bucket]) :
    flattenLevels query steps (keyedBucket elements) (below :: more) =
      flattenLevels query
        (steps ++
          [{ key := groupKey bucket below, count := bucketCount bucket }])
            bucket more := by
  have buckets : bucketsOf (keyedBucket elements) below.label = [bucket] := by
    rw [key, bucketsOf, keyedBucket]
    simpa [itemAt?, Value.get?, Value.asArray?] using single
  rw [flattenLevels, buckets, List.flatMap_singleton]

/-- Scopes with nothing but the result of a level. -/
theorem rearranged_of_elements
    {group : Grouping}
    {rest : List Grouping}
    {lefts between rights : List Value}
    (order : lefts.Perm between)
    (pairs :
      List.Forall₂ (ElementRearranged (Rearranged rest)) between rights) :
    Rearranged (group :: rest)
      [(group.label, .object [("buckets", .array lefts)])]
      [(group.label, .object [("buckets", .array rights)])] := by
  constructor
  · intro name different
    simp only [itemAt?, different.symm, if_false]
  · simp only [itemAt?, if_true]
    refine .moved ?_ rfl rfl order pairs
    intro name different
    simp only [itemAt?, different.symm, if_false]

/-- Two scopes with the same buckets in two orders that have one row each, and
not the same, whatever levels have been entered before. -/
structure ShowsOrder
    (query : Query)
    (groups : List Grouping)
    (first second : Members) :
    Prop where
  moved : Rearranged groups first second
  rows :
    ∀ steps others : List Step,
      query.groups.drop steps.length = groups → steps.length = others.length →
        (flattenLevels query steps first groups).length = 1 ∧
          (flattenLevels query others second groups).length = 1 ∧
            flattenLevels query steps first groups ≠
              flattenLevels query others second groups

/-- A level on a field shows the result of the level below where that is
labelled like the key. -/
theorem exists_showsOrder_of_key
    (accepted : query.Accepted)
    (field label : String)
    {below : Grouping}
    (key : below.label = "key")
    (more : List Grouping) :
    ∃ first second,
      ShowsOrder query (.byField field label :: below :: more) first
        second := by
  let inner : Value := .object (nestedBuckets more)
  let left := keyedBucket [inner, .null]
  let right := keyedBucket [.null, inner]
  have inside : Rearranged (below :: more) left right := by
    have moved : Rearranged (below :: more)
        [(below.label, .object [("buckets", .array [inner, .null])])]
        [(below.label, .object [("buckets", .array [.null, inner])])] :=
      rearranged_of_elements (List.Perm.swap _ _ _)
        (List.forall₂_same.2 fun _ _ => .same _)
    rwa [key] at moved
  have one (elements : List Value) (steps : List Step)
      (single : elements.filterMap Value.asObject? = [nestedBuckets more]) :
      (flattenLevels query steps (keyedBucket elements)
        (below :: more)).length = 1 := by
    rw [flattenLevels_keyedBucket key more steps single]
    exact length_flattenLevels_nestedBuckets _ more
  have top (bucket : Members) :
      bucketsOf [singleBucket label bucket]
          (Grouping.byField field label).label = [bucket] :=
    bucketsOf_singleBucket label bucket []
  refine ⟨[singleBucket label left], [singleBucket label right], ?_, ?_⟩
  · exact rearranged_of_elements (List.Perm.refl _)
      (.cons (.bucket inside) .nil)
  · intro steps others remaining same
    rw [flattenLevels, flattenLevels, top, top, List.flatMap_singleton,
      List.flatMap_singleton]
    refine ⟨one _ _ rfl, one _ _ rfl,
      flattenLevels_ne accepted remaining same ?_ ?_⟩
    · intro keys
      simp [left, right, inner, groupKey, fieldKey, bucketKey, keyedBucket,
        itemAt?] at keys
    · exact List.ne_nil_of_length_eq_add_one (one _ _ rfl)

/-- A further level around both scopes leaves it so. -/
theorem ShowsOrder.around
    {groups : List Grouping}
    {first second : Members}
    (shows : ShowsOrder query groups first second)
    (group : Grouping) :
    ShowsOrder query (group :: groups) [singleBucket group.label first]
      [singleBucket group.label second] := by
  constructor
  · exact rearranged_of_elements (List.Perm.refl _)
      (.cons (.bucket shows.moved) .nil)
  · intro steps others remaining same
    rw [flattenLevels, flattenLevels, bucketsOf_singleBucket,
      bucketsOf_singleBucket, List.flatMap_singleton, List.flatMap_singleton]
    apply shows.rows
    · exact drop_length_concat remaining _
    · rw [List.length_append, List.length_append, same]
      rfl

theorem exists_showsOrder
    (accepted : query.Accepted)
    {groups : List Grouping}
    (mixed : ¬ KeysApart groups) :
    ∃ first second, ShowsOrder query groups first second := by
  induction groups with
  | nil => exact absurd List.isChain_nil mixed
  | cons group rest step =>
      by_cases apart : KeysApart rest
      · obtain ⟨field, label, below, more, rfl, rfl, key⟩ :=
          exists_key_of_not_keysApart apart mixed
        exact exists_showsOrder_of_key accepted field label key more
      · obtain ⟨first, second, shows⟩ := step apart
        exact ⟨_, _, shows.around group⟩

end Mixed

/-- One row is left as it is where nothing is cut. -/
theorem finishRows_within_none
    (query : Query)
    (plan : FinishPlan)
    {rows : List Row}
    (single : rows.length = 1) :
    finishRows (query.within none none) plan rows = rows := by
  obtain ⟨row, rfl⟩ := List.length_eq_one_iff.1 single
  have kept : sortRows (query.within none none) [row] = [row] :=
    List.mergeSort_singleton row
  simp only [finishRows, kept, pageRows_within_none, ite_self]

/-- Where a level shows the result of another one there are two levels, and
every sort is done here. -/
theorem sortsRows_of_not_keysApart
    {query : Query}
    (sorted : query.sort ≠ [])
    (mixed : ¬ KeysApart query.groups) :
    (Delivery.ofQuery query).sortsRows = true := by
  obtain ⟨above, below, rest, levels⟩ :
      ∃ above below rest, query.groups = above :: below :: rest := by
    match groups : query.groups with
    | [] => exact absurd (groups ▸ List.isChain_nil) mixed
    | [group] => exact absurd (groups ▸ List.isChain_singleton group) mixed
    | above :: below :: rest => exact ⟨above, below, rest, rfl⟩
  obtain ⟨key, more, keys⟩ := List.exists_cons_of_ne_nil sorted
  have target : SortTarget.ofQuery query = .other := by
    rw [SortTarget.ofQuery, levels, keys]
    cases more <;> rfl
  rw [Delivery.ofQuery, target, levels, List.length_cons, List.length_cons]
  rfl

/-- Two answers to the first page that have the same buckets
and not the same rows. -/
theorem exists_rearrangement_ne
    {query : Query}
    {request : SearchRequest}
    (compiled : SearchRequest.ofChecked query = .ok request)
    (grouped : query.groups ≠ [])
    (sorted : query.sort ≠ [])
    (mixed : ¬ KeysApart query.groups) :
    ∃ request one other first second,
      Rearrangement (query.within none none) request one other first second ∧
        one.rowsOf (query.within none none) ≠
          other.rowsOf (query.within none none) := by
  obtain ⟨whole, sent⟩ :=
    SearchRequest.exists_ofChecked_within none none compiled grouped
  rcases SearchRequest.ofChecked_grouped sent grouped with
    ⟨accepted, -, -, finish, -⟩
  obtain ⟨first, second, shows⟩ := exists_showsOrder accepted mixed
  rcases shows.rows [] [] rfl rfl with ⟨one, other, different⟩
  have rows (scope : Members) :
      flattenResponse (query.within none none) (.ofAggregations scope) =
        flattenLevels (query.within none none) [] scope query.groups :=
    accepted.flattenResponse_eq_flattenLevels grouped _
  refine ⟨whole, .answering first, .answering second, .ofAggregations first,
    .ofAggregations second, ?_, ?_⟩
  · refine
      { compiled := sent
        sortedHere := ?_
        before := rfl
        after := rfl
        moved := shows.moved
        separated := ?_ }
    · rw [finish]
      exact sortsRows_of_not_keysApart sorted mixed
    · obtain ⟨row, single⟩ := List.length_eq_one_iff.1 one
      rw [rows, single]
      exact List.pairwise_singleton _ _
  · rw [Backend.rowsOf_eq_finishRows sent rfl,
      Backend.rowsOf_eq_finishRows sent rfl, rows, rows,
      finishRows_within_none query _ one, finishRows_within_none query _ other]
    exact fun same => different (Except.ok.inj same)

/--
A query that is sorted has the same rows for the same buckets in any order,
whatever its limit and offset, if they are sorted here and no two rows are equal
on all sort keys, exactly if no level on a field is directly above one that is
labelled like the key of a bucket.  Otherwise the rows are the same but for what
is inside the objects in the columns of such levels.
-/
theorem rowsOf_rearranged_iff
    {query : Query}
    {request : SearchRequest}
    (compiled : SearchRequest.ofChecked query = .ok request)
    (grouped : query.groups ≠ [])
    (sorted : query.sort ≠ []) :
    ((∀ limit offset request one other first second,
        Rearrangement (query.within limit offset) request one other
            first second →
          one.rowsOf (query.within limit offset) =
            other.rowsOf (query.within limit offset)) ↔
      KeysApart query.groups) ∧
      ∀ limit offset request one other first second,
        Rearrangement (query.within limit offset) request one other
            first second →
          ∃ rows others,
            one.rowsOf (query.within limit offset) = .ok rows ∧
              other.rowsOf (query.within limit offset) = .ok others ∧
                rows.map (Row.veiled (shadowedLabels query.groups)) =
                  others.map (Row.veiled (shadowedLabels query.groups)) := by
  refine ⟨⟨?_, ?_⟩, ?_⟩
  · intro same
    by_contra mixed
    obtain ⟨request, one, other, first, second, rearrangement, different⟩ :=
      exists_rearrangement_ne compiled grouped sorted mixed
    exact different
      (same none none request one other first second rearrangement)
  · intro apart limit offset request one other first second rearrangement
    exact rearrangement.rowsOf_eq grouped apart
  · intro limit offset request one other first second rearrangement
    exact rearrangement.exists_rowsOf grouped

/-! ## Two statuses at a host -/

/-- Documents by their host and then by their status under a
label, the fewest first. -/
def fewestFirst (label : String) : Query :=
  { Query.ofTable "db" "t" with
    groups := [.byField "host" "host", .byField "status" label]
    aggregates := [{ label := "n", measure := .count, target := .allDocuments }]
    sort := [{ key := "n", direction := .ascending }] }

/-- The result of the level of statuses, in the order in which
they are listed. -/
def statusesListed (statuses : List (String × UInt64)) : Value :=
  .object
    [("buckets",
      .array <| statuses.map fun status =>
        .object [("key", .string status.1), ("doc_count", .ofWord status.2)])]

/-- One host with its statuses under a label. -/
def hostListed
    (label : String)
    (statuses : List (String × UInt64)) :
    Members :=
  [singleBucket "host"
    (putEntry label (statusesListed statuses)
      [("key", .string "a"), ("doc_count", .ofWord 3)])]

theorem rearranged_hostListed
    (label : String)
    {statuses others : List (String × UInt64)}
    (order : statuses.Perm others) :
    Rearranged (fewestFirst label).groups (hostListed label statuses)
      (hostListed label others) := by
  refine rearranged_of_elements (List.Perm.refl _)
    (.cons (.bucket ⟨?_, ?_⟩) .nil)
  · intro name different
    have other : name ≠ label := different
    rw [itemAt?_putEntry_of_ne other, itemAt?_putEntry_of_ne other]
  · simp only [Grouping.label, itemAt?_putEntry_self]
    refine .moved ?_ rfl rfl (order.map _)
      (List.forall₂_same.2 fun _ _ => .same _)
    intro name different
    simp only [itemAt?, different.symm, if_false]

/-- Two statuses with their counts, the smaller count first. -/
def statusesFewestFirst : List (String × UInt64) :=
  [("ok", 1), ("failed", 2)]

/-- The same request answered with the fewest documents first,
and with the most. -/
theorem rearrangement_hostListed
    {label : String}
    {offset : Option UInt64}
    {request : SearchRequest}
    (compiled :
      SearchRequest.ofChecked ((fewestFirst label).within none offset) =
        .ok request)
    (sortedHere : request.finish.sortsRows = true)
    (separated :
      Separated ((fewestFirst label).within none offset)
        (flattenResponse ((fewestFirst label).within none offset)
          (.ofAggregations (hostListed label statusesFewestFirst)))) :
    Rearrangement ((fewestFirst label).within none offset) request
      (.answering (hostListed label statusesFewestFirst))
      (.answering (hostListed label statusesFewestFirst.reverse))
      (.ofAggregations (hostListed label statusesFewestFirst))
      (.ofAggregations (hostListed label statusesFewestFirst.reverse)) :=
  { compiled
    sortedHere
    before := rfl
    after := rfl
    moved := rearranged_hostListed label statusesFewestFirst.reverse_perm.symm
    separated }

/-- On the second page of one row each there is the same row. -/
theorem rowsOf_rearranged_fewestFirst :
    ∃ request,
      SearchRequest.ofChecked (fewestFirst "status") = .ok request ∧
        (fewestFirst "status").groups ≠ [] ∧ (fewestFirst "status").sort ≠ [] ∧
          (Backend.answering (hostListed "status" statusesFewestFirst)).rowsOf
              ((fewestFirst "status").within none (some 1)) =
            (Backend.answering
              (hostListed "status" statusesFewestFirst.reverse)).rowsOf
              ((fewestFirst "status").within none (some 1)) := by
  obtain ⟨request, compiled⟩ :
      ∃ request, SearchRequest.ofChecked (fewestFirst "status") = .ok request :=
    ⟨_, rfl⟩
  have grouped : (fewestFirst "status").groups ≠ [] := List.cons_ne_nil _ _
  have sorted : (fewestFirst "status").sort ≠ [] := List.cons_ne_nil _ _
  have apart : KeysApart (fewestFirst "status").groups :=
    shadowedLabels_eq_nil_iff.1 (by decide +kernel)
  refine ⟨request, compiled, grouped, sorted, ?_⟩
  apply (rowsOf_rearranged_iff compiled grouped sorted).1.2 apart none (some 1)
  exact rearrangement_hostListed rfl rfl (by unfold Separated; decide +kernel)

/-- A column in which all rows have the same does not show how
they are sorted. -/
theorem map_get?_rowsOf
    {backend : Backend}
    {query : Query}
    {request : SearchRequest}
    {response : SearchResponse}
    (compiled : SearchRequest.ofChecked (query.within none none) = .ok request)
    (answer : backend.search request = .ok response)
    {column : String}
    {count : Nat}
    {cell : Option Value}
    (same :
      (flattenResponse (query.within none none) response).map
          (fun row => row.get? column) =
        List.replicate count cell) :
    (backend.rowsOf (query.within none none)).map
        (List.map fun row => row.get? column) =
      .ok (List.replicate count cell) := by
  rw [Backend.rowsOf_eq_finishRows compiled answer, finishRows]
  simp only [pageRows_within_none, ite_self]
  split
  · have order := (sortRows_perm (query.within none none)
      (flattenResponse (query.within none none) response)).map fun row =>
        row.get? column
    rw [same] at order
    exact congrArg Except.ok (List.perm_replicate.1 order)
  · exact congrArg Except.ok same

/-- Under the label of the key the order of the statuses shows in
the column of the host. -/
theorem hosts_show_order_of_statuses :
    ∃ request,
      Rearrangement ((fewestFirst "key").within none none) request
          (.answering (hostListed "key" statusesFewestFirst))
          (.answering (hostListed "key" statusesFewestFirst.reverse))
          (.ofAggregations (hostListed "key" statusesFewestFirst))
          (.ofAggregations (hostListed "key" statusesFewestFirst.reverse)) ∧
        (Backend.answering (hostListed "key" statusesFewestFirst)).rowsOf
            ((fewestFirst "key").within none none) ≠
          (Backend.answering
            (hostListed "key" statusesFewestFirst.reverse)).rowsOf
            ((fewestFirst "key").within none none) := by
  obtain ⟨request, compiled⟩ :
      ∃ request,
        SearchRequest.ofChecked ((fewestFirst "key").within none none) =
          .ok request :=
    ⟨_, rfl⟩
  refine ⟨request, rearrangement_hostListed compiled ?_ ?_, ?_⟩
  · obtain rfl := Except.ok.inj compiled
    rfl
  · unfold Separated
    decide +kernel
  · intro same
    have column (statuses : List (String × UInt64))
        (two : statuses.length = 2) :
        ((Backend.answering (hostListed "key" statuses)).rowsOf
            ((fewestFirst "key").within none none)).map
              (List.map fun row => row.get? "host") =
          .ok (List.replicate 2 (some (statusesListed statuses))) := by
      obtain ⟨first, second, rfl⟩ := List.length_eq_two.1 two
      exact map_get?_rowsOf compiled rfl rfl
    have shown :=
      congrArg (Except.map (List.map fun row : Row => row.get? "host")) same
    rw [column _ rfl, column _ rfl] at shown
    simp [statusesListed, statusesFewestFirst] at shown

end TabularSearch
