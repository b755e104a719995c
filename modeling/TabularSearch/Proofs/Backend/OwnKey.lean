import Mathlib.Data.String.Basic
import TabularSearch.Proofs.Backend.Served

/-!
# Sorting by the key of the only level

A query with one level on a field that is sorted by the key of this level leaves
sorting and cutting to the backend.  The rows are then those that come of
fetching all buckets and sorting and cutting here, unless an aggregate is
labelled like the sort key.  The key is taken here for this aggregate's column,
and for the level by the plan.
-/

namespace TabularSearch

open TabularSearch.Json

/-! ## Texts in a direction -/

/-- Whether a text may stand in front of another. -/
def Direction.keeps
    (direction : Direction)
    (former latter : String) :
    Bool :=
  match direction with
  | .ascending => former ≤ latter
  | .descending => latter ≤ former

section Texts

variable {direction : Direction} {former middle latter : String}

theorem Direction.keeps_trans
    (first : direction.keeps former middle = true)
    (second : direction.keeps middle latter = true) :
    direction.keeps former latter = true := by
  cases direction with
  | ascending =>
      rw [keeps, decide_eq_true_iff] at first second ⊢
      exact first.trans second
  | descending =>
      rw [keeps, decide_eq_true_iff] at first second ⊢
      exact second.trans first

theorem Direction.keeps_total
    (direction : Direction)
    (former latter : String) :
    (direction.keeps former latter || direction.keeps latter former) =
      true := by
  cases direction with
  | ascending =>
      simpa only [keeps, Bool.or_eq_true, decide_eq_true_iff] using le_total _ _
  | descending =>
      simpa only [keeps, Bool.or_eq_true, decide_eq_true_iff] using le_total _ _

theorem Direction.eq_of_keeps
    (first : direction.keeps former latter = true)
    (second : direction.keeps latter former = true) :
    former = latter := by
  cases direction with
  | ascending =>
      rw [keeps, decide_eq_true_iff] at first second
      exact le_antisymm first second
  | descending =>
      rw [keeps, decide_eq_true_iff] at first second
      exact le_antisymm second first

theorem compareCells_string
    (direction : Direction)
    (former latter : String) :
    (compareCells direction (some (.string former)) (some (.string latter)) !=
      .gt) =
      direction.keeps former latter := by
  rw [Bool.eq_iff_iff, bne_iff_ne]
  cases direction with
  | ascending =>
      rw [Direction.keeps, decide_eq_true_iff, ← not_lt]
      exact not_congr compare_gt_iff_gt
  | descending =>
      rw [Direction.keeps, decide_eq_true_iff, ← not_lt]
      exact not_congr (Ordering.swap_eq_gt.trans compare_lt_iff_lt)

end Texts

/-! ## Buckets in the order of their keys -/

namespace Bucket

/-- The text of a bucket's key; of another key the empty text. -/
def keyWord (bucket : Bucket) : String :=
  (bucket.key.asString?).getD ""

/-- Two buckets stand in the order of their keys. -/
def inOrder
    (direction : Direction)
    (former latter : Bucket) :
    Bool :=
  direction.keeps former.keyWord latter.keyWord

end Bucket

/-- Buckets with texts for keys, no two of them with the same one. -/
structure KeyedByTexts (found : List Bucket) : Prop where
  texts : ∀ bucket ∈ found, bucket.key = .string bucket.keyWord
  distinct : (found.map Bucket.key).Nodup

/-- Where the order is by key, the buckets are put in the
order of their keys. -/
def ArrangesByKey (arrange : BucketOrder → List Bucket → List Bucket) : Prop :=
  ∀ direction found,
    KeyedByTexts found →
      (arrange (.byKey direction) found).Perm found ∧
        (arrange (.byKey direction) found).Pairwise fun former latter =>
          Bucket.inOrder direction former latter = true

theorem pairwise_mergeSort_inOrder
    (direction : Direction)
    (found : List Bucket) :
    (found.mergeSort (Bucket.inOrder direction)).Pairwise fun former latter =>
      Bucket.inOrder direction former latter = true := by
  apply List.pairwise_mergeSort
  · intro former middle latter first second
    exact Direction.keeps_trans first second
  · intro former latter
    exact direction.keeps_total former.keyWord latter.keyWord

/-- There is only one order of the keys. -/
theorem ArrangesByKey.eq_mergeSort
    {arrange : BucketOrder → List Bucket → List Bucket}
    (arranges : ArrangesByKey arrange)
    (direction : Direction)
    {found : List Bucket}
    (keyed : KeyedByTexts found) :
    arrange (.byKey direction) found =
      found.mergeSort (Bucket.inOrder direction) := by
  rcases arranges direction found keyed with ⟨rearranged, ordered⟩
  have sorted := List.mergeSort_perm found (Bucket.inOrder direction)
  refine List.Perm.eq_of_pairwise ?_ ordered
    (pairwise_mergeSort_inOrder direction found) (rearranged.trans sorted.symm)
  intro former latter first second before after
  -- Neither is in front of the other, so they have one key and are one bucket.
  have first := rearranged.mem_iff.1 first
  have second := sorted.mem_iff.1 second
  have word : former.keyWord = latter.keyWord :=
    Direction.eq_of_keeps before after
  apply List.inj_on_of_nodup_map keyed.distinct first second
  rw [keyed.texts former first, keyed.texts latter second, word]

/-- Buckets sorted by their keys where this is asked for. -/
def arrangeByKey : BucketOrder → List Bucket → List Bucket
  | .byKey direction, found => found.mergeSort (Bucket.inOrder direction)
  | .fullestFirst, found => found

theorem arrangesByKey_arrangeByKey : ArrangesByKey arrangeByKey :=
  fun direction found _ =>
    ⟨List.mergeSort_perm found _, pairwise_mergeSort_inOrder direction found⟩

/-! ## The rows of the buckets -/

section Rows

variable {query : Query} (accepted : query.Accepted) {field label : String}
  (single : query.groups = [.byField field label])

include accepted single

theorem isRowAt_bucketRow (bucket : Bucket) :
    query.IsRowAt [(0, bucket.writtenWith query.measuredFields)]
      (query.bucketRow (.byField field label) bucket) := by
  have grouped : query.groups ≠ [] := by
    rw [single]
    exact List.cons_ne_nil _ _
  have aligned :
      [(0, bucket.writtenWith query.measuredFields)].length =
        query.groups.length := by
    rw [single, List.length_singleton, List.length_singleton]
  have row := query.isRowAt_leafRow accepted grouped aligned []
  rw [single] at row
  exact row

theorem get?_bucketRow_group
    {bucket : Bucket}
    {text : String}
    (key : bucket.key = .string text) :
    (query.bucketRow (.byField field label) bucket).get? label =
      some (.string text) := by
  have row := isRowAt_bucketRow accepted single bucket
  have cell := row.groups 0 (.byField field label) _ (by rw [single]; rfl) rfl
  rw [groupKey_writtenWith key, key] at cell
  exact cell

/-- The sort key is resolved to the label of the level unless an
aggregate is labelled so. -/
theorem resolveKey_bucketRows
    {key : String}
    (own : key = label ∨ key = field)
    (apart : ∀ aggregate ∈ query.aggregates, aggregate.label ≠ key)
    (found : List Bucket) :
    resolveKey query (found.map (query.bucketRow (.byField field label))) key =
      label := by
  have labels :
      query.labels = label :: query.aggregates.map Aggregate.label := by
    rw [Query.labels, single]
    rfl
  have shown (bucket : Bucket) :
      (query.bucketRow (.byField field label) bucket).contains key = true ↔
        key = label := by
    have columns := (isRowAt_bucketRow accepted single bucket).columns
    have unlabelled : key ∉ query.aggregates.map Aggregate.label := by
      intro member
      rcases List.mem_map.1 member with ⟨aggregate, within, same⟩
      exact apart aggregate within same
    rw [Row.contains_iff, columns, labels, List.mem_cons,
      or_iff_left unlabelled]
  rw [resolveKey]
  split
  · rename_i present
    rw [List.any_map, List.any_eq_true] at present
    rcases present with ⟨bucket, -, here⟩
    exact (shown bucket).1 here
  · rw [Query.groupLabelFor?, single, List.reverse_singleton,
      List.find?_singleton]
    by_cases onField : field = key
    · simp [Grouping.field, Grouping.label, onField]
    · obtain rfl : key = label := own.resolve_right (Ne.symm onField)
      simp [Grouping.field, onField]

theorem sortRows_bucketRows
    {key : SortKey}
    (sorted : query.sort = [key])
    (own : key.key = label ∨ key.key = field)
    (apart : ∀ aggregate ∈ query.aggregates, aggregate.label ≠ key.key)
    {found : List Bucket}
    (keyed : KeyedByTexts found) :
    sortRows query (found.map (query.bucketRow (.byField field label))) =
      (found.mergeSort (Bucket.inOrder key.direction)).map
        (query.bucketRow (.byField field label)) := by
  have resolved := resolveKey_bucketRows accepted single own apart found
  symm
  rw [sortRows, resolveKeys, sorted, List.map_singleton, resolved]
  -- Rows are compared by the cells under the label alone, and
  -- these are the keys.
  apply List.map_mergeSort
  intro former first latter second
  have formerCell :=
    get?_bucketRow_group accepted single (keyed.texts former first)
  have latterCell :=
    get?_bucketRow_group accepted single (keyed.texts latter second)
  rw [compareRows, compareRows, formerCell, latterCell, Ordering.then_eq]
  exact (compareCells_string _ _ _).symm

end Rows

/-! ## The two ways to the rows -/

/-- Without rows left out in front, sorting by the key of the only level
is left to the backend. -/
theorem delivery_ownKey
    {query : Query}
    {group : Grouping}
    (single : query.groups = [group])
    {direction : Direction}
    (own : SortTarget.ofQuery query = .ownKey direction)
    (first : query.rowOffset = none) :
    query.plan.delivery =
      { order := .byKey direction, cap := cappedLimit query.rowLimit,
        sortsRows := false } := by
  rw [Query.plan, Delivery.ofQuery, single, own, first]
  rfl

section Ways

variable {query : Query} {request : SearchRequest}
  (compiled : SearchRequest.ofChecked query = .ok request)
  {field label : String} (single : query.groups = [.byField field label])
  {direction : Direction} (own : SortTarget.ofQuery query = .ownKey direction)
  (first : query.rowOffset = none)

include single own first compiled

theorem rowsOf_ownKey
    {backend : Backend}
    {arrange : BucketOrder → List Bucket → List Bucket}
    {top : Bucket}
    (serves : backend.Serves (.cut arrange) top)
    (few :
      (arrange (.byKey direction) top.inner).length ≤ answerCeiling.toNat) :
    backend.rowsOf query =
      .ok
        (pageRows query
          ((arrange (.byKey direction) top.inner).map
            (query.bucketRow (.byField field label)))) := by
  have grouped : query.groups ≠ [] := by
    rw [single]
    exact List.cons_ne_nil _ _
  rw [serves.rowsOf_eq_ok compiled grouped, delivery_ownKey single own first,
    finishRows, Query.servedRows_single single, Grouping.kind, Listing.cut,
    List.map_take]
  have shown : ((arrange (.byKey direction) top.inner).map
      (query.bucketRow (.byField field label))).length ≤
        answerCeiling.toNat := by
    rwa [List.length_map]
  exact congrArg _ (pageRows_take_cappedLimit first shown)

omit own first

theorem finishRows_whole
    {top : Bucket}
    {whole : SearchResponse}
    (answered :
      whole.aggregations = writtenResults .whole top request.aggregations)
    {key : SortKey}
    (sorted : query.sort = [key]) :
    finishRows query { sortsRows := true, pagesRows := true }
        (flattenResponse query whole) =
      pageRows query
        (sortRows query
          (top.inner.map (query.bucketRow (.byField field label)))) := by
  have grouped : query.groups ≠ [] := by
    rw [single]
    exact List.cons_ne_nil _ _
  rcases SearchRequest.ofChecked_grouped compiled grouped with
    ⟨accepted, -, asked, -⟩
  rw [asked] at answered
  rw [accepted.flattenResponse_eq_servedRows grouped answered,
    Query.servedRows_single single, Listing.whole, finishRows, sorted]
  rfl

end Ways

theorem head?_pageRows
    {query : Query}
    (first : query.rowOffset = none)
    (rows : List Row) :
    (pageRows query rows).head? = rows.head? := by
  rw [pageRows, first, Option.getD_none, UInt64.toNat_zero, List.drop_zero]
  cases asked : query.rowLimit with
  | none => rfl
  | some limit =>
      have nonzero : limit ≠ 0 := by
        rw [Query.rowLimit, Option.filter_eq_some_iff] at asked
        simpa using asked.2
      have some : limit.toNat ≠ 0 :=
        fun zero => nonzero (UInt64.toNat_inj.1 zero)
      exact List.head?_take.trans (if_neg some)

/-! ## An aggregate labelled like the sort key -/

/-- What a measure comes to over a number of documents that
all hold this number. -/
def Measure.ofCopies
    (measure : Measure)
    (count : UInt64) :
    UInt64 :=
  match measure with
  | .sum => count * count
  | _ => count

/-- A number of documents that hold this number in every field. -/
def Bucket.ofCopies
    (text : String)
    (count : UInt64) :
    Bucket :=
  { key := .string text
    keyText := none
    count
    statistics := fun _ =>
      .object <|
        [Measure.count, .average, .least, .greatest, .sum].map fun measure =>
          (measure.word, .ofWord (measure.ofCopies count))
    inner := [] }

/-- Two buckets in the order of their keys in a direction; more documents have
the first key in the order of texts. -/
def crossedBuckets : Direction → List Bucket
  | .ascending => [.ofCopies "a" 2, .ofCopies "b" 1]
  | .descending => [.ofCopies "b" 1, .ofCopies "a" 2]

theorem get?_bucketRow_ofCopies
    {query : Query}
    (accepted : query.Accepted)
    {field label : String}
    (single : query.groups = [.byField field label])
    {aggregate : Aggregate}
    (member : aggregate ∈ query.aggregates)
    (text : String)
    (count : UInt64) :
    (query.bucketRow (.byField field label) (.ofCopies text count)).get?
        aggregate.label =
      some (.ofWord (aggregate.measure.ofCopies count)) := by
  have row := isRowAt_bucketRow accepted single (.ofCopies text count)
  rcases row.aggregates aggregate member with ⟨value, found, cell⟩
  rw [found, Option.some.injEq]
  rcases aggregate with ⟨name, measure, target⟩
  rw [single] at cell
  cases cell with
  | documents last =>
      rw [List.getLast?_singleton] at last
      obtain rfl := Option.some.inj last
      rw [Bucket.bucketCount_writtenWith]
      rfl
  | level grouped innermost entered =>
      have only := List.mem_singleton.1 (List.mem_of_getElem? entered)
      rw [only, Bucket.bucketCount_writtenWith]
      rfl
  | @statistic _ field _ unleveled last =>
      rw [List.getLast?_singleton] at last
      obtain rfl := Option.some.inj last
      have measured : field ∈ query.measuredFields := by
        refine Query.mem_measuredFields.2 ⟨_, member, ?_⟩
        cases measure with
        | count =>
            have other :=
              unleveled rfl (.byField _ _) (List.mem_singleton_self _)
            simpa [Query.measuredField?, Target.field?, single, Grouping.field]
              using other
        | _ => rfl
      rw [statisticOf?,
        Bucket.itemAt?_writtenWith _ _ query.nodup_measuredFields measured]
      cases measure <;> rfl

theorem mergeSort_pair
    {Item : Type}
    {before : Item → Item → Bool}
    {former latter : Item}
    (behind : before former latter = false) :
    [former, latter].mergeSort before = [latter, former] := by
  simp [List.mergeSort, List.MergeSort.Internal.splitInTwo, behind]

theorem compareCells_ofCopies (measure : Measure) :
    compareCells .ascending (some (.ofWord (measure.ofCopies 2)))
        (some (.ofWord (measure.ofCopies 1))) = .gt ∧
      compareCells .descending (some (.ofWord (measure.ofCopies 1)))
        (some (.ofWord (measure.ofCopies 2))) = .gt := by
  cases measure <;> decide +kernel

theorem sortRows_crossedBuckets
    {query : Query}
    (accepted : query.Accepted)
    {field label : String}
    (single : query.groups = [.byField field label])
    {key : SortKey}
    (sorted : query.sort = [key])
    {aggregate : Aggregate}
    (member : aggregate ∈ query.aggregates)
    (same : aggregate.label = key.key) :
    sortRows query
        ((crossedBuckets key.direction).map
          (query.bucketRow (.byField field label))) =
      ((crossedBuckets key.direction).map
        (query.bucketRow (.byField field label))).reverse := by
  rcases key with ⟨name, direction⟩
  obtain rfl : aggregate.label = name := same
  have shown (bucket : Bucket) :
      (query.bucketRow (.byField field label) bucket).contains aggregate.label =
        true := by
    rw [Row.contains_iff, (isRowAt_bucketRow accepted single bucket).columns]
    exact List.mem_append_right _ (List.mem_map_of_mem member)
  have resolved (bucket : Bucket) (rest : List Row) :
      resolveKeys query
          (query.bucketRow (.byField field label) bucket :: rest) =
        [{ key := aggregate.label, direction }] := by
    rw [resolveKeys, sorted, List.map_singleton, resolveKey, List.any_cons,
      shown, Bool.true_or, if_pos rfl]
  have behind := compareCells_ofCopies aggregate.measure
  cases direction with
  | ascending =>
      rw [crossedBuckets, List.map_cons, List.map_singleton, sortRows, resolved]
      apply mergeSort_pair
      rw [compareRows, compareRows,
        get?_bucketRow_ofCopies accepted single member,
        get?_bucketRow_ofCopies accepted single member, behind.1]
      rfl
  | descending =>
      rw [crossedBuckets, List.map_cons, List.map_singleton, sortRows, resolved]
      apply mergeSort_pair
      rw [compareRows, compareRows,
        get?_bucketRow_ofCopies accepted single member,
        get?_bucketRow_ofCopies accepted single member, behind.2]
      rfl

theorem keyedByTexts_crossedBuckets (direction : Direction) :
    KeyedByTexts (crossedBuckets direction) := by
  constructor
  · intro bucket member
    cases direction with
    | ascending => rcases List.mem_pair.1 member with rfl | rfl <;> rfl
    | descending => rcases List.mem_pair.1 member with rfl | rfl <;> rfl
  · cases direction with
    | ascending => simp [crossedBuckets, Bucket.ofCopies]
    | descending => simp [crossedBuckets, Bucket.ofCopies]

theorem arrangeByKey_crossedBuckets (direction : Direction) :
    arrangeByKey (.byKey direction) (crossedBuckets direction) =
      crossedBuckets direction := by
  apply List.mergeSort_of_pairwise
  cases direction with
  | ascending => exact List.pairwise_pair.2 (by decide)
  | descending => exact List.pairwise_pair.2 (by decide)

theorem head?_crossedBuckets_ne
    {query : Query}
    (accepted : query.Accepted)
    {field label : String}
    (single : query.groups = [.byField field label])
    (direction : Direction) :
    ((crossedBuckets direction).map
      (query.bucketRow (.byField field label))).head? ≠
      ((crossedBuckets direction).map
        (query.bucketRow (.byField field label))).reverse.head? := by
  intro same
  have cell (text : String) (count : UInt64) :
      (query.bucketRow (.byField field label) (.ofCopies text count)).get?
          label =
        some (.string text) :=
    get?_bucketRow_group accepted single rfl
  have cells := congrArg (Option.bind · (·.get? label)) same
  cases direction with
  | ascending => simp [crossedBuckets, cell] at cells
  | descending => simp [crossedBuckets, cell] at cells

/--
A query with one level on a field that is sorted by the key of this level,
without rows left out in front, is run on a backend that knows at most 10000
buckets with different texts for keys: the rows are those of all buckets, sorted
and cut here, exactly if no aggregate is labelled like the sort key.
-/
theorem rowsOf_eq_finishRows_iff
    {query : Query}
    {request : SearchRequest}
    (compiled : SearchRequest.ofChecked query = .ok request)
    {field label : String}
    (single : query.groups = [.byField field label])
    {key : SortKey}
    (sorted : query.sort = [key])
    (own : SortTarget.ofQuery query = .ownKey key.direction)
    (first : query.rowOffset = none) :
    (∀ (backend : Backend)
          (arrange : BucketOrder → List Bucket → List Bucket)
          (top : Bucket) (whole : SearchResponse),
        top.inner.length ≤ 10000 → KeyedByTexts top.inner →
          ArrangesByKey arrange → backend.Serves (.cut arrange) top →
            whole.aggregations =
                writtenResults .whole top request.aggregations →
              backend.rowsOf query =
                .ok
                  (finishRows query { sortsRows := true, pagesRows := true }
                    (flattenResponse query whole))) ↔
      ∀ aggregate ∈ query.aggregates, aggregate.label ≠ key.key := by
  have accepted := (SearchRequest.ofChecked_eq_ok_iff.1 compiled).1
  constructor
  · intro agree aggregate member same
    -- Two buckets that the keys put in one order and the
    -- aggregate in the other.
    let top := Bucket.ofText "" 3 (crossedBuckets key.direction)
    have few : top.inner.length = 2 := by
      cases direction : key.direction <;>
        simp [top, direction, Bucket.ofText, crossedBuckets]
    have arranged :
        arrangeByKey (.byKey key.direction) top.inner =
          crossedBuckets key.direction :=
      arrangeByKey_crossedBuckets key.direction
    have serves := Backend.serves_serving (.cut arrangeByKey) top
    have agreed := agree _ arrangeByKey top
      (.ofAggregations (writtenResults .whole top request.aggregations))
      (by omega)
      (keyedByTexts_crossedBuckets _) arrangesByKey_arrangeByKey serves rfl
    have shown :
        (arrangeByKey (.byKey key.direction) top.inner).length ≤
          answerCeiling.toNat := by
      rw [arranged]
      exact few.trans_le (by decide)
    have swapped :
        sortRows query
            (top.inner.map (query.bucketRow (.byField field label))) = _ :=
      sortRows_crossedBuckets accepted single sorted member same
    rw [rowsOf_ownKey compiled single own first serves shown,
      finishRows_whole compiled single rfl sorted, arranged, swapped,
      Except.ok.injEq] at agreed
    have heads := congrArg List.head? agreed
    rw [head?_pageRows first, head?_pageRows first] at heads
    exact head?_crossedBuckets_ne accepted single key.direction heads
  · intro apart backend arrange top whole few keyed arranges serves answered
    have named : key.key = label ∨ key.key = field := by
      by_contra other
      have elsewhere : SortTarget.ofQuery query = .other := by
        rw [SortTarget.ofQuery, sorted, single]
        exact if_neg other
      rw [elsewhere] at own
      cases own
    have arranged := arranges.eq_mergeSort key.direction keyed
    have shown :
        (arrange (.byKey key.direction) top.inner).length ≤
          answerCeiling.toNat := by
      rw [arranged, List.length_mergeSort]
      exact few
    rw [rowsOf_ownKey compiled single own first serves shown,
      finishRows_whole compiled single answered sorted,
      sortRows_bucketRows accepted single sorted named apart keyed, arranged]

/-! ## Hosts by name and by number -/

/-- The names of the hosts with how many documents each has,
sorted by the field. -/
def hostsSorted (label : String) : Query :=
  { Query.ofTable "db" "t" with
    groups := [.byField "host" "name"]
    aggregates := [{ label, measure := .count, target := .allDocuments }]
    sort := [{ key := "host", direction := .ascending }] }

/-- Hosts whose names and counts are ordered in opposite ways. -/
def crossedHosts : Bucket :=
  .ofText "" 3 (crossedBuckets .ascending)

theorem rowsOf_hostsSorted :
    ∃ request,
      SearchRequest.ofChecked (hostsSorted "number") = .ok request ∧
        SortTarget.ofQuery (hostsSorted "number") = .ownKey .ascending ∧
          (hostsSorted "number").rowOffset = none ∧
            (Backend.serving (.cut arrangeByKey) crossedHosts).rowsOf
                (hostsSorted "number") =
              .ok
                (finishRows (hostsSorted "number")
                  { sortsRows := true, pagesRows := true }
                  (flattenResponse (hostsSorted "number")
                    (.ofAggregations
                      (writtenResults .whole crossedHosts
                        request.aggregations)))) := by
  obtain ⟨request, compiled⟩ :
      ∃ request, SearchRequest.ofChecked (hostsSorted "number") = .ok request :=
    ⟨_, rfl⟩
  have own : SortTarget.ofQuery (hostsSorted "number") = .ownKey .ascending :=
    rfl
  have agree :=
    (rowsOf_eq_finishRows_iff compiled rfl rfl own rfl).2 (by decide)
  have serves := Backend.serves_serving (.cut arrangeByKey) crossedHosts
  exact ⟨request, compiled, own, rfl,
    agree _ arrangeByKey crossedHosts _ (by decide)
      (keyedByTexts_crossedBuckets .ascending)
      arrangesByKey_arrangeByKey serves rfl⟩

/-- With the number labelled like the sort key the backend sorts by host
and this side by number. -/
theorem hostsSorted_by_number_here :
    ∃ request,
      SearchRequest.ofChecked (hostsSorted "host") = .ok request ∧
        SortTarget.ofQuery (hostsSorted "host") = .ownKey .ascending ∧
          (hostsSorted "host").rowOffset = none ∧
            crossedHosts.inner.length ≤ 10000 ∧
            KeyedByTexts crossedHosts.inner ∧ ArrangesByKey arrangeByKey ∧
              ((Backend.serving (.cut arrangeByKey) crossedHosts).rowsOf
                    (hostsSorted "host")).map (List.map Row.entries) =
                  .ok
                    [[("name", .string "a"), ("host", .ofWord 2)],
                      [("name", .string "b"), ("host", .ofWord 1)]] ∧
                (finishRows (hostsSorted "host")
                  { sortsRows := true, pagesRows := true }
                      (flattenResponse (hostsSorted "host")
                        (.ofAggregations
                          (writtenResults .whole crossedHosts
                            request.aggregations)))).map
                    Row.entries =
                  [[("name", .string "b"), ("host", .ofWord 1)],
                    [("name", .string "a"), ("host", .ofWord 2)]] := by
  obtain ⟨request, compiled⟩ :
      ∃ request, SearchRequest.ofChecked (hostsSorted "host") = .ok request :=
    ⟨_, rfl⟩
  have own : SortTarget.ofQuery (hostsSorted "host") = .ownKey .ascending := rfl
  have single : (hostsSorted "host").groups = [.byField "host" "name"] := rfl
  have accepted := (SearchRequest.ofChecked_eq_ok_iff.1 compiled).1
  have arranged :
      arrangeByKey (.byKey .ascending) crossedHosts.inner =
        crossedHosts.inner :=
    arrangeByKey_crossedBuckets .ascending
  have serves := Backend.serves_serving (.cut arrangeByKey) crossedHosts
  have swapped :
      sortRows (hostsSorted "host")
          (crossedHosts.inner.map
            ((hostsSorted "host").bucketRow (.byField "host" "name"))) =
        _ :=
    sortRows_crossedBuckets accepted single rfl (List.mem_singleton_self _) rfl
  refine ⟨request, compiled, own, rfl, by decide,
    keyedByTexts_crossedBuckets .ascending, arrangesByKey_arrangeByKey, ?_, ?_⟩
  · rw [rowsOf_ownKey compiled single own rfl serves (by rw [arranged]; decide),
      arranged]
    rfl
  · rw [finishRows_whole compiled single rfl rfl, swapped]
    rfl

end TabularSearch
