import Mathlib.Data.List.Lex
import TabularSearch.Proofs.Aggregation.Needs
import TabularSearch.Proofs.Response.Walk

/-!
# Paths through nested buckets

A path goes from the top of an answer down to an innermost bucket, one bucket
for each level, and every bucket stands at a place in the array of its level.
The rows of a grouped query are those of all paths in the order of their
places, which is depth first.  What stands where a bucket or an array of
buckets should be is on no path.
-/

namespace TabularSearch

open TabularSearch.Json

/-- A bucket at a place of the array `buckets` of the
aggregation with a name. -/
def BucketAt
    (scope : Members)
    (name : String)
    (place : Nat)
    (bucket : Members) :
    Prop :=
  ∃ found elements,
    itemAt? name scope = some found ∧
      found.get? "buckets" = some (.array elements) ∧
        elements[place]? = some (.object bucket)

/-- The ways from a scope through some levels, each bucket
inside the one before. -/
inductive PathAt : Members → List Grouping → List (Nat × Members) → Prop where
  | ends (scope : Members) : PathAt scope [] []
  | enters
      {scope bucket : Members}
      {group : Grouping}
      {rest : List Grouping}
      {place : Nat}
      {path : List (Nat × Members)}
      (first : BucketAt scope group.label place bucket)
      (others : PathAt bucket rest path) :
      PathAt scope (group :: rest) ((place, bucket) :: path)

theorem PathAt.length_eq
    {scope : Members}
    {groups : List Grouping}
    {path : List (Nat × Members)}
    (reached : PathAt scope groups path) :
    path.length = groups.length := by
  induction reached with
  | ends scope => rfl
  | enters first others step => rw [List.length_cons, List.length_cons, step]

/-! ## Enumeration -/

/-- The objects in an array, each with its place. -/
def placedObjects (elements : List Value) : List (Nat × Members) :=
  elements.zipIdx.filterMap fun element =>
    element.1.asObject?.map fun members => (element.2, members)

/-- The buckets of the aggregation with a name, each with its place. -/
def placedBuckets
    (scope : Members)
    (name : String) :
    List (Nat × Members) :=
  match ((itemAt? name scope).bind fun found => found.get? "buckets").bind
    Value.asArray? with
  | some elements => placedObjects elements
  | none => []

/-- All ways from a scope through some levels, depth first. -/
def pathsFrom (scope : Members) : List Grouping → List (List (Nat × Members))
  | [] => [[]]
  | group :: rest =>
    (placedBuckets scope group.label).flatMap fun bucket =>
      (pathsFrom bucket.2 rest).map fun path => bucket :: path

theorem asObject?_eq_some_iff
    {value : Value}
    {members : Members} :
    value.asObject? = some members ↔ value = .object members := by
  cases value <;> simp [Value.asObject?]

theorem asArray?_eq_some_iff
    {value : Value}
    {elements : List Value} :
    value.asArray? = some elements ↔ value = .array elements := by
  cases value <;> simp [Value.asArray?]

theorem mem_placedObjects
    {elements : List Value}
    {place : Nat}
    {members : Members} :
    (place, members) ∈ placedObjects elements ↔
      elements[place]? = some (.object members) := by
  simp only [placedObjects, List.mem_filterMap, Option.map_eq_some_iff,
    Prod.mk.injEq, asObject?_eq_some_iff]
  constructor
  · rintro ⟨⟨element, at_⟩, member, found, rfl, rfl, rfl⟩
    exact List.mk_mem_zipIdx_iff_getElem?.1 member
  · intro found
    exact ⟨_, List.mk_mem_zipIdx_iff_getElem?.2 found, members, rfl, rfl, rfl⟩

theorem map_snd_placedObjects (elements : List Value) :
    (placedObjects elements).map Prod.snd =
      elements.filterMap Value.asObject? := by
  have values : elements.zipIdx.map Prod.fst = elements :=
    List.zipIdx_map_fst 0 elements
  conv_rhs => rw [← values, List.filterMap_map]
  rw [placedObjects, List.map_filterMap]
  congr 1
  funext element
  simp [Option.map_map, Function.comp_def]

theorem pairwise_placedObjects (elements : List Value) :
    (placedObjects elements).Pairwise fun earlier later =>
      earlier.1 < later.1 := by
  have places :
      elements.zipIdx.Pairwise fun earlier later => earlier.2 < later.2 := by
    rw [← List.pairwise_map, List.zipIdx_map_snd]
    exact List.pairwise_lt_range'
  refine places.filterMap _
    fun earlier later before first found second looked => ?_
  rcases Option.map_eq_some_iff.1 found with ⟨_, -, rfl⟩
  rcases Option.map_eq_some_iff.1 looked with ⟨_, -, rfl⟩
  exact before

theorem mem_placedBuckets
    {scope bucket : Members}
    {name : String}
    {place : Nat} :
    (place, bucket) ∈ placedBuckets scope name ↔
      BucketAt scope name place bucket := by
  unfold placedBuckets BucketAt
  split
  · rename_i elements present
    simp only [Option.bind_eq_some_iff, asArray?_eq_some_iff] at present
    rcases present with ⟨_, ⟨found, named, looked⟩, rfl⟩
    rw [mem_placedObjects]
    constructor
    · intro member
      exact ⟨found, elements, named, looked, member⟩
    · rintro ⟨other, others, same, array, member⟩
      rw [named, Option.some.injEq] at same
      rw [← same, looked, Option.some.injEq, Value.array.injEq] at array
      rwa [array]
  · rename_i missing
    constructor
    · intro member
      cases member
    · rintro ⟨found, elements, named, looked, -⟩
      rw [named, Option.bind_some, looked, Option.bind_some, Value.asArray?]
        at missing
      cases missing

theorem map_snd_placedBuckets
    (scope : Members)
    (name : String) :
    (placedBuckets scope name).map Prod.snd = bucketsOf scope name := by
  unfold placedBuckets bucketsOf
  cases ((itemAt? name scope).bind fun found => found.get? "buckets").bind
    Value.asArray? with
  | none => rfl
  | some elements => exact map_snd_placedObjects elements

theorem pairwise_placedBuckets
    (scope : Members)
    (name : String) :
    (placedBuckets scope name).Pairwise fun earlier later =>
      earlier.1 < later.1 := by
  unfold placedBuckets
  split
  · exact pairwise_placedObjects _
  · exact List.Pairwise.nil

theorem mem_pathsFrom
    {scope : Members}
    {groups : List Grouping}
    {path : List (Nat × Members)} :
    path ∈ pathsFrom scope groups ↔ PathAt scope groups path := by
  induction groups generalizing scope path with
  | nil =>
      rw [pathsFrom, List.mem_singleton]
      constructor
      · rintro rfl
        exact .ends scope
      · rintro ⟨⟩
        rfl
  | cons group rest step =>
      simp only [pathsFrom, List.mem_flatMap, List.mem_map, step]
      constructor
      · rintro ⟨⟨place, bucket⟩, member, others, reached, rfl⟩
        exact .enters (mem_placedBuckets.1 member) reached
      · rintro ⟨⟩
        rename_i bucket place others first reached
        exact ⟨(place, bucket), mem_placedBuckets.2 first, others, reached, rfl⟩

/-- Of two paths, the one that comes first has the lower place
where they part. -/
theorem pairwise_pathsFrom
    (scope : Members)
    (groups : List Grouping) :
    (pathsFrom scope groups).Pairwise fun earlier later =>
      earlier.map Prod.fst < later.map Prod.fst := by
  induction groups generalizing scope with
  | nil => exact List.pairwise_singleton _ _
  | cons group rest step =>
      rw [pathsFrom, List.pairwise_flatMap]
      -- Two paths part inside one bucket or go through two
      -- buckets of this level.
      constructor
      · intro bucket _
        rw [List.pairwise_map]
        refine (step bucket.2).imp fun before => ?_
        exact List.cons_lt_cons_iff.2 (Or.inr ⟨rfl, before⟩)
      · refine (pairwise_placedBuckets scope group.label).imp fun before => ?_
        intro earlier first later second
        rcases List.mem_map.1 first with ⟨_, -, rfl⟩
        rcases List.mem_map.1 second with ⟨_, -, rfl⟩
        exact List.cons_lt_cons_iff.2 (Or.inl before)

/-! ## Rows of paths -/

/-- The step into each bucket of a path. -/
def stepsOf
    (groups : List Grouping)
    (path : List (Nat × Members)) :
    List Step :=
  List.zipWith
    (fun group bucket =>
      { key := groupKey bucket.2 group, count := bucketCount bucket.2 })
    groups path

/-- The scope at the end of a path. -/
def endOf
    (scope : Members)
    (path : List (Nat × Members)) :
    Members :=
  (path.getLast?.map Prod.snd).getD scope

theorem endOf_cons
    (scope : Members)
    (bucket : Nat × Members)
    (path : List (Nat × Members)) :
    endOf scope (bucket :: path) = endOf bucket.2 path := by
  rw [endOf, endOf, List.getLast?_cons]
  cases path.getLast? with
  | none => rfl
  | some last => rfl

theorem flattenLevels_eq_map
    (query : Query)
    (taken : List Step)
    (scope : Members)
    (groups : List Grouping) :
    flattenLevels query taken scope groups =
      (pathsFrom scope groups).map fun path =>
        leafRow query (taken ++ stepsOf groups path) (endOf scope path) := by
  induction groups generalizing taken scope with
  | nil => simp [flattenLevels, pathsFrom, stepsOf, endOf]
  | cons group rest step =>
      rw [flattenLevels, pathsFrom, List.map_flatMap, ← map_snd_placedBuckets,
        List.flatMap_map]
      apply List.flatMap_congr
      intro bucket _
      rw [step, List.map_map]
      apply List.map_congr_left
      intro path _
      simp [stepsOf, endOf_cons]

theorem length_stepsOf
    {groups : List Grouping}
    {path : List (Nat × Members)}
    (aligned : path.length = groups.length) :
    (stepsOf groups path).length = groups.length := by
  rw [stepsOf, List.length_zipWith, aligned, min_self]

theorem getElem?_stepsOf
    {groups : List Grouping}
    {path : List (Nat × Members)}
    {level : Nat}
    {group : Grouping}
    {bucket : Nat × Members}
    (grouped : groups[level]? = some group)
    (entered : path[level]? = some bucket) :
    (stepsOf groups path)[level]? =
      some
        { key := groupKey bucket.2 group, count := bucketCount bucket.2 } := by
  rw [stepsOf, List.getElem?_zipWith, grouped, entered]

/-- What the column of an aggregate holds at the end of a path. -/
inductive Cell
    (groups : List Grouping)
    (path : List (Nat × Members)) :
    Measure → Target → Value → Prop where
  /-- All documents are counted in the innermost bucket. -/
  | documents
      {innermost : Nat × Members}
      (last : path.getLast? = some innermost) :
      Cell groups path .count .allDocuments (.ofWord (bucketCount innermost.2))
  /-- A field is counted in the bucket of the innermost level on it. -/
  | level
      {depth : Nat}
      {group : Grouping}
      {bucket : Nat × Members}
      (grouped : groups[depth]? = some group)
      (innermost : ∀ deeper other,
        depth < deeper → groups[deeper]? = some other →
          other.field ≠ group.field)
      (entered : path[depth]? = some bucket) :
      Cell groups path .count (.field group.field)
        (.ofWord (bucketCount bucket.2))
  /-- Anything else is read from the statistics in the innermost bucket. -/
  | statistic
      {measure : Measure}
      {field : String}
      {innermost : Nat × Members}
      (unleveled : measure = .count → ∀ group ∈ groups, group.field ≠ field)
      (last : path.getLast? = some innermost) :
      Cell groups path measure (.field field)
        ((statisticOf? innermost.2 (statisticsName field) measure.word).getD
          measure.absent)

/-- The columns of a row at the end of a path, and what they hold. -/
structure Query.IsRowAt
    (query : Query)
    (path : List (Nat × Members))
    (row : Row) :
    Prop where
  columns : row.columns = query.labels
  groups :
    ∀ (level : Nat) group bucket,
      query.groups[level]? = some group → path[level]? = some bucket →
        row.get? group.label = some (groupKey bucket.2 group)
  aggregates :
    ∀ aggregate ∈ query.aggregates,
      ∃ value,
        row.get? aggregate.label = some value ∧
          Cell query.groups path aggregate.measure aggregate.target value

section Leaf

variable {groups : List Grouping} {path : List (Nat × Members)}

theorem endOf_eq
    {bucket : Nat × Members}
    (last : path.getLast? = some bucket)
    (scope : Members) :
    endOf scope path = bucket.2 := by
  rw [endOf, last, Option.map_some, Option.getD_some]

theorem count_getLast?_stepsOf
    {bucket : Nat × Members}
    (aligned : path.length = groups.length)
    (last : path.getLast? = some bucket) :
    (stepsOf groups path).getLast?.map Step.count =
      some (bucketCount bucket.2) := by
  rw [List.getLast?_eq_getElem?] at last
  have within : path.length - 1 < groups.length :=
    aligned ▸ (List.getElem?_eq_some_iff.1 last).1
  have grouped : groups[path.length - 1]? = some groups[path.length - 1] :=
    List.getElem?_eq_getElem within
  rw [List.getLast?_eq_getElem?, length_stepsOf aligned, ← aligned,
    getElem?_stepsOf grouped last, Option.map_some]

theorem cell_measureValue
    {aggregate : Aggregate}
    {field : String}
    {innermost : Nat × Members}
    (target : aggregate.target = .field field)
    (unleveled :
      aggregate.measure = .count → ∀ group ∈ groups, group.field ≠ field)
    (last : path.getLast? = some innermost) :
    Cell groups path aggregate.measure aggregate.target
      (measureValue aggregate innermost.2) := by
  rw [measureValue_eq, target, Target.field?, Option.bind_some]
  exact .statistic unleveled last

theorem cell_leafValue
    {aggregate : Aggregate}
    (grouped : groups ≠ [])
    (aligned : path.length = groups.length)
    (measurable : aggregate.Measurable)
    (scope : Members) :
    Cell groups path aggregate.measure aggregate.target
      (leafValue groups (stepsOf groups path) (endOf scope path)
        aggregate) := by
  have entered : path ≠ [] := by
    rw [← List.length_pos_iff, aligned]
    exact List.length_pos_iff.2 grouped
  obtain ⟨innermost, last⟩ : ∃ innermost, path.getLast? = some innermost :=
    ⟨_, List.getLast?_eq_some_getLast entered⟩
  rw [endOf_eq last]
  by_cases counted : aggregate.measure = .count
  · cases target : aggregate.target with
    | allDocuments =>
        simp only [leafValue, counted, target]
        rw [count_getLast?_stepsOf aligned last, Option.getD_some]
        exact .documents last
    | field field =>
        simp only [leafValue, counted, target]
        cases found : lastLevel? field groups with
        | none =>
            have unleveled := lastLevel?_eq_none_iff.1 found
            have cell := cell_measureValue target (fun _ => unleveled) last
            simp only [countOn?_eq_none found]
            rwa [counted, target] at cell
        | some level =>
            rcases lastLevel?_eq_some found with ⟨⟨group, here, rfl⟩, beyond⟩
            rcases exists_getElem?_of_lastLevel? aligned found with
              ⟨bucket, entered⟩
            simp only [countOn?_eq_some found (getElem?_stepsOf here entered)]
            exact .level here beyond entered
  · rcases Aggregate.Measurable.exists_field measurable counted with
      ⟨field, target⟩
    rw [leafValue_eq_measureValue counted]
    exact cell_measureValue target (fun same => absurd same counted) last

end Leaf

theorem Query.isRowAt_leafRow
    {query : Query}
    (accepted : query.Accepted)
    (grouped : query.groups ≠ [])
    {path : List (Nat × Members)}
    (aligned : path.length = query.groups.length)
    (scope : Members) :
    query.IsRowAt path
      (leafRow query (stepsOf query.groups path) (endOf scope path)) := by
  have complete := length_stepsOf aligned
  exact
    { columns := columns_leafRow accepted complete _
      groups := fun level group bucket here entered =>
        get?_leafRow_group accepted complete _ here
          (getElem?_stepsOf here entered)
      aggregates := fun aggregate member =>
        ⟨_, get?_leafRow_aggregate accepted complete _ member,
          cell_leafValue grouped aligned
            (accepted.aggregates aggregate member).2 scope⟩ }

theorem flattenResponse_eq_map
    {query : Query}
    (accepted : query.Accepted)
    (grouped : query.groups ≠ [])
    (response : SearchResponse) :
    flattenResponse query response =
      (pathsFrom response.aggregations query.groups).map fun path =>
        leafRow query (stepsOf query.groups path)
          (endOf response.aggregations path) := by
  rw [accepted.flattenResponse_eq_flattenLevels grouped, flattenLevels_eq_map]
  simp only [List.nil_append]

/--
The answer to a grouped query has one row for every path, in the order of the
places of their buckets, and the walk with a stack arrives at these rows
without a lookup that fails.
-/
theorem rows_of_paths
    {query : Query}
    (checked : query.check = .ok ())
    (grouped : query.groups ≠ [])
    (response : SearchResponse) :
    walkLevel? query 0 response.aggregations Walk.start =
        some { path := [], rows := flattenResponse query response } ∧
      ∃ paths : List (List (Nat × Members)),
        (∀ path, path ∈ paths ↔
          PathAt response.aggregations query.groups path) ∧
          paths.Pairwise
              (fun earlier later => earlier.map Prod.fst < later.map Prod.fst) ∧
            List.Forall₂ query.IsRowAt paths
              (flattenResponse query response) := by
  have accepted := Query.check_eq_ok_iff.1 checked
  refine ⟨walkLevel?_start accepted grouped response,
    pathsFrom response.aggregations query.groups, fun path => mem_pathsFrom,
    pairwise_pathsFrom response.aggregations query.groups, ?_⟩
  rw [flattenResponse_eq_map accepted grouped, List.forall₂_map_right_iff,
    List.forall₂_same]
  intro path member
  exact query.isRowAt_leafRow accepted grouped
    (mem_pathsFrom.1 member).length_eq _

/-- Documents by their host and then by their status, with how many there are at
the host, and how many of them and with how many bytes in all. -/
def hostStatuses : Query :=
  { Query.ofTable "db" "t" with
    groups := [.byField "host" "host", .byField "status" "status"]
    aggregates :=
      [{ label := "at host", measure := .count, target := .field "host" },
        { label := "all", measure := .count, target := .allDocuments },
        { label := "bytes", measure := .sum, target := .field "bytes" }] }

/-- A bucket of a host with a status next to something else, and
one without statuses. -/
def hostBuckets : SearchResponse :=
  { took := 0
    timedOut := false
    scrollId := none
    total := 3
    hits := []
    aggregations :=
      [("host",
        .object
          [("buckets",
            .array
              [.object
                [("key", .string "a"),
                  ("doc_count", .ofWord 2),
                  ("status",
                    .object
                      [("buckets",
                        .array
                          [.null,
                            .object
                              [("key", .string "ok"),
                                ("doc_count", .ofWord 1),
                                ("_stats_bytes",
                                  .object [("sum", .ofWord 7)])]])])],
              .object [("key", .string "b"), ("doc_count", .ofWord 1)]])])] }

theorem rows_of_paths_hostStatuses :
    hostStatuses.check = .ok () ∧ hostStatuses.groups ≠ [] ∧
      (flattenResponse hostStatuses hostBuckets).map Row.entries =
          [[("host", .string "a"), ("status", .string "ok"),
            ("at host", .ofWord 2), ("all", .ofWord 1), ("bytes", .ofWord 7)]] ∧
        walkLevel? hostStatuses 0 hostBuckets.aggregations Walk.start =
            some
                { path := [],
                  rows := flattenResponse hostStatuses hostBuckets } ∧
          ∃ paths : List (List (Nat × Members)),
            (∀ path,
              path ∈ paths ↔
                PathAt hostBuckets.aggregations hostStatuses.groups path) ∧
              List.Forall₂ hostStatuses.IsRowAt paths
                (flattenResponse hostStatuses hostBuckets) := by
  have checked : hostStatuses.check = .ok () := rfl
  have grouped : hostStatuses.groups ≠ [] := List.cons_ne_nil _ _
  rcases rows_of_paths checked grouped hostBuckets with
    ⟨walked, paths, exactly, -, rows⟩
  exact ⟨checked, grouped, rfl, walked, paths, exactly, rows⟩

end TabularSearch
