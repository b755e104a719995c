import TabularSearch.Proofs.Request.Planned
import TabularSearch.Proofs.Response.Pruned

/-!
# Buckets as a backend writes them

A backend that has parted the documents into buckets answers an aggregation with
a list of them.  Which ones it lists and in which order is up to the kind of the
aggregation.  Every bucket is written as one object: first what the bucket is,
then a result for each of the aggregations inside, under the name that was asked
for.  Where a name comes twice in an object, the last member counts.

The paths through an answer are then the paths through the buckets, and what
stands on them is what the backend has found, unless a name hides it.
-/

namespace TabularSearch

open TabularSearch.Json

/-- What a backend has found out about some of the documents,
and about parts of them. -/
structure Bucket where
  key : Value
  keyText : Option String
  count : UInt64
  /-- The statistics of each field. -/
  statistics : String → Value
  inner : List Bucket

/-- Which of the buckets that were found are listed, and in which order. -/
abbrev Listing := AggregationKind → List Bucket → List Bucket

/-- All buckets are listed as they are. -/
def Listing.whole : Listing := fun _ found => found

/-- The buckets put in the order that is asked for, and of a level on a field
not more of them than are asked for. -/
def Listing.cut (arrange : BucketOrder → List Bucket → List Bucket) : Listing
  | .terms _ size order, found => (arrange order found).take size.toNat
  | .dates _ _ order, found => arrange order found
  | .statistics _, found => found

namespace Bucket

/-- A bucket of documents about which nothing is known but their number. -/
def ofText
    (text : String)
    (count : UInt64)
    (inner : List Bucket) :
    Bucket :=
  { key := .string text
    keyText := none
    count
    statistics := fun _ => .null
    inner }

/-- The members that say what a bucket is. -/
def ownMembers (bucket : Bucket) : Members :=
  match bucket.keyText with
  | some text =>
    [("key", bucket.key), ("key_as_string", .string text),
      ("doc_count", .ofWord bucket.count)]
  | none => [("key", bucket.key), ("doc_count", .ofWord bucket.count)]

end Bucket

mutual

/-- What an aggregation comes to in a bucket. -/
def Aggregation.resultIn
    (listing : Listing)
    (around : Bucket) :
    Aggregation → Value
  | .node _ kind children =>
    match kind with
    | .statistics field => around.statistics field
    | .terms _ _ _ | .dates _ _ _ =>
      .object
        [("buckets",
          .array <|
            (listing kind around.inner).map fun bucket =>
              .object
                (mergeEntries
                  (bucket.ownMembers ++ resultsIn listing bucket children)))]

/-- What is asked for inside a bucket, under its names. -/
def resultsIn
    (listing : Listing)
    (around : Bucket) :
    List Aggregation → Members
  | [] => []
  | node :: rest =>
    (node.name, node.resultIn listing around) :: resultsIn listing around rest

end

namespace Bucket

/-- A bucket written with what is asked for inside it. -/
def written
    (bucket : Bucket)
    (listing : Listing)
    (asked : List Aggregation) :
    Members :=
  mergeEntries (bucket.ownMembers ++ resultsIn listing bucket asked)

end Bucket

/-- The results at the top. -/
def writtenResults
    (listing : Listing)
    (top : Bucket)
    (asked : List Aggregation) :
    Members :=
  mergeEntries (resultsIn listing top asked)

/-- A backend takes every answer from the buckets inside one. -/
def Backend.Serves
    (backend : Backend)
    (listing : Listing)
    (top : Bucket) :
    Prop :=
  ∀ request : SearchRequest,
    ∃ response,
      backend.search request = .ok response ∧
        response.aggregations = writtenResults listing top request.aggregations

/-- An answer with nothing but results of aggregations. -/
def SearchResponse.ofAggregations (aggregations : Members) : SearchResponse :=
  { took := 0, timedOut := false, scrollId := none, total := 0, hits := [],
    aggregations }

/-- A backend with the same aggregations in every answer. -/
def Backend.answering (aggregations : Members) : Backend :=
  { endpoint := "static"
    ping := .ok ()
    search := fun _ => .ok (.ofAggregations aggregations) }

theorem Backend.search_answering
    (aggregations : Members)
    (request : SearchRequest) :
    (Backend.answering aggregations).search request =
      .ok (.ofAggregations aggregations) :=
  rfl

/-- A backend that has nothing but the buckets inside one. -/
def Backend.serving
    (listing : Listing)
    (top : Bucket) :
    Backend :=
  { endpoint := "buckets"
    ping := .ok ()
    search := fun request =>
      .ok (.ofAggregations (writtenResults listing top request.aggregations)) }

theorem Backend.serves_serving
    (listing : Listing)
    (top : Bucket) :
    (Backend.serving listing top).Serves listing top :=
  fun _ => ⟨_, rfl, rfl⟩

/-! ## Reading what is written -/

section Written

variable (listing : Listing) (bucket : Bucket)

theorem map_fst_resultsIn (asked : List Aggregation) :
    (resultsIn listing bucket asked).map Prod.fst =
      asked.map Aggregation.name := by
  induction asked with
  | nil => rfl
  | cons node rest step => rw [resultsIn, List.map_cons, List.map_cons, step]

theorem resultsIn_statistics (fields : List String) :
    resultsIn listing bucket (fields.map Aggregation.statistics) =
      fields.map fun field =>
        (statisticsName field, bucket.statistics field) := by
  induction fields with
  | nil => rfl
  | cons field rest step =>
      rw [List.map_cons, resultsIn, step, List.map_cons]
      rfl

namespace Bucket

/-- A member that is not the name of something inside says
what the bucket is. -/
theorem itemAt?_written
    {asked : List Aggregation}
    {name : String}
    (unasked : name ∉ asked.map Aggregation.name) :
    itemAt? name (bucket.written listing asked) =
      itemAt? name bucket.ownMembers.reverse := by
  have absent :
      name ∉ (resultsIn listing bucket asked).reverse.map Prod.fst := by
    rw [List.map_reverse, List.mem_reverse, map_fst_resultsIn]
    exact unasked
  rw [written, itemAt?_mergeEntries, List.reverse_append, itemAt?_append,
    itemAt?_eq_none absent, Option.none_or]

theorem bucketKey_written
    {asked : List Aggregation}
    (unasked : "key" ∉ asked.map Aggregation.name) :
    bucketKey (bucket.written listing asked) = bucket.key := by
  rw [bucketKey, itemAt?_written listing bucket unasked, ownMembers]
  cases bucket.keyText <;> rfl

theorem bucketCount_written
    {asked : List Aggregation}
    (unasked : "doc_count" ∉ asked.map Aggregation.name) :
    bucketCount (bucket.written listing asked) = bucket.count := by
  have counted : (Value.ofWord bucket.count).asWord? = some bucket.count := by
    simp [Value.ofWord, Value.asWord?, Number.ofNat, Number.toWord?]
  rw [bucketCount, itemAt?_written listing bucket unasked, ownMembers]
  cases bucket.keyText <;> exact congrArg (Option.getD · 0) counted

end Bucket

theorem groupKey_written
    {bucket : Bucket}
    {text : String}
    (key : bucket.key = .string text)
    {asked : List Aggregation}
    (unasked : "key" ∉ asked.map Aggregation.name)
    (listing : Listing)
    (field label : String) :
    groupKey (bucket.written listing asked) (.byField field label) =
      bucket.key := by
  have read := Bucket.bucketKey_written listing bucket unasked
  rw [key] at read
  rw [groupKey, fieldKey, read, key]

section Level

variable (front : Members) (delivery : Delivery) (innermost : List Aggregation)
  (group : Grouping) (rest : List Grouping)

theorem itemAt?_label_resultsIn :
    itemAt? group.label
        (mergeEntries
          (front ++
            resultsIn listing bucket
              (nestLevels delivery innermost (group :: rest)))) =
      some
        (.object
          [("buckets",
            .array <|
              (listing (group.kind delivery) bucket.inner).map fun inner =>
                .object
                  (inner.written listing
                    (nestLevels delivery innermost rest)))]) := by
  rw [itemAt?_mergeEntries, List.reverse_append, nestLevels, resultsIn,
    resultsIn, List.reverse_singleton, List.singleton_append, Aggregation.name,
    itemAt?, if_pos rfl]
  cases group with
  | byField field label =>
      simp [Grouping.kind, Aggregation.resultIn, Bucket.written]
  | byTime field label granularity =>
      simp [Grouping.kind, Aggregation.resultIn, Bucket.written]

theorem bucketsOf_resultsIn :
    bucketsOf
        (mergeEntries
          (front ++
            resultsIn listing bucket
              (nestLevels delivery innermost (group :: rest))))
        group.label =
      (listing (group.kind delivery) bucket.inner).map
        fun inner =>
          inner.written listing (nestLevels delivery innermost rest) := by
  rw [bucketsOf, itemAt?_label_resultsIn]
  simp [Value.get?, itemAt?, Value.asArray?, List.filterMap_map,
    Function.comp_def, Value.asObject?]

end Level

end Written

/-! ## Paths through buckets -/

/-- The buckets on every way through some levels, depth first. -/
def bucketPaths
    (listing : Listing)
    (delivery : Delivery) :
    List Grouping → List Bucket → List (List Bucket)
  | [], _ => [[]]
  | group :: rest, found =>
    (listing (group.kind delivery) found).flatMap fun bucket =>
      (bucketPaths listing delivery rest bucket.inner).map fun path =>
        bucket :: path

/-- The buckets of a way as they are written, each with the
levels that remain inside. -/
def writtenPath
    (listing : Listing)
    (delivery : Delivery)
    (innermost : List Aggregation) :
    List Grouping → List Bucket → List Members
  | _ :: rest, bucket :: path =>
    bucket.written listing (nestLevels delivery innermost rest) ::
      writtenPath listing delivery innermost rest path
  | _, _ => []

theorem map_pathsFrom_resultsIn
    (listing : Listing)
    (delivery : Delivery)
    (innermost : List Aggregation)
    (groups : List Grouping)
    (front : Members)
    (around : Bucket) :
    (pathsFrom
          (mergeEntries
            (front ++
              resultsIn listing around (nestLevels delivery innermost groups)))
          groups).map
        (List.map Prod.snd) =
      (bucketPaths listing delivery groups around.inner).map
        (writtenPath listing delivery innermost groups) := by
  induction groups generalizing front around with
  | nil => rfl
  | cons group rest step =>
      rw [pathsFrom, bucketPaths, List.map_flatMap, List.map_flatMap]
      have places :
          (placedBuckets
              (mergeEntries
                (front ++
                  resultsIn listing around
                    (nestLevels delivery innermost (group :: rest))))
              group.label).map Prod.snd =
            (listing (group.kind delivery) around.inner).map fun inner =>
              inner.written listing (nestLevels delivery innermost rest) := by
        rw [map_snd_placedBuckets, bucketsOf_resultsIn]
      -- Only the members of a bucket matter, not the place where it stands.
      have through (buckets : List (Nat × Members)) :
          (buckets.flatMap fun bucket =>
              ((pathsFrom bucket.2 rest).map fun path => bucket :: path).map
                (List.map Prod.snd)) =
            (buckets.map Prod.snd).flatMap fun members =>
              ((pathsFrom members rest).map (List.map Prod.snd)).map fun path =>
                members :: path := by
        simp only [List.flatMap_map, List.map_map, Function.comp_def,
          List.map_cons]
      rw [through, places, List.flatMap_map]
      apply List.flatMap_congr
      intro bucket _
      rw [Bucket.written, step, List.map_map, List.map_map]
      rfl

/-! ## Rows -/

/-- The row at the end of a path of written buckets. -/
def rowAlong
    (query : Query)
    (scope : Members)
    (path : List Members) :
    Row :=
  leafRow query
    (List.zipWith
      (fun group bucket =>
        { key := groupKey bucket group, count := bucketCount bucket })
      query.groups path)
    (path.getLast?.getD scope)

theorem rowAlong_map_snd
    (query : Query)
    (scope : Members)
    (path : List (Nat × Members)) :
    rowAlong query scope (path.map Prod.snd) =
      leafRow query (stepsOf query.groups path) (endOf scope path) := by
  rw [rowAlong, stepsOf, endOf, List.zipWith_map_right, List.getLast?_map]

/-- The rows of the ways through the buckets that are listed for a delivery. -/
def Query.servedRows
    (query : Query)
    (listing : Listing)
    (top : Bucket)
    (delivery : Delivery) :
    List Row :=
  let innermost := query.measuredFields.map Aggregation.statistics
  (bucketPaths listing delivery query.groups top.inner).map fun path =>
    rowAlong query
      (writtenResults listing top (nestLevels delivery innermost query.groups))
      (writtenPath listing delivery innermost query.groups path)

theorem Query.Accepted.flattenResponse_eq_servedRows
    {query : Query}
    (accepted : query.Accepted)
    (grouped : query.groups ≠ [])
    {listing : Listing}
    {top : Bucket}
    {response : SearchResponse}
    {delivery : Delivery}
    (answered :
      response.aggregations =
        writtenResults listing top
          (nestLevels delivery (query.measuredFields.map Aggregation.statistics)
            query.groups)) :
    flattenResponse query response = query.servedRows listing top delivery := by
  have paths :=
    map_pathsFrom_resultsIn listing delivery
      (query.measuredFields.map Aggregation.statistics) query.groups [] top
  rw [List.nil_append, ← writtenResults, ← answered] at paths
  rw [flattenResponse_eq_map accepted grouped, Query.servedRows, ← answered,
    ← Function.comp_def (rowAlong query response.aggregations), ← List.map_map,
    ← paths, List.map_map]
  apply List.map_congr_left
  intro path _
  exact (rowAlong_map_snd query response.aggregations path).symm

/-- The rows of a query on a backend. -/
def Backend.rowsOf
    (backend : Backend)
    (query : Query) :
    Except QueryError (List Row) :=
  (backend.execute query).result.map ResultSet.rows

theorem Backend.rowsOf_eq_finishRows
    {backend : Backend}
    {query : Query}
    {request : SearchRequest}
    {response : SearchResponse}
    (compiled : SearchRequest.ofChecked query = .ok request)
    (answer : backend.search request = .ok response) :
    backend.rowsOf query =
      .ok
        (finishRows query request.finish (flattenResponse query response)) := by
  simp only [rowsOf, execute, compiled, answer, Except.map,
    ResultSet.ofResponse]

/-- Running a query with groups finishes the rows of the buckets that
are listed for its plan. -/
theorem Backend.Serves.rowsOf_eq_ok
    {backend : Backend}
    {listing : Listing}
    {top : Bucket}
    (serves : backend.Serves listing top)
    {query : Query}
    {request : SearchRequest}
    (compiled : SearchRequest.ofChecked query = .ok request)
    (grouped : query.groups ≠ []) :
    backend.rowsOf query =
      .ok
        (finishRows query
          { sortsRows := query.plan.delivery.sortsRows, pagesRows := true }
          (query.servedRows listing top query.plan.delivery)) := by
  rcases SearchRequest.ofChecked_grouped compiled grouped with
    ⟨accepted, -, asked, finish, -⟩
  rcases serves request with ⟨response, answer, answered⟩
  have rows : flattenResponse query response =
      query.servedRows listing top query.plan.delivery :=
    accepted.flattenResponse_eq_servedRows grouped
      (answered.trans (congrArg (writtenResults listing top) asked))
  rw [rowsOf_eq_finishRows compiled answer, finish, rows]

/-! ## A single level -/

theorem toNat_cappedLimit (limit : UInt64) :
    (cappedLimit (some limit)).toNat = min limit.toNat answerCeiling.toNat := by
  have chosen : cappedLimit (some limit) =
      if limit ≤ answerCeiling then limit else answerCeiling := rfl
  rw [chosen, Nat.min_def]
  by_cases below : limit ≤ answerCeiling
  · rw [if_pos below, if_pos (UInt64.le_iff_toNat_le.1 below)]
  · rw [if_neg below,
      if_neg fun least => below (UInt64.le_iff_toNat_le.2 least)]

theorem toNat_cappedLimit_le (limit : Option UInt64) :
    (cappedLimit limit).toNat ≤ answerCeiling.toNat := by
  cases limit with
  | none => exact le_rfl
  | some limit =>
      rw [toNat_cappedLimit]
      exact Nat.min_le_right _ _

/-- Without rows left out in front, what is not fetched is not shown. -/
theorem pageRows_take_cappedLimit
    {query : Query}
    (first : query.rowOffset = none)
    {rows : List Row}
    (few : rows.length ≤ answerCeiling.toNat) :
    pageRows query (rows.take (cappedLimit query.rowLimit).toNat) =
      pageRows query rows := by
  rw [pageRows, pageRows, first, Option.getD_none, UInt64.toNat_zero,
    List.drop_zero, List.drop_zero]
  cases query.rowLimit with
  | none => exact List.take_of_length_le few
  | some limit =>
      simp only [List.take_take, toNat_cappedLimit]
      rw [List.take_eq_take_iff]
      omega

/-- An innermost bucket as it is written, with the statistics of some fields. -/
def Bucket.writtenWith
    (bucket : Bucket)
    (fields : List String) :
    Members :=
  mergeEntries
    (bucket.ownMembers ++
      fields.map fun field => (statisticsName field, bucket.statistics field))

theorem Bucket.written_statistics
    (listing : Listing)
    (bucket : Bucket)
    (fields : List String) :
    bucket.written listing (fields.map Aggregation.statistics) =
      bucket.writtenWith fields := by
  rw [written, writtenWith, resultsIn_statistics]

theorem notMem_statistics
    {name : String}
    (unmarked : name.toList.head? ≠ some '_')
    (fields : List String) :
    name ∉ (fields.map Aggregation.statistics).map Aggregation.name := by
  let delivery : Delivery := .ofQuery default
  have unasked :
      name ∉
        (nestLevels delivery (fields.map Aggregation.statistics) []).map
            Aggregation.name :=
    notMem_nestLevels unmarked (fun _ none => by cases none) delivery fields
  exact unasked

section WrittenWith

variable (bucket : Bucket) (fields : List String)

theorem groupKey_writtenWith
    {bucket : Bucket}
    {text : String}
    (key : bucket.key = .string text)
    (fields : List String)
    (field label : String) :
    groupKey (bucket.writtenWith fields) (.byField field label) =
      bucket.key := by
  rw [← Bucket.written_statistics .whole]
  exact groupKey_written key (notMem_statistics (by decide) fields) .whole field
    label

theorem Bucket.bucketCount_writtenWith :
    bucketCount (bucket.writtenWith fields) = bucket.count := by
  rw [← written_statistics .whole]
  exact bucketCount_written .whole bucket (notMem_statistics (by decide) fields)

theorem Bucket.itemAt?_writtenWith
    (distinct : fields.Nodup)
    {field : String}
    (member : field ∈ fields) :
    itemAt? (statisticsName field) (bucket.writtenWith fields) =
      some (bucket.statistics field) := by
  let results : Members :=
    fields.map fun field => (statisticsName field, bucket.statistics field)
  have names : (results.reverse.map Prod.fst).Nodup := by
    rw [List.map_reverse, List.nodup_reverse, List.map_map]
    exact distinct.map statisticsName_injective
  have found :
      (statisticsName field, bucket.statistics field) ∈ results.reverse :=
    List.mem_reverse.2 (List.mem_map_of_mem member)
  rw [writtenWith, itemAt?_mergeEntries, List.reverse_append, itemAt?_append,
    itemAt?_of_mem names found, Option.some_or]

end WrittenWith

/-- The row of a bucket of the only level. -/
def Query.bucketRow
    (query : Query)
    (group : Grouping)
    (bucket : Bucket) :
    Row :=
  let members := bucket.writtenWith query.measuredFields
  leafRow query
    [{ key := groupKey members group, count := bucketCount members }] members

theorem Query.servedRows_single
    {query : Query}
    {group : Grouping}
    (single : query.groups = [group])
    (listing : Listing)
    (top : Bucket)
    (delivery : Delivery) :
    query.servedRows listing top delivery =
      (listing (group.kind delivery) top.inner).map
        (query.bucketRow group) := by
  have row (bucket : Bucket) (scope : Members) :
      rowAlong query scope
          (writtenPath listing delivery
            (query.measuredFields.map Aggregation.statistics)
            [group] [bucket]) =
        query.bucketRow group bucket := by
    rw [writtenPath, nestLevels, Bucket.written_statistics, rowAlong, single]
    rfl
  rw [servedRows, single, bucketPaths, List.map_flatMap]
  simp only [bucketPaths, List.map_singleton, row]
  exact List.map_eq_flatMap.symm

end TabularSearch
