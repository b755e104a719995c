import TabularSearch.Proofs.Filter.Meaning
import TabularSearch.Proofs.Request.Planned
import TabularSearch.Proofs.Response.Cells

/-!
# Aggregates beside each other

All aggregates of a query without groups are taken of the same documents.  A
count of a field narrows them to the documents that have the field, for
itself and for every aggregate beside it.  So the column of a count is what
the count alone would give exactly if every document that it counts alone
has all the counted fields.
-/

namespace TabularSearch

open TabularSearch.Json

/-- The query with one of its aggregates only. -/
def Query.only
    (query : Query)
    (aggregate : Aggregate) :
    Query :=
  { query with aggregates := [aggregate] }

namespace Query.Accepted

variable {query : Query} (accepted : query.Accepted)

include accepted

theorem only
    {aggregate : Aggregate}
    (member : aggregate ∈ query.aggregates) :
    (query.only aggregate).Accepted := by
  have aggregated : query.isAggregate = true := by
    simp [Query.isAggregate, List.ne_nil_of_mem member]
  have undistinct := accepted.distinct_eq_false aggregated
  have fewer : (query.only aggregate).labels.Sublist query.labels :=
    (List.Sublist.refl _).append
      (List.singleton_sublist.2 (List.mem_map_of_mem member))
  exact
    { database := accepted.database
      table := accepted.table
      fields := accepted.fields
      distinct := fun asked => by
        rw [Query.only, undistinct] at asked
        cases asked
      condition := accepted.condition
      groups := accepted.groups
      aggregates := fun other single => by
        rw [List.mem_singleton.1 single]
        exact accepted.aggregates aggregate member
      labels := accepted.labels.sublist fewer
      sort := accepted.sort }

end Query.Accepted

/-- Documents, how a backend decides on them, and its statistics
of a field over some. -/
structure Collection (Document : Type) where
  leaves : Leaves Document
  statistics : String → List Document → Value
  documents : List Document

/-- The value of an aggregate taken of some documents. -/
def Aggregate.valueOver
    {Document : Type}
    (statistics : String → List Document → Value)
    (documents : List Document)
    (aggregate : Aggregate) :
    Value :=
  match aggregate.measure with
  | .count => .ofWord (UInt64.ofNat documents.length)
  | measure =>
    (aggregate.target.field?.bind fun field =>
      ((statistics field documents).get? measure.word).filter
        fun statistic => !statistic.isNull).getD measure.absent

theorem Aggregate.valueOver_eq
    {Document : Type}
    {aggregate : Aggregate}
    {field : String}
    (uncounted : aggregate.measure ≠ .count)
    (target : aggregate.target = .field field)
    (statistics : String → List Document → Value)
    (documents : List Document) :
    aggregate.valueOver statistics documents =
      (((statistics field documents).get? aggregate.measure.word).filter
        fun statistic => !statistic.isNull).getD aggregate.measure.absent := by
  unfold valueOver
  split
  · contradiction
  · rw [target, Target.field?, Option.bind_some]

namespace Collection

variable {Document : Type} (collection : Collection Document)

/-- The documents that a filter matches in the form in which it is sent. -/
def matching (filter : Filter) : List Document :=
  collection.documents.filter fun document =>
    verdict? collection.leaves document filter.toValue = some true

/-- The documents of which a condition holds and which have some fields. -/
def having
    (condition : Option Condition)
    (fields : List String) :
    List Document :=
  collection.documents.filter fun document =>
    condition.all (·.holds collection.leaves document) &&
      fields.all fun field => collection.leaves.present field document

/-- An answer that is true to the documents: the exact number of those that
match, and the statistics over them under the names that were asked for. -/
structure Answers
    (request : SearchRequest)
    (response : SearchResponse) : Prop where
  total : response.total.toNat = (collection.matching request.filter).length
  statistics :
    ∀ name field children,
      Aggregation.node name (.statistics field) children ∈
          request.aggregations →
        itemAt? name response.aggregations =
          some
            (collection.statistics field (collection.matching request.filter))

theorem matching_eq_having
    {condition : Option Condition}
    {fields : List String}
    {filter : Filter}
    (compiled :
      Filter.ofQuery condition (fields.map Filter.present) = .ok filter) :
    collection.matching filter = collection.having condition fields := by
  apply List.filter_congr
  intro document _
  rw [Filter.verdict?_toValue,
    Filter.holds_ofQuery_present collection.leaves document compiled]
  simp only [Option.some.injEq, Bool.decide_eq_true]

/-- Asking for more fields keeps the documents that have these too. -/
theorem having_eq_filter
    {condition : Option Condition}
    {fields more : List String}
    (wider : ∀ field ∈ fields, field ∈ more) :
    collection.having condition more =
      (collection.having condition fields).filter fun document =>
        more.all fun field => collection.leaves.present field document := by
  rw [having, having, List.filter_filter]
  apply List.filter_congr
  intro document _
  rw [Bool.eq_iff_iff]
  simp only [Bool.and_eq_true, List.all_eq_true]
  constructor
  · rintro ⟨holds, all⟩
    exact ⟨all, holds, fun field member => all field (wider field member)⟩
  · rintro ⟨all, holds, -⟩
    exact ⟨holds, all⟩

section Answered

variable {query : Query} {request : SearchRequest} {response : SearchResponse}

theorem matching_eq_having_countedFields
    (planned : SearchRequest.ofPlan query query.plan = .ok request) :
    collection.matching request.filter =
      collection.having query.condition query.countedFields := by
  rcases map_eq_ok_iff.1 planned with ⟨filter, compiled, rfl⟩
  exact collection.matching_eq_having compiled

theorem itemAt?_statisticsName
    (planned : SearchRequest.ofPlan query query.plan = .ok request)
    (ungrouped : query.groups = [])
    (answered : collection.Answers request response)
    {field : String}
    (measured : field ∈ query.measuredFields) :
    itemAt? (statisticsName field) response.aggregations =
      some
        (collection.statistics field
          (collection.having query.condition query.countedFields)) := by
  have asked : Aggregation.statistics field ∈ request.aggregations := by
    rcases map_eq_ok_iff.1 planned with ⟨filter, compiled, rfl⟩
    simp only [Query.plan, ungrouped, nestLevels]
    exact List.mem_map_of_mem measured
  rw [answered.statistics _ field [] asked,
    collection.matching_eq_having_countedFields planned]

/-- The value of an aggregate in a true answer to a query without groups. -/
theorem totalValue_eq_value
    (accepted : query.Accepted)
    (planned : SearchRequest.ofPlan query query.plan = .ok request)
    (ungrouped : query.groups = [])
    (answered : collection.Answers request response)
    {aggregate : Aggregate}
    (member : aggregate ∈ query.aggregates) :
    totalValue response aggregate =
      aggregate.valueOver collection.statistics
        (collection.having query.condition query.countedFields) := by
  by_cases counted : aggregate.measure = .count
  · have total : UInt64.ofNat
        (collection.having query.condition query.countedFields).length =
          response.total := by
      rw [← collection.matching_eq_having_countedFields planned,
        ← answered.total, UInt64.ofNat_toNat]
    simp only [totalValue, Aggregate.valueOver, counted, total]
  · rcases (accepted.aggregates aggregate member).2.exists_field counted with
      ⟨field, target⟩
    have measured := Query.mem_measuredFields_of_uncounted member counted target
    have found :=
      collection.itemAt?_statisticsName planned ungrouped answered measured
    rw [totalValue_eq_measureValue counted, measureValue_eq,
      Aggregate.valueOver_eq counted target, target, Target.field?,
      Option.bind_some, statisticOf?, found, Option.bind_some]

end Answered

/-- Every document that counts for an aggregate alone has all the fields that
are counted beside it. -/
def Covers
    (query : Query)
    (aggregate : Aggregate) :
    Prop :=
  ∀ document ∈ collection.documents,
    query.condition.all (·.holds collection.leaves document) = true →
      (∀ field, aggregate.Counts field →
        collection.leaves.present field document = true) →
        ∀ other ∈ query.aggregates, ∀ field, other.Counts field →
          collection.leaves.present field document = true

section Alone

variable {query : Query} (ungrouped : query.groups = []) {aggregate : Aggregate}
  (member : aggregate ∈ query.aggregates)

include ungrouped

theorem mem_having_countedFields {document : Document} :
    document ∈ collection.having query.condition query.countedFields ↔
      document ∈ collection.documents ∧
        query.condition.all (·.holds collection.leaves document) = true ∧
          ∀ other ∈ query.aggregates, ∀ field, other.Counts field →
            collection.leaves.present field document = true := by
  simp only [having, List.mem_filter, Bool.and_eq_true, List.all_eq_true,
    Query.mem_countedFields ungrouped]
  constructor
  · rintro ⟨stored, holds, all⟩
    exact ⟨stored, holds, fun other beside field counts =>
      all field ⟨other, beside, counts⟩⟩
  · rintro ⟨stored, holds, all⟩
    exact ⟨stored, holds, fun field ⟨other, beside, counts⟩ =>
      all other beside field counts⟩

include member

/-- The fields that are counted by an aggregate alone are
counted beside the others. -/
theorem countedFields_only_subset :
    ∀ field ∈ (query.only aggregate).countedFields,
      field ∈ query.countedFields := by
  intro field counted
  have alone : (query.only aggregate).groups = [] := ungrouped
  rcases (Query.mem_countedFields alone).1 counted with ⟨other, single, counts⟩
  rw [Query.only, List.mem_singleton] at single
  subst single
  exact (Query.mem_countedFields ungrouped).2 ⟨other, member, counts⟩

/-- The documents that all aggregates share are as many as those of one of them
alone exactly if these have all the counted fields. -/
theorem length_having_eq_iff :
    (collection.having query.condition query.countedFields).length =
        (collection.having query.condition
          (query.only aggregate).countedFields).length ↔
      collection.Covers query aggregate := by
  have alone : (query.only aggregate).groups = [] := ungrouped
  rw [collection.having_eq_filter (countedFields_only_subset ungrouped member),
    List.length_filter_eq_length_iff]
  constructor
  · intro covered document stored holds own other beside field counts
    have kept :
        document ∈
          collection.having query.condition
              (query.only aggregate).countedFields :=
      (collection.mem_having_countedFields alone).2
        ⟨stored, holds, fun single only => by
          rw [Query.only, List.mem_singleton] at only
          subst only
          exact own⟩
    exact List.all_eq_true.1 (covered document kept) field
      ((Query.mem_countedFields ungrouped).2 ⟨other, beside, counts⟩)
  · intro covered document kept
    rcases (collection.mem_having_countedFields alone).1 kept with
      ⟨stored, holds, own⟩
    refine List.all_eq_true.2 fun field counted => ?_
    rcases (Query.mem_countedFields ungrouped).1 counted with
      ⟨other, beside, counts⟩
    exact covered document stored holds
      (own aggregate (List.mem_singleton_self aggregate))
      other beside field counts

/-- Where every document has the counted fields, the aggregates
share what each has alone. -/
theorem having_eq_of_covers (covered : collection.Covers query aggregate) :
    collection.having query.condition query.countedFields =
      collection.having query.condition
        (query.only aggregate).countedFields := by
  have lengths := (collection.length_having_eq_iff ungrouped member).2 covered
  rw [collection.having_eq_filter (countedFields_only_subset ungrouped member)]
    at lengths ⊢
  exact List.filter_sublist.eq_of_length lengths

/-- A statistic may depend on every document, so nothing less will
do for all statistics. -/
theorem valueOver_eq_iff_covers (uncounted : aggregate.measure ≠ .count)
    {field : String}
    (target : aggregate.target = .field field) :
    (∀ statistics,
        aggregate.valueOver statistics
            (collection.having query.condition query.countedFields) =
          aggregate.valueOver statistics
            (collection.having query.condition
              (query.only aggregate).countedFields)) ↔
      collection.Covers query aggregate := by
  constructor
  · intro agree
    -- The number of documents, told in a form that any length fits.
    have told := agree fun _ documents =>
      .object [(aggregate.measure.word, .array (documents.map fun _ => .null))]
    simp only [Aggregate.valueOver_eq uncounted target, Value.get?, itemAt?,
      if_true, Option.filter_some, Value.isNull, Bool.not_false,
      Option.getD_some, Value.array.injEq]
      at told
    have lengths := congrArg List.length told
    rw [List.length_map, List.length_map] at lengths
    exact (collection.length_having_eq_iff ungrouped member).1 lengths
  · intro covered statistics
    rw [collection.having_eq_of_covers ungrouped member covered]

end Alone

/-- An accepted query without groups has one row, which holds the value
of each aggregate over the documents that all of them share; the answer
tells how many these are. -/
theorem exists_totalsRow
    {query : Query}
    {request : SearchRequest}
    {response : SearchResponse}
    (compiled : SearchRequest.ofChecked query = .ok request)
    (ungrouped : query.groups = [])
    (answered : collection.Answers request response)
    {aggregate : Aggregate}
    (member : aggregate ∈ query.aggregates) :
    ∃ row,
      flattenResponse query response = [row] ∧
        response.total.toNat =
          (collection.having query.condition query.countedFields).length ∧
        row.get? aggregate.label =
          some
            (aggregate.valueOver collection.statistics
              (collection.having query.condition query.countedFields)) := by
  have measured := List.ne_nil_of_mem member
  rcases SearchRequest.ofChecked_eq_ok_iff.1 compiled with ⟨accepted, sent⟩
  have undistinct : query.distinct = false :=
    accepted.distinct_eq_false (by simp [Query.isAggregate, measured])
  rw [SearchRequest.ofQuery_eq_ofPlan accepted undistinct] at sent
  refine ⟨totalsRow query response,
    accepted.flattenResponse_eq_totalsRow ungrouped measured response, ?_, ?_⟩
  · rw [answered.total, collection.matching_eq_having_countedFields sent]
  · rw [get?_totalsRow accepted member,
      collection.totalValue_eq_value accepted sent ungrouped answered member]

end Collection

theorem SearchRequest.exists_ofChecked_only
    {query : Query}
    {request : SearchRequest}
    (compiled : ofChecked query = .ok request)
    {aggregate : Aggregate}
    (member : aggregate ∈ query.aggregates) :
    ∃ alone, ofChecked (query.only aggregate) = .ok alone := by
  rcases ofChecked_eq_ok_iff.1 compiled with ⟨accepted, sent⟩
  have undistinct : query.distinct = false :=
    accepted.distinct_eq_false
      (by simp [Query.isAggregate, List.ne_nil_of_mem member])
  rw [ofQuery_eq_ofPlan accepted undistinct] at sent
  rcases map_eq_ok_iff.1 sent with ⟨filter, found, -⟩
  have undistinctAlone : (query.only aggregate).distinct = false := undistinct
  exact exists_ofChecked (accepted.only member) undistinctAlone found

/--
The column of an aggregate beside others, and the column that the aggregate
alone would give.  The first is taken of the documents that have all the
counted fields, the second of those that have the aggregate's own counted
field.  If every document that counts for the aggregate alone has all the
counted fields, the columns are the same.  For a count this is the only way for
them to be the same, and for another measure the only way for them to be the
same whatever the statistics are.
-/
theorem totals_column_beside_others
    {Document : Type}
    (collection : Collection Document)
    {query : Query}
    {request : SearchRequest}
    {response : SearchResponse}
    (compiled : SearchRequest.ofChecked query = .ok request)
    (ungrouped : query.groups = [])
    (answered : collection.Answers request response)
    {aggregate : Aggregate}
    (member : aggregate ∈ query.aggregates) :
    ∃ alone,
      SearchRequest.ofChecked (query.only aggregate) = .ok alone ∧
        ∀ other, collection.Answers alone other →
          ∃ row single,
            flattenResponse query response = [row] ∧
              flattenResponse (query.only aggregate) other = [single] ∧
              row.get? aggregate.label =
                some
                  (aggregate.valueOver collection.statistics
                    (collection.having query.condition query.countedFields)) ∧
              single.get? aggregate.label =
                some
                  (aggregate.valueOver collection.statistics
                    (collection.having query.condition
                      (query.only aggregate).countedFields)) ∧
              (collection.Covers query aggregate →
                row.get? aggregate.label = single.get? aggregate.label) ∧
              (aggregate.measure = .count →
                row.get? aggregate.label = single.get? aggregate.label →
                  collection.Covers query aggregate) ∧
              (aggregate.measure ≠ .count →
                (∀ statistics,
                  aggregate.valueOver statistics
                      (collection.having query.condition query.countedFields) =
                    aggregate.valueOver statistics
                      (collection.having query.condition
                        (query.only aggregate).countedFields)) →
                  collection.Covers query aggregate) := by
  rcases SearchRequest.exists_ofChecked_only compiled member with
    ⟨alone, compiledAlone⟩
  refine ⟨alone, compiledAlone, fun other answeredAlone => ?_⟩
  obtain ⟨row, rows, total, cell⟩ :=
    collection.exists_totalsRow compiled ungrouped answered member
  obtain ⟨single, singles, totalAlone, cellAlone⟩ :=
    collection.exists_totalsRow compiledAlone ungrouped answeredAlone
      (List.mem_singleton_self aggregate)
  refine ⟨row, single, rows, singles, cell, cellAlone, ?_, ?_, ?_⟩
  · intro covered
    rw [cell, cellAlone,
      collection.having_eq_of_covers ungrouped member covered]
    rfl
  · intro counted same
    rw [cell, cellAlone, Option.some_inj] at same
    simp only [Aggregate.valueOver, counted, ofWord_inj, ← total, ← totalAlone,
      UInt64.ofNat_toNat] at same
    rw [← collection.length_having_eq_iff ungrouped member, ← total, same,
      totalAlone]
    rfl
  · intro uncounted agree
    rcases SearchRequest.ofChecked_eq_ok_iff.1 compiled with ⟨accepted, -⟩
    rcases (accepted.aggregates aggregate member).2.exists_field uncounted with
      ⟨field, target⟩
    exact (collection.valueOver_eq_iff_covers ungrouped member uncounted
      target).1 agree

/-! ## Two counts of two documents -/

/-- The count of all documents. -/
def countOfAll : Aggregate :=
  { label := "all", measure := .count, target := .allDocuments }

/-- The counts of all documents and of those with a host. -/
def hostCounts : Query :=
  { Query.ofTable "db" "t" with
    aggregates :=
      [countOfAll,
        { label := "named", measure := .count, target := .field "host" }] }

/-- One document with a host and one without. -/
def twoDocuments : Collection (List String) :=
  { leaves := .ofNames
    statistics := fun _ _ => .null
    documents := [["host"], ["size"]] }

/-- An answer that tells how many documents match and nothing else. -/
def SearchResponse.ofTotal (total : UInt64) : SearchResponse :=
  { took := 0, timedOut := false, scrollId := none, total, hits := [],
    aggregations := [] }

theorem Collection.answers_ofTotal
    {Document : Type}
    {collection : Collection Document}
    {request : SearchRequest}
    {total : UInt64}
    (unmeasured : request.aggregations = [])
    (counted : total.toNat = (collection.matching request.filter).length) :
    collection.Answers request (.ofTotal total) :=
  { total := counted
    statistics := fun _ _ _ asked => by
      rw [unmeasured] at asked
      cases asked }

/-- Beside the count of hosts, the count of all documents leaves out
those without a host. -/
theorem count_narrowed_beside_count :
    ∃ request alone,
      SearchRequest.ofChecked hostCounts = .ok request ∧
        SearchRequest.ofChecked (hostCounts.only countOfAll) = .ok alone ∧
        twoDocuments.Answers request (.ofTotal 1) ∧
        twoDocuments.Answers alone (.ofTotal 2) ∧
        (flattenResponse hostCounts (.ofTotal 1)).map (·.get? "all") =
            [some (.ofWord 1)] ∧
        (flattenResponse (hostCounts.only countOfAll) (.ofTotal 2)).map
            (·.get? "all") =
          [some (.ofWord 2)] := by
  refine ⟨_, _, rfl, rfl, ?_, ?_, rfl, rfl⟩
  · exact Collection.answers_ofTotal rfl rfl
  · exact Collection.answers_ofTotal rfl rfl

theorem totals_column_beside_others_hostCounts :
    ∃ alone,
      SearchRequest.ofChecked (hostCounts.only countOfAll) = .ok alone ∧
        ∀ other, twoDocuments.Answers alone other →
          ∃ row single,
            flattenResponse hostCounts (.ofTotal 1) = [row] ∧
              flattenResponse (hostCounts.only countOfAll) other = [single] ∧
              row.get? "all" = some (.ofWord 1) ∧
                single.get? "all" = some (.ofWord 2) := by
  obtain ⟨request, compiled, answered⟩ :
      ∃ request,
        SearchRequest.ofChecked hostCounts = .ok request ∧
          twoDocuments.Answers request (.ofTotal 1) :=
    ⟨_, rfl, Collection.answers_ofTotal rfl rfl⟩
  have member : countOfAll ∈ hostCounts.aggregates := List.mem_cons_self
  obtain ⟨alone, compiledAlone, columns⟩ :=
    totals_column_beside_others twoDocuments compiled rfl answered member
  refine ⟨alone, compiledAlone, fun other answeredAlone => ?_⟩
  rcases columns other answeredAlone with
    ⟨row, single, rows, singles, cell, cellAlone, -⟩
  exact ⟨row, single, rows, singles, cell, cellAlone⟩

end TabularSearch
