import TabularSearch.Proofs.Response.Paths

/-!
# What rows are read from

The rows of an accepted query depend on little of an answer: on the buckets of
each level with their keys and their numbers of documents, on the statistics of
the measured fields in the innermost scopes, and on the number of matching
documents where a count without groups asks for it.  Answers that agree on
these have the same rows.
-/

namespace TabularSearch

open TabularSearch.Json

namespace Query

/-- What is measured is read from the statistics of its field; a count only
where no level is on the field. -/
theorem measuredField?_eq_some
    {query : Query}
    {aggregate : Aggregate}
    {field : String}
    (measured : query.measuredField? aggregate = some field) :
    aggregate.target = .field field ∧
      (aggregate.measure = .count →
        query.groups ≠ [] ∧ ∀ group ∈ query.groups, group.field ≠ field) := by
  rcases aggregate with ⟨label, measure, target⟩
  cases measure <;> cases target <;>
    simp_all [measuredField?, Target.field?, Option.filter_eq_some_iff]

/-- What is not measured is a count, of all documents or of a
field that a level is on. -/
theorem measuredField?_eq_none
    {query : Query}
    {aggregate : Aggregate}
    (measurable : aggregate.Measurable)
    (unmeasured : query.measuredField? aggregate = none) :
    aggregate.measure = .count ∧
      ∀ field, aggregate.target = .field field → query.groups ≠ [] →
        ∃ group ∈ query.groups, group.field = field := by
  rcases aggregate with ⟨label, measure, target⟩
  cases measure <;> cases target <;>
    simp_all [measuredField?, Target.field?, Aggregate.Measurable]

end Query

/-! ## Values -/

theorem measureValue_congr
    {aggregate : Aggregate}
    {left right : Members}
    (same : ∀ field, aggregate.target = .field field →
      itemAt? (statisticsName field) left =
        itemAt? (statisticsName field) right) :
    measureValue aggregate left = measureValue aggregate right := by
  rw [measureValue_eq, measureValue_eq]
  cases target : aggregate.target with
  | allDocuments => rfl
  | field field =>
      simp only [Target.field?, Option.bind_some, statisticOf?,
        same field target]

section Leaf

variable {query : Query} {steps : List Step} {aggregate : Aggregate}

theorem leafValue_of_measured
    {field : String}
    (measured : query.measuredField? aggregate = some field)
    (scope : Members) :
    leafValue query.groups steps scope aggregate =
      measureValue aggregate scope := by
  rcases Query.measuredField?_eq_some measured with ⟨target, unleveled⟩
  unfold leafValue
  split
  · rename_i everything
    rw [target] at everything
    cases everything
  · rename_i other counted here
    obtain rfl : field = other := Target.field.inj (target.symm.trans here)
    have missing := lastLevel?_eq_none_iff.2 (unleveled counted).2
    simp only [countOn?_eq_none missing]
  · rfl

theorem countOn?_isSome
    {groups : List Grouping}
    {steps : List Step}
    (aligned : steps.length = groups.length)
    {group : Grouping}
    (member : group ∈ groups) :
    ∃ count, countOn? groups steps group.field = some count := by
  cases found : lastLevel? group.field groups with
  | none => exact absurd rfl (lastLevel?_eq_none_iff.1 found group member)
  | some level =>
      rcases exists_getElem?_of_lastLevel? aligned found with ⟨step, taken⟩
      exact ⟨step.count, countOn?_eq_some found taken⟩

theorem leafValue_congr
    {left right : Members}
    (grouped : query.groups ≠ [])
    (aligned : steps.length = query.groups.length)
    (member : aggregate ∈ query.aggregates)
    (measurable : aggregate.Measurable)
    (same : ∀ field ∈ query.measuredFields,
      itemAt? (statisticsName field) left =
        itemAt? (statisticsName field) right) :
    leafValue query.groups steps left aggregate =
      leafValue query.groups steps right aggregate := by
  cases measured : query.measuredField? aggregate with
  | some field =>
      rw [leafValue_of_measured measured, leafValue_of_measured measured]
      apply measureValue_congr
      intro other target
      have here := (Query.measuredField?_eq_some measured).1
      obtain rfl : field = other := Target.field.inj (here.symm.trans target)
      exact same field
        (Query.mem_measuredFields.2 ⟨aggregate, member, measured⟩)
  | none =>
      rcases Query.measuredField?_eq_none measurable measured with
        ⟨counted, leveled⟩
      cases target : aggregate.target with
      | allDocuments => simp only [leafValue, counted, target]
      | field field =>
          rcases leveled field target grouped with ⟨group, within, rfl⟩
          rcases countOn?_isSome aligned within with ⟨count, found⟩
          simp only [leafValue, counted, target, found]

end Leaf

/-! ## Rows -/

/-- Two scopes look alike to what goes down through some levels and reads the
statistics of the measured fields at the end. -/
def ReadAlike (query : Query) : List Grouping → Members → Members → Prop
  | [], left, right =>
    ∀ field ∈ query.measuredFields,
      itemAt? (statisticsName field) left = itemAt? (statisticsName field) right
  | group :: rest, left, right =>
    List.Forall₂
      (fun first second =>
        groupKey first group = groupKey second group ∧
          bucketCount first = bucketCount second ∧
            ReadAlike query rest first second)
      (bucketsOf left group.label) (bucketsOf right group.label)

/-- What related elements give is alike, and so is all of it, for a likeness of
lists that appending keeps. -/
theorem flatMap_of_forall₂
    {Left Right Item : Type}
    {related : Left → Right → Prop}
    {alike : List Item → List Item → Prop}
    (nil : alike [] [])
    (append :
      ∀ {front back former latter},
        alike front former → alike back latter →
          alike (front ++ back) (former ++ latter))
    {lefts : List Left}
    {rights : List Right}
    {first : Left → List Item}
    {second : Right → List Item}
    (pairs : List.Forall₂ related lefts rights)
    (each : ∀ one other, related one other → alike (first one) (second other)) :
    alike (lefts.flatMap first) (rights.flatMap second) := by
  induction pairs with
  | nil => exact nil
  | cons pair _ step =>
      rw [List.flatMap_cons, List.flatMap_cons]
      exact append (each _ _ pair) step

theorem totalsRow_congr
    {query : Query}
    {left right : SearchResponse}
    (ungrouped : query.groups = [])
    (total : query.countsTotal = true → left.total = right.total)
    (alike : ReadAlike query [] left.aggregations right.aggregations) :
    totalsRow query left = totalsRow query right := by
  rw [totalsRow_eq_ofList, totalsRow_eq_ofList]
  congr 1
  apply List.map_congr_left
  intro aggregate member
  by_cases counted : aggregate.measure = .count
  · have counts : query.countsTotal = true := by
      rw [Query.countsTotal, ungrouped, List.isEmpty_nil, Bool.true_and,
        List.any_eq_true]
      exact ⟨aggregate, member, decide_eq_true counted⟩
    simp only [totalValue, counted, total counts]
  · rw [totalValue_eq_measureValue counted, totalValue_eq_measureValue counted]
    congr 1
    apply measureValue_congr
    intro field target
    exact alike field
      (Query.mem_measuredFields_of_uncounted member counted target)

namespace Query.Accepted

variable {query : Query} (accepted : query.Accepted)

include accepted

theorem leafRow_congr
    {steps : List Step}
    {left right : Members}
    (grouped : query.groups ≠ [])
    (aligned : steps.length = query.groups.length)
    (alike : ReadAlike query [] left right) :
    leafRow query steps left = leafRow query steps right := by
  unfold leafRow
  congr 2
  apply List.map_congr_left
  intro aggregate member
  have measurable := (accepted.aggregates aggregate member).2
  rw [leafValue_congr grouped aligned member measurable alike]

theorem flattenLevels_congr
    {groups : List Grouping}
    {taken : List Step}
    {left right : Members}
    (grouped : query.groups ≠ [])
    (aligned : taken.length + groups.length = query.groups.length)
    (alike : ReadAlike query groups left right) :
    flattenLevels query taken left groups =
      flattenLevels query taken right groups := by
  induction groups generalizing taken left right with
  | nil =>
      rw [flattenLevels, flattenLevels,
        accepted.leafRow_congr grouped aligned alike]
  | cons group rest step =>
      rw [flattenLevels, flattenLevels]
      refine flatMap_of_forall₂ rfl (congrArg₂ (· ++ ·)) alike ?_
      rintro first second ⟨key, count, below⟩
      rw [key, count]
      apply step _ below
      rw [List.length_append, List.length_singleton, ← aligned,
        List.length_cons]
      omega

/-- Answers that agree on what is read have the same rows. -/
theorem flattenResponse_congr
    {left right : SearchResponse}
    (aggregated : query.isAggregate = true)
    (total : query.countsTotal = true → left.total = right.total)
    (alike :
      ReadAlike query query.groups left.aggregations right.aggregations) :
    flattenResponse query left = flattenResponse query right := by
  by_cases ungrouped : query.groups = []
  · have measured : query.aggregates ≠ [] := by
      simpa [Query.isAggregate, ungrouped] using aggregated
    rw [accepted.flattenResponse_eq_totalsRow ungrouped measured,
      accepted.flattenResponse_eq_totalsRow ungrouped measured]
    rw [ungrouped] at alike
    rw [totalsRow_congr ungrouped total alike]
  · rw [accepted.flattenResponse_eq_flattenLevels ungrouped,
      accepted.flattenResponse_eq_flattenLevels ungrouped]
    exact accepted.flattenLevels_congr ungrouped (Nat.zero_add _) alike

end Query.Accepted

end TabularSearch
