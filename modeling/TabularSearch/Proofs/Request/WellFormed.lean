import TabularSearch.Proofs.Request.Planned

/-!
# The queries that can be compiled

What a query has to be like to be compiled is said here without any order of
looking: `Query.Gives` lists the names that a query gives, `Condition.Asks` the
comparisons that it makes, and `Query.WellFormed` what these have to be like.
`Query.Faulty` says for a cause what has to be wrong with a query.  The main
statement is that a query has a request exactly if it is well formed, and is
refused with a cause that applies to it otherwise.
-/

namespace TabularSearch

open TabularSearch.Text

/-! ## What a query is made of -/

/-- A comparison stands somewhere in a condition. -/
inductive Condition.Asks
    (field : String)
    (comparison : Comparison)
    (value : Scalar) :
    Condition → Prop where
  | here : Asks field comparison value (.compare field comparison value)
  | all
      {parts : List Condition}
      {part : Condition}
      (member : part ∈ parts)
      (inside : Asks field comparison value part) :
      Asks field comparison value (.all parts)
  | any
      {parts : List Condition}
      {part : Condition}
      (member : part ∈ parts)
      (inside : Asks field comparison value part) :
      Asks field comparison value (.any parts)

/-- The names that a query gives, each in its role. -/
inductive Query.Gives (query : Query) : NameRole → String → Prop where
  | database : Gives query .database query.database
  | table : Gives query .table query.table
  | projectedField
      {field : String}
      (member : field ∈ query.fields) :
      Gives query .projectedField field
  | filterField
      {condition : Condition}
      {field : String}
      {comparison : Comparison}
      {value : Scalar}
      (filtered : query.condition = some condition)
      (asked : condition.Asks field comparison value) :
      Gives query .filterField field
  | groupField
      {group : Grouping}
      (member : group ∈ query.groups) :
      Gives query .groupField group.field
  | groupLabel
      {group : Grouping}
      (member : group ∈ query.groups) :
      Gives query .groupLabel group.label
  | aggregateLabel
      {aggregate : Aggregate}
      (member : aggregate ∈ query.aggregates) :
      Gives query .aggregateLabel aggregate.label
  | aggregateField
      {aggregate : Aggregate}
      {field : String}
      (member : aggregate ∈ query.aggregates)
      (target : aggregate.target = .field field) :
      Gives query .aggregateField field
  | sortKey
      {key : SortKey}
      (member : key ∈ query.sort) :
      Gives query .sortKey key.key

/-- Values that stand in an order. -/
def Scalar.IsOrdered : Scalar → Prop
  | .number _ | .text _ | .date _ => True
  | .null | .bool _ => False

/-- Comparisons for order. -/
def Comparison.IsForOrder : Comparison → Prop
  | .greater | .greaterOrEqual | .less | .lessOrEqual => True
  | .equal | .notEqual | .contains | .notContains => False

/-- Comparisons that look for a text. -/
def Comparison.IsForText : Comparison → Prop
  | .contains | .notContains => True
  | _ => False

/-- A comparison for order takes a value that has one, and a text is
not looked for by null. -/
structure Comparison.Fits
    (comparison : Comparison)
    (value : Scalar) :
    Prop where
  ordered : comparison.IsForOrder → value.IsOrdered
  textual : comparison.IsForText → value ≠ .null

/-- A cause that applies to a comparison of a field with a value. -/
inductive Comparison.Misfit (field : String) :
    Comparison → Scalar → InvalidQuery → Prop where
  | unorderedValue
      {comparison : Comparison}
      {value : Scalar}
      (ordering : comparison.IsForOrder)
      (unordered : ¬ value.IsOrdered) :
      Misfit field comparison value
        (.unorderedValue comparison field value.kind)
  | nullText
      {comparison : Comparison}
      (textual : comparison.IsForText) :
      Misfit field comparison .null (.nullText comparison field)

/-- What a query has to be like to be compiled. -/
structure Query.WellFormed (query : Query) : Prop where
  named :
    ∀ role name,
      query.Gives role name → ∃ character ∈ name.toList,
        isBlank character = false
  distinct :
    query.distinct = true →
      query.fields ≠ [] ∧ query.aggregates = [] ∧ query.groups = []
  fitting :
    ∀ condition field comparison value,
      query.condition = some condition →
        condition.Asks field comparison value → comparison.Fits value
  counted :
    ∀ aggregate ∈ query.aggregates,
      aggregate.target = .allDocuments → aggregate.measure = .count
  labels : query.labels.Nodup

/-- A cause applies to a query. -/
inductive Query.Faulty (query : Query) : InvalidQuery → Prop where
  | blankName
      {role : NameRole}
      {name : String}
      (given : query.Gives role name)
      (blank : ∀ character ∈ name.toList, isBlank character = true) :
      Faulty query (.blankName role)
  | distinctWithoutField
      (asked : query.distinct = true)
      (missing : query.fields = []) :
      Faulty query .distinctWithoutField
  | distinctWithGroups
      (asked : query.distinct = true)
      (computed : query.aggregates ≠ [] ∨ query.groups ≠ []) :
      Faulty query .distinctWithGroups
  | repeatedLabel
      {label : String}
      {front back : List String}
      (labels : query.labels = front ++ label :: back)
      (before : label ∈ front) :
      Faulty query (.repeatedLabel label)
  | measureWithoutField
      {aggregate : Aggregate}
      (member : aggregate ∈ query.aggregates)
      (target : aggregate.target = .allDocuments)
      (uncounted : aggregate.measure ≠ .count) :
      Faulty query (.measureWithoutField aggregate.measure aggregate.label)
  | misfit
      {condition : Condition}
      {field : String}
      {comparison : Comparison}
      {value : Scalar}
      {cause : InvalidQuery}
      (filtered : query.condition = some condition)
      (asked : condition.Asks field comparison value)
      (unfit : comparison.Misfit field value cause) :
      Faulty query cause

theorem Comparison.Misfit.not_fits
    {field : String}
    {comparison : Comparison}
    {value : Scalar}
    {cause : InvalidQuery}
    (unfit : comparison.Misfit field value cause) :
    ¬ comparison.Fits value := by
  intro fits
  cases unfit with
  | unorderedValue ordering unordered => exact unordered (fits.ordered ordering)
  | nullText textual => exact fits.textual textual rfl

theorem Query.Faulty.not_wellFormed
    {query : Query}
    {cause : InvalidQuery}
    (faulty : query.Faulty cause) :
    ¬ query.WellFormed := by
  intro wellFormed
  cases faulty with
  | blankName given blank =>
      rcases wellFormed.named _ _ given with ⟨character, member, inked⟩
      rw [blank character member] at inked
      cases inked
  | distinctWithoutField asked missing =>
      exact (wellFormed.distinct asked).1 missing
  | distinctWithGroups asked computed =>
      rcases wellFormed.distinct asked with ⟨-, aggregates, groups⟩
      exact computed.elim (fun some => some aggregates) fun some => some groups
  | repeatedLabel labels before =>
      have distinct := wellFormed.labels
      rw [labels, List.nodup_append] at distinct
      exact distinct.2.2 _ before _ List.mem_cons_self rfl
  | measureWithoutField member target uncounted =>
      exact uncounted (wellFormed.counted _ member target)
  | misfit filtered asked unfit =>
      exact unfit.not_fits (wellFormed.fitting _ _ _ _ filtered asked)

/-! ## Names -/

theorem named_iff {name : String} :
    Named name ↔ ∃ character ∈ name.toList, isBlank character = false := by
  rw [Named, isAllBlank, List.all_eq_false]
  simp only [Bool.not_eq_true]

section Asks

variable {field : String} {comparison : Comparison} {value : Scalar}
  {parts : List Condition}

theorem Condition.asks_compare_iff
    {name : String}
    {other : Comparison}
    {scalar : Scalar} :
    (Condition.compare name other scalar).Asks field comparison value ↔
      name = field ∧ other = comparison ∧ scalar = value := by
  constructor
  · rintro ⟨⟩
    exact ⟨rfl, rfl, rfl⟩
  · rintro ⟨rfl, rfl, rfl⟩
    exact .here

theorem Condition.asks_all_iff :
    (Condition.all parts).Asks field comparison value ↔
      ∃ part ∈ parts, part.Asks field comparison value := by
  constructor
  · rintro ⟨⟩
    rename_i part inside member
    exact ⟨part, member, inside⟩
  · rintro ⟨part, member, inside⟩
    exact .all member inside

theorem Condition.asks_any_iff :
    (Condition.any parts).Asks field comparison value ↔
      ∃ part ∈ parts, part.Asks field comparison value := by
  constructor
  · rintro ⟨⟩
    rename_i part inside member
    exact ⟨part, member, inside⟩
  · rintro ⟨part, member, inside⟩
    exact .any member inside

end Asks

mutual

/-- The check of a condition fails at one of its comparisons. -/
theorem Condition.exists_asks_of_check_eq_error :
    ∀ {condition : Condition} {cause : InvalidQuery},
      condition.check = .error cause →
        ∃ field comparison value,
          condition.Asks field comparison value ∧
            checkName .filterField field = .error cause
  | .compare field comparison value, cause, failed =>
    ⟨field, comparison, value, .here, failed⟩
  | .all parts, cause, failed => by
    simp only [Condition.asks_all_iff]
    rcases exists_asks_of_checkParts_eq_error failed with
      ⟨part, member, field, comparison, value, inside, blank⟩
    exact ⟨field, comparison, value, ⟨part, member, inside⟩, blank⟩
  | .any parts, cause, failed => by
    simp only [Condition.asks_any_iff]
    rcases exists_asks_of_checkParts_eq_error failed with
      ⟨part, member, field, comparison, value, inside, blank⟩
    exact ⟨field, comparison, value, ⟨part, member, inside⟩, blank⟩

theorem exists_asks_of_checkParts_eq_error :
    ∀ {parts : List Condition} {cause : InvalidQuery},
      checkParts parts = .error cause →
        ∃ part ∈ parts, ∃ field comparison value,
          part.Asks field comparison value ∧
            checkName .filterField field = .error cause
  | part :: rest, cause, failed => by
    rw [checkParts] at failed
    split at failed
    · rename_i first
      obtain rfl := Except.error.inj failed
      exact ⟨part, List.mem_cons_self,
        Condition.exists_asks_of_check_eq_error first⟩
    · rcases exists_asks_of_checkParts_eq_error failed with
        ⟨other, member, found⟩
      exact ⟨other, List.mem_cons_of_mem _ member, found⟩

end

theorem checkName_eq_error_iff
    {role : NameRole}
    {name : String}
    {cause : InvalidQuery} :
    checkName role name = .error cause ↔
      cause = .blankName role ∧ ∀ character ∈ name.toList,
        isBlank character = true := by
  rw [← List.all_eq_true, ← isAllBlank, checkName]
  split
  · rename_i blank
    rw [Except.error.injEq, eq_comm, and_iff_left blank]
  · rename_i inked
    exact iff_of_false (fun failed => by cases failed) fun blank =>
      inked blank.2

theorem exists_of_checkAll_eq_error
    {Item : Type}
    {check : Item → Except InvalidQuery Unit}
    {items : List Item}
    {cause : InvalidQuery}
    (failed : checkAll check items = .error cause) :
    ∃ item ∈ items, check item = .error cause := by
  induction items with
  | nil => cases failed
  | cons item rest step =>
      rw [checkAll] at failed
      split at failed
      · rename_i first
        obtain rfl := Except.error.inj failed
        exact ⟨item, List.mem_cons_self, first⟩
      · rcases step failed with ⟨other, member, found⟩
        exact ⟨other, List.mem_cons_of_mem _ member, found⟩

/-- Labelled items fail at one of the items or at a label that
was there before. -/
theorem cases_of_checkLabelled_eq_error
    {Item : Type}
    {check : Item → Except InvalidQuery Unit}
    {label : Item → String}
    {seen : List String}
    {items : List Item}
    {cause : InvalidQuery}
    (failed : checkLabelled check label seen items = .error cause) :
    (∃ item ∈ items, check item = .error cause) ∨
      ∃ front item back,
        items = front ++ item :: back ∧ cause = .repeatedLabel (label item) ∧
          (label item ∈ front.map label ∨ label item ∈ seen) := by
  induction items generalizing seen with
  | nil => cases failed
  | cons item rest step =>
      rw [checkLabelled, bind_eq_error_iff] at failed
      rcases failed with first | ⟨-, -, failed⟩
      · exact Or.inl ⟨item, List.mem_cons_self, first⟩
      · rcases bind_eq_error_iff.1 failed with repeated | ⟨more, added, failed⟩
        · rw [addLabel] at repeated
          split at repeated
          · rename_i before
            exact Or.inr
              ⟨[], item, rest, rfl, (Except.error.inj repeated).symm,
                Or.inr before⟩
          · cases repeated
        · obtain ⟨-, rfl⟩ := addLabel_eq_ok_iff.1 added
          rcases step failed with
            ⟨other, member, found⟩ | ⟨front, other, back, rfl, same, before⟩
          · exact Or.inl ⟨other, List.mem_cons_of_mem _ member, found⟩
          · refine Or.inr ⟨item :: front, other, back, rfl, same, ?_⟩
            rw [List.map_cons, List.mem_cons]
            rw [List.mem_cons] at before
            rcases before with inFront | here | earlier
            · exact Or.inl (Or.inr inFront)
            · exact Or.inl (Or.inl here)
            · exact Or.inr earlier

/-! ## Checks that fail -/

section Check

variable {query : Query} {cause : InvalidQuery}

theorem Query.Gives.faulty
    {role : NameRole}
    {name : String}
    (given : query.Gives role name)
    (failed : checkName role name = .error cause) :
    query.Faulty cause := by
  rcases checkName_eq_error_iff.1 failed with ⟨rfl, blank⟩
  exact .blankName given blank

theorem Query.faulty_of_checkDistinct_eq_error
    (failed : query.checkDistinct = .error cause) :
    query.Faulty cause := by
  rw [checkDistinct] at failed
  split at failed
  · rename_i asked
    split at failed
    · rename_i missing
      obtain rfl := Except.error.inj failed
      exact .distinctWithoutField asked (List.isEmpty_iff.1 missing)
    · split at failed
      · rename_i computed
        obtain rfl := Except.error.inj failed
        refine .distinctWithGroups asked ?_
        simpa [isAggregate] using computed
      · cases failed
  · cases failed

theorem Query.faulty_of_group_check_eq_error
    {group : Grouping}
    (member : group ∈ query.groups)
    (failed : group.check = .error cause) :
    query.Faulty cause := by
  rw [Grouping.check, bind_eq_error_iff] at failed
  rcases failed with field | ⟨-, -, label⟩
  · exact (Gives.groupField member).faulty field
  · exact (Gives.groupLabel member).faulty label

theorem Query.faulty_of_aggregate_check_eq_error
    {aggregate : Aggregate}
    (member : aggregate ∈ query.aggregates)
    (failed : aggregate.check = .error cause) :
    query.Faulty cause := by
  rw [Aggregate.check, bind_eq_error_iff] at failed
  rcases failed with label | ⟨-, -, target⟩
  · exact (Gives.aggregateLabel member).faulty label
  · rw [Aggregate.checkTarget] at target
    split at target
    · rename_i field named
      exact (Gives.aggregateField member named).faulty target
    · cases target
    · rename_i measure everything uncounted
      obtain rfl := Except.error.inj target
      exact .measureWithoutField member everything fun counted =>
        uncounted counted

theorem Query.faulty_of_checkColumns_eq_error
    (failed : query.checkColumns = .error cause) :
    query.Faulty cause := by
  rw [checkColumns, bind_eq_error_iff] at failed
  simp only [checkGroups_eq_checkLabelled, checkAggregates_eq_checkLabelled]
    at failed
  rcases failed with grouping | ⟨seen, grouped, failed⟩
  · rcases cases_of_checkLabelled_eq_error grouping with
      ⟨group, member, failed⟩
        | ⟨front, group, back, groups, rfl, before | never⟩
    · exact faulty_of_group_check_eq_error member failed
    · have split :
          query.labels =
            front.map Grouping.label ++
              group.label ::
                (back.map Grouping.label ++
                  query.aggregates.map Aggregate.label) := by
        rw [labels, groups, List.map_append, List.map_cons, List.append_assoc,
          List.cons_append]
      exact .repeatedLabel split before
    · cases never
  · obtain ⟨-, -, rfl⟩ := (checkLabelled_eq_ok_iff List.nodup_nil).1 grouped
    rw [bind_eq_error_iff] at failed
    rcases failed with aggregating | ⟨-, -, sorting⟩
    · rcases cases_of_checkLabelled_eq_error aggregating with
        ⟨aggregate, member, failed⟩
          | ⟨front, aggregate, back, aggregates, rfl, before⟩
      · exact faulty_of_aggregate_check_eq_error member failed
      · have split :
            query.labels =
              query.groups.map Grouping.label ++ front.map Aggregate.label ++
                aggregate.label :: back.map Aggregate.label := by
          rw [labels, aggregates, List.map_append, List.map_cons,
            List.append_assoc]
        rw [List.append_nil, List.mem_reverse] at before
        exact .repeatedLabel split (List.mem_append.2 before.symm)
    · rcases exists_of_checkAll_eq_error sorting with ⟨key, member, failed⟩
      exact (Gives.sortKey member).faulty failed

/-- A query that does not pass the checks is refused for a
cause that applies to it. -/
theorem Query.faulty_of_check_eq_error
    (failed : query.check = .error cause) :
    query.Faulty cause := by
  rw [check, bind_eq_error_iff] at failed
  rcases failed with database | ⟨-, -, failed⟩
  · exact Gives.database.faulty database
  rw [bind_eq_error_iff] at failed
  rcases failed with table | ⟨-, -, failed⟩
  · exact Gives.table.faulty table
  rw [bind_eq_error_iff] at failed
  rcases failed with fields | ⟨-, -, failed⟩
  · rcases exists_of_checkAll_eq_error fields with ⟨field, member, blank⟩
    exact (Gives.projectedField member).faulty blank
  rw [bind_eq_error_iff] at failed
  rcases failed with distinct | ⟨-, -, failed⟩
  · exact faulty_of_checkDistinct_eq_error distinct
  cases filtered : query.condition with
  | none =>
      rw [filtered] at failed
      exact faulty_of_checkColumns_eq_error failed
  | some condition =>
      rw [filtered, bind_eq_error_iff] at failed
      rcases failed with comparing | ⟨done, -, failed⟩
      · rcases Condition.exists_asks_of_check_eq_error comparing with
          ⟨field, comparison, value, asked, blank⟩
        exact (Gives.filterField filtered asked).faulty blank
      · exact faulty_of_checkColumns_eq_error failed

end Check

/-! ## Conditions that compile -/

theorem Scalar.bound?_cases (value : Scalar) :
    (value.IsOrdered ∧ ∃ closing, value.bound? = some closing) ∨
      ¬ value.IsOrdered ∧ value.bound? = none := by
  cases value <;> simp [IsOrdered, bound?]

theorem Scalar.searchText?_cases (value : Scalar) :
    (value ≠ .null ∧ ∃ text, value.searchText? = some text) ∨
      value = .null ∧ value.searchText? = none := by
  cases value <;> simp [searchText?]

namespace Filter

theorem ofBound_cases
    (comparison : Comparison)
    (ordering : comparison.IsForOrder)
    (untextual : ¬ comparison.IsForText)
    (field : String)
    (bound : Bound)
    (value : Scalar) :
    (comparison.Fits value ∧
        ∃ filter, ofBound field comparison bound value = .ok filter) ∨
      ∃ cause,
        comparison.Misfit field value cause ∧
          ofBound field comparison bound value = .error cause := by
  rcases value.bound?_cases with ⟨ordered, closing, sent⟩ | ⟨unordered, none⟩
  · refine Or.inl ⟨⟨fun _ => ordered, fun textual => absurd textual untextual⟩,
      .range field bound closing, ?_⟩
    rw [ofBound, sent]
  · refine Or.inr ⟨_, .unorderedValue ordering unordered, ?_⟩
    rw [ofBound, none]

theorem ofText_cases
    (comparison : Comparison)
    (textual : comparison.IsForText)
    (unordering : ¬ comparison.IsForOrder)
    (field : String)
    (value : Scalar) :
    (comparison.Fits value ∧
        ∃ filter, ofText field comparison value = .ok filter) ∨
      ∃ cause,
        comparison.Misfit field value cause ∧
          ofText field comparison value = .error cause := by
  rcases value.searchText?_cases with ⟨nonnull, text, sought⟩ | ⟨rfl, none⟩
  · refine Or.inl
      ⟨⟨fun ordering => absurd ordering unordering, fun _ => nonnull⟩,
        .pattern field (String.ofList (containing text)), ?_⟩
    rw [ofText, sought]
  · refine Or.inr ⟨_, .nullText textual, ?_⟩
    rw [ofText, none]

/-- On a field with a name, a comparison is compiled or does
not fit its value. -/
theorem ofComparison_cases
    {field : String}
    (named : Named field)
    (comparison : Comparison)
    (value : Scalar) :
    (comparison.Fits value ∧
        ∃ filter, ofComparison field comparison value = .ok filter) ∨
      ∃ cause,
        comparison.Misfit field value cause ∧
          ofComparison field comparison value = .error cause := by
  unfold ofComparison
  rw [if_neg named.ne_empty]
  cases comparison with
  | equal => exact Or.inl ⟨⟨False.elim, False.elim⟩, _, rfl⟩
  | notEqual => exact Or.inl ⟨⟨False.elim, False.elim⟩, _, rfl⟩
  | greater => exact ofBound_cases .greater trivial id field .above value
  | greaterOrEqual =>
      exact ofBound_cases .greaterOrEqual trivial id field .atLeast value
  | less => exact ofBound_cases .less trivial id field .below value
  | lessOrEqual =>
      exact ofBound_cases .lessOrEqual trivial id field .atMost value
  | contains => exact ofText_cases .contains trivial id field value
  | notContains =>
      rcases ofText_cases .notContains trivial id field value with
        ⟨fits, filter, compiled⟩ | ⟨cause, unfit, failed⟩
      · exact Or.inl ⟨fits, not filter, map_eq_ok_iff.2 ⟨filter, compiled, rfl⟩⟩
      · exact Or.inr ⟨cause, unfit, map_eq_error_iff.2 failed⟩

/-- There is a result and all comparisons of a kind fit, or one does
not and is the cause. -/
def Settled
    {Result : Type}
    (asks : String → Comparison → Scalar → Prop)
    (outcome : Except InvalidQuery Result) :
    Prop :=
  ((∀ field comparison value,
    asks field comparison value → comparison.Fits value) ∧
      ∃ result, outcome = .ok result) ∨
    ∃ field comparison value cause,
      asks field comparison value ∧ comparison.Misfit field value cause ∧
        outcome = .error cause

theorem Settled.map
    {Result Built : Type}
    {asks : String → Comparison → Scalar → Prop}
    {outcome : Except InvalidQuery Result}
    (settled : Settled asks outcome)
    (build : Result → Built) :
    Settled asks (outcome.map build) := by
  rcases settled with
    ⟨fits, result, found⟩
      | ⟨field, comparison, value, cause, asked, unfit, failed⟩
  · exact Or.inl ⟨fits, build result, map_eq_ok_iff.2 ⟨result, found, rfl⟩⟩
  · exact Or.inr
      ⟨field, comparison, value, cause, asked, unfit, map_eq_error_iff.2 failed⟩

mutual

/-- A condition on fields with names is compiled, or one of its
comparisons does not fit. -/
theorem ofCondition_settled :
    ∀ {condition : Condition},
      condition.AllNamed → Settled condition.Asks (ofCondition condition)
  | .compare field comparison value, named => by
    rcases ofComparison_cases named comparison value with
      ⟨fits, filter, compiled⟩ | ⟨cause, unfit, failed⟩
    · refine Or.inl ⟨?_, filter, compiled⟩
      rintro _ _ _ ⟨⟩
      exact fits
    · exact Or.inr ⟨field, comparison, value, cause, .here, unfit, failed⟩
  | .all [], _ => by
    refine Or.inl ⟨?_, .everything, rfl⟩
    simp [Condition.asks_all_iff]
  | .all (part :: rest), named => by
    have settled := (ofConditions_settled named).map all
    simpa only [Settled, Condition.asks_all_iff, ofCondition] using settled
  | .any [], _ => by
    refine Or.inl ⟨?_, .nothing, rfl⟩
    simp [Condition.asks_any_iff]
  | .any (part :: rest), named => by
    have settled := (ofConditions_settled named).map any
    simpa only [Settled, Condition.asks_any_iff, ofCondition] using settled

theorem ofConditions_settled :
    ∀ {parts : List Condition},
      PartsNamed parts →
        Settled
          (fun field comparison value =>
            ∃ part ∈ parts, part.Asks field comparison value)
          (ofConditions parts)
  | [], _ => by
    refine Or.inl ⟨?_, [], rfl⟩
    rintro field comparison value ⟨part, member, -⟩
    cases member
  | part :: rest, named => by
    rw [ofConditions]
    rcases ofCondition_settled named.1 with
      ⟨fits, filter, compiled⟩
        | ⟨field, comparison, value, cause, asked, unfit, failed⟩
    · rcases ofConditions_settled named.2 with
        ⟨others, filters, compiledRest⟩ |
          ⟨field, comparison, value, cause, ⟨other, member, asked⟩, unfit,
            failed⟩
      · simp only [compiled, compiledRest]
        refine Or.inl ⟨?_, filter :: filters, rfl⟩
        rintro field comparison value ⟨other, member, asked⟩
        rcases List.mem_cons.1 member with rfl | later
        · exact fits field comparison value asked
        · exact others field comparison value ⟨other, later, asked⟩
      · simp only [compiled, failed]
        exact Or.inr ⟨field, comparison, value, cause,
          ⟨other, List.mem_cons_of_mem _ member, asked⟩, unfit, rfl⟩
    · simp only [failed]
      exact Or.inr
        ⟨field, comparison, value, cause, ⟨part, List.mem_cons_self, asked⟩,
          unfit, rfl⟩

end

end Filter

/-! ## Queries that compile -/

mutual

theorem Condition.allNamed_iff :
    ∀ {condition : Condition},
      condition.AllNamed ↔
        ∀ field comparison value,
          condition.Asks field comparison value → Named field
  | .compare name other scalar => by
    simp only [Condition.AllNamed, Condition.asks_compare_iff]
    constructor
    · rintro named _ _ _ ⟨rfl, -, -⟩
      exact named
    · intro named
      exact named name other scalar ⟨rfl, rfl, rfl⟩
  | .all parts => by
    simp only [Condition.AllNamed, partsNamed_iff, Condition.asks_all_iff]
    constructor
    · rintro named field comparison value ⟨part, member, asked⟩
      exact named part member field comparison value asked
    · intro named part member field comparison value asked
      exact named field comparison value ⟨part, member, asked⟩
  | .any parts => by
    simp only [Condition.AllNamed, partsNamed_iff, Condition.asks_any_iff]
    constructor
    · rintro named field comparison value ⟨part, member, asked⟩
      exact named part member field comparison value asked
    · intro named part member field comparison value asked
      exact named field comparison value ⟨part, member, asked⟩

theorem partsNamed_iff :
    ∀ {parts : List Condition},
      PartsNamed parts ↔
        ∀ part ∈ parts, ∀ field comparison value,
          part.Asks field comparison value → Named field
  | [] => by simp [PartsNamed]
  | part :: rest => by
    rw [PartsNamed, List.forall_mem_cons, Condition.allNamed_iff,
      partsNamed_iff]

end

/-- The comparisons of an accepted query are all that is left to see to. -/
theorem Query.Accepted.wellFormed
    {query : Query}
    (accepted : query.Accepted)
    (fitting :
      ∀ condition field comparison value,
        query.condition = some condition →
          condition.Asks field comparison value → comparison.Fits value) :
    query.WellFormed where
  named role name given := by
    rw [← named_iff]
    cases given with
    | database => exact accepted.database
    | table => exact accepted.table
    | projectedField member => exact accepted.fields _ member
    | filterField filtered asked =>
        exact Condition.allNamed_iff.1 (accepted.condition _ filtered) _ _ _
          asked
    | groupField member => exact (accepted.groups _ member).1
    | groupLabel member => exact (accepted.groups _ member).2
    | aggregateLabel member => exact (accepted.aggregates _ member).1
    | @aggregateField aggregate field member target =>
        have measurable := (accepted.aggregates _ member).2
        simpa only [Aggregate.Measurable, target] using measurable
    | sortKey member => exact accepted.sort _ member
  distinct asked := by
    rcases accepted.distinct asked with ⟨fields, alone⟩
    simpa [isAggregate, fields] using alone
  fitting := fitting
  counted aggregate member target := by
    have measurable := (accepted.aggregates _ member).2
    simpa only [Aggregate.Measurable, target] using measurable
  labels := accepted.labels

namespace SearchRequest

/-- A request differs from another of the same condition in what
stands around the filter. -/
theorem ofQuery_cases
    {query : Query}
    (accepted : query.Accepted) :
    ∃ further : List Filter, ∃ around : Filter → SearchRequest,
      ofQuery query = (Filter.ofQuery query.condition further).map around := by
  cases distinct : query.distinct with
  | false => exact ⟨_, _, ofQuery_eq_ofPlan accepted distinct⟩
  | true =>
      have projected := (accepted.distinct distinct).1
      cases fields : query.fields with
      | nil => exact absurd fields projected
      | cons field rest =>
          have sent : ofQuery query = ofDistinct query field := by
            rw [ofQuery, if_pos distinct, fields]
          exact ⟨[], _, sent⟩

theorem ofChecked_eq_error
    {query : Query}
    {cause : InvalidQuery}
    (accepted : query.Accepted)
    (failed : ofQuery query = .error cause) :
    ofChecked query = .error cause := by
  rw [ofChecked, Query.check_eq_ok_iff.2 accepted]
  exact failed

/-- A query is well formed and has a request, or is refused for a
cause that applies to it. -/
theorem ofChecked_cases (query : Query) :
    (query.WellFormed ∧ ∃ request, ofChecked query = .ok request) ∨
      ∃ cause, query.Faulty cause ∧ ofChecked query = .error cause := by
  cases checked : query.check with
  | error cause =>
      refine Or.inr ⟨cause, Query.faulty_of_check_eq_error checked, ?_⟩
      rw [ofChecked, checked]
  | ok done =>
      have accepted := Query.check_eq_ok_iff.1 checked
      rcases ofQuery_cases accepted with ⟨further, around, sent⟩
      cases filtered : query.condition with
      | none =>
          rw [filtered] at sent
          refine Or.inl
            ⟨accepted.wellFormed ?_, _, ofChecked_eq_ok_iff.2 ⟨accepted, sent⟩⟩
          intro condition _ _ _ asked
          rw [filtered] at asked
          cases asked
      | some condition =>
          rw [filtered] at sent
          rcases Filter.ofCondition_settled
            (accepted.condition condition filtered) with
            ⟨fits, filter, compiled⟩
              | ⟨field, comparison, value, cause, asked, unfit, failed⟩
          · rw [Filter.ofQuery, compiled] at sent
            refine Or.inl
              ⟨accepted.wellFormed ?_, _,
                ofChecked_eq_ok_iff.2 ⟨accepted, sent⟩⟩
            intro other _ _ _ same asked
            obtain rfl := Option.some.inj (filtered.symm.trans same)
            exact fits _ _ _ asked
          · rw [Filter.ofQuery, failed] at sent
            exact Or.inr
              ⟨cause, .misfit filtered asked unfit,
                ofChecked_eq_error accepted sent⟩

end SearchRequest

/--
A query has a request exactly if it is well formed; any other is refused as
invalid before a backend is asked, for a cause that applies to it.
-/
theorem compiles_iff_wellFormed (query : Query) :
    ((∃ request, SearchRequest.ofChecked query = .ok request) ↔
      query.WellFormed) ∧
      ((∃ cause,
          query.Faulty cause ∧ SearchRequest.ofChecked query = .error cause ∧
            ∀ backend : Backend,
              backend.execute query =
                { sent := [], result := .error (.invalid cause) }) ↔
        ¬ query.WellFormed) := by
  rcases SearchRequest.ofChecked_cases query with
    ⟨wellFormed, request, compiled⟩ | ⟨cause, faulty, refused⟩
  · refine ⟨iff_of_true ⟨request, compiled⟩ wellFormed,
      iff_of_false ?_ (absurd wellFormed)⟩
    rintro ⟨cause, faulty, -⟩
    exact faulty.not_wellFormed wellFormed
  · refine ⟨iff_of_false ?_ faulty.not_wellFormed,
      iff_of_true ?_ faulty.not_wellFormed⟩
    · rintro ⟨request, compiled⟩
      rw [refused] at compiled
      cases compiled
    · exact ⟨cause, faulty, refused, Backend.execute_eq_of_refused refused⟩

end TabularSearch
