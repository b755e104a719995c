import TabularSearch.Proofs.Response.Cells

/-!
# The walk with a stack

The walk through nested buckets as it goes, step by step: the group of a level
is looked up at its depth, a step is put on the path before a bucket is entered
and taken off afterwards, rows are added to the ones that are there, and a count
on a field looks its step up on the path.  All of these lookups may fail here.
`walkLevel?_eq_some` says that none of them does, and that the walk adds the
rows of `flattenLevels`.
-/

namespace TabularSearch

open TabularSearch.Json

/-! ## Counts on a field -/

/-- The innermost level on a field. -/
def lastLevel? (field : String) : List Grouping → Option Nat
  | [] => none
  | group :: rest =>
    match lastLevel? field rest with
    | some level => some (level + 1)
    | none => if group.field = field then some 0 else none

section LastLevel

variable {field : String} {groups : List Grouping}

theorem lastLevel?_eq_none_iff :
    lastLevel? field groups = none ↔ ∀ group ∈ groups, group.field ≠ field := by
  induction groups with
  | nil => simp [lastLevel?]
  | cons group rest step =>
      rw [lastLevel?, List.forall_mem_cons]
      cases deeper : lastLevel? field rest with
      | some level =>
          have below : ¬ ∀ group ∈ rest, group.field ≠ field := fun none => by
            rw [step.2 none] at deeper
            cases deeper
          simp [below]
      | none => simpa using fun _ => step.1 deeper

theorem lastLevel?_cons_eq_some
    {group : Grouping}
    {level : Nat}
    (found : lastLevel? field (group :: groups) = some level) :
    (∃ below, lastLevel? field groups = some below ∧ level = below + 1) ∨
      lastLevel? field groups = none ∧ group.field = field ∧ level = 0 := by
  rw [lastLevel?] at found
  cases inner : lastLevel? field groups with
  | some below =>
      rw [inner] at found
      exact Or.inl ⟨below, rfl, (Option.some.inj found).symm⟩
  | none =>
      simp only [inner, Option.ite_none_right_eq_some, Option.some.injEq]
        at found
      exact Or.inr ⟨rfl, found.1, found.2.symm⟩

/-- The level is on the field, and no deeper one is. -/
theorem lastLevel?_eq_some
    {level : Nat}
    (found : lastLevel? field groups = some level) :
    (∃ group, groups[level]? = some group ∧ group.field = field) ∧
      ∀ deeper group, level < deeper → groups[deeper]? = some group →
        group.field ≠ field := by
  induction groups generalizing level with
  | nil => cases found
  | cons group rest step =>
      rcases lastLevel?_cons_eq_some found with
        ⟨below, inner, rfl⟩ | ⟨missing, same, rfl⟩
      · rcases step inner with ⟨here, beyond⟩
        refine ⟨here, fun deeper other further looked => ?_⟩
        cases deeper with
        | zero => omega
        | succ deeper => exact beyond deeper other (by omega) looked
      · refine ⟨⟨group, rfl, same⟩, fun deeper other further looked => ?_⟩
        cases deeper with
        | zero => omega
        | succ deeper =>
            exact lastLevel?_eq_none_iff.1 missing other
              (List.mem_of_getElem? looked)

/-- Where there is one item for each level, there is one for the
innermost on a field. -/
theorem exists_getElem?_of_lastLevel?
    {Item : Type}
    {items : List Item}
    (aligned : items.length = groups.length)
    {level : Nat}
    (found : lastLevel? field groups = some level) :
    ∃ item, items[level]? = some item := by
  rcases lastLevel?_eq_some found with ⟨⟨group, grouped, -⟩, -⟩
  have within : level < items.length :=
    aligned ▸ (List.getElem?_eq_some_iff.1 grouped).1
  exact ⟨items[level], List.getElem?_eq_getElem within⟩

theorem countOn?_cons
    (group : Grouping)
    (groups : List Grouping)
    (step : Step)
    (steps : List Step)
    (field : String) :
    countOn? (group :: groups) (step :: steps) field =
      (countOn? groups steps field).or
        (if group.field = field then some step.count else none) := by
  simp only [countOn?, List.zip_cons_cons, List.reverse_cons, List.find?_append,
    List.find?_singleton, beq_iff_eq, Option.map_or]
  split <;> rfl

theorem countOn?_eq_none
    (missing : lastLevel? field groups = none)
    (steps : List Step) :
    countOn? groups steps field = none := by
  have other := lastLevel?_eq_none_iff.1 missing
  rw [countOn?, Option.map_eq_none_iff, List.find?_eq_none]
  intro level member
  have grouped : level.1 ∈ groups :=
    (List.of_mem_zip (List.mem_reverse.1 member)).1
  simpa using other level.1 grouped

theorem countOn?_eq_some
    {steps : List Step}
    {level : Nat}
    {last : Step}
    (found : lastLevel? field groups = some level)
    (taken : steps[level]? = some last) :
    countOn? groups steps field = some last.count := by
  induction groups generalizing steps level with
  | nil => cases found
  | cons group rest step =>
      cases steps with
      | nil => cases taken
      | cons first others =>
          rw [countOn?_cons]
          rcases lastLevel?_cons_eq_some found with
            ⟨below, inner, rfl⟩ | ⟨missing, same, rfl⟩
          · rw [step inner taken, Option.some_or]
          · obtain rfl : first = last := Option.some.inj taken
            rw [countOn?_eq_none missing, Option.none_or, if_pos same]

end LastLevel

/-! ## Rows with lookups -/

/-- The value of an aggregate, where the step of its level is
looked up on the path. -/
def leafValue?
    (groups : List Grouping)
    (steps : List Step)
    (scope : Members)
    (aggregate : Aggregate) :
    Option Value :=
  match aggregate.measure, aggregate.target with
  | .count, .allDocuments =>
    some (.ofWord ((steps.getLast?.map Step.count).getD 0))
  | .count, .field field =>
    match lastLevel? field groups with
    | some level => steps[level]?.map fun step => .ofWord step.count
    | none => some (measureValue aggregate scope)
  | _, _ => some (measureValue aggregate scope)

/-- The row of a path, one column after the other. -/
def leafRow?
    (query : Query)
    (steps : List Step)
    (scope : Members) :
    Option Row :=
  let levels :=
    (query.groups.zip steps).foldl
      (fun row level => row.insert level.1.label level.2.key) Row.empty
  query.aggregates.foldlM
    (fun row aggregate =>
      (leafValue? query.groups steps scope aggregate).map
        (row.insert aggregate.label))
    levels

theorem leafValue?_eq_some
    {groups : List Grouping}
    {steps : List Step}
    (aligned : steps.length = groups.length)
    (scope : Members)
    (aggregate : Aggregate) :
    leafValue? groups steps scope aggregate =
      some (leafValue groups steps scope aggregate) := by
  rcases aggregate with ⟨label, measure, target⟩
  cases measure with
  | count =>
      cases target with
      | allDocuments => rfl
      | field field =>
          simp only [leafValue?, leafValue]
          cases found : lastLevel? field groups with
          | none => rw [countOn?_eq_none found]
          | some level =>
              rcases exists_getElem?_of_lastLevel? aligned found with
                ⟨step, taken⟩
              simp only [taken, countOn?_eq_some found taken, Option.map_some]
  | _ => rfl

theorem leafRow?_eq_some
    {query : Query}
    {steps : List Step}
    (aligned : steps.length = query.groups.length)
    (scope : Members) :
    leafRow? query steps scope = some (leafRow query steps scope) := by
  simp only [leafRow?, leafValue?_eq_some aligned, Option.map_some]
  rw [leafRow, Row.ofList, List.foldl_append, List.foldl_map, List.foldl_map]
  exact List.foldlM_pure

/-! ## The walk -/

/-- The steps on the way down to where the walk stands, and the rows so far. -/
structure Walk where
  path : List Step
  rows : List Row

namespace Walk

/-- Before the first bucket. -/
def start : Walk :=
  { path := [], rows := [] }

/-- A bucket entered, something done inside, and the bucket left. -/
def inside
    (walk : Walk)
    (step : Step)
    (action : Walk → Option Walk) :
    Option Walk :=
  (action { walk with path := walk.path ++ [step] }).map fun done =>
    { done with path := done.path.dropLast }

/-- What leaves the path as it is and adds rows does so for one
bucket after the other. -/
theorem foldlM_eq_some
    {visit : Walk → Members → Option Walk}
    {added : Members → List Row}
    {path : List Step}
    (adds : ∀ rows bucket,
      visit { path := path, rows := rows } bucket =
        some { path := path, rows := rows ++ added bucket })
    (buckets : List Members)
    (rows : List Row) :
    buckets.foldlM visit { path := path, rows := rows } =
      some { path := path, rows := rows ++ buckets.flatMap added } := by
  induction buckets generalizing rows with
  | nil => simp
  | cons bucket rest step =>
      rw [List.foldlM_cons, adds, Option.bind_eq_bind, Option.bind_some, step,
        List.flatMap_cons, List.append_assoc]

end Walk

/-- The walk through the buckets of one level and of all levels below. -/
def walkLevel?
    (query : Query)
    (depth : Nat)
    (scope : Members)
    (walk : Walk) :
    Option Walk :=
  match found : query.groups[depth]? with
  | none => none
  | some group =>
    (bucketsOf scope group.label).foldlM
      (fun walk bucket =>
        walk.inside
          { key := groupKey bucket group, count := bucketCount bucket }
          fun inner =>
          if depth + 1 = query.groups.length then
            (leafRow? query inner.path bucket).map fun row =>
              { inner with rows := inner.rows ++ [row] }
          else walkLevel? query (depth + 1) bucket inner)
      walk
termination_by query.groups.length - depth
decreasing_by
  have within : depth < query.groups.length :=
    (List.getElem?_eq_some_iff.1 found).1
  omega

theorem walkLevel?_eq_foldlM
    {query : Query}
    {depth : Nat}
    {group : Grouping}
    (found : query.groups[depth]? = some group)
    (scope : Members)
    (walk : Walk) :
    walkLevel? query depth scope walk =
      (bucketsOf scope group.label).foldlM
        (fun walk bucket =>
          walk.inside
            { key := groupKey bucket group, count := bucketCount bucket }
            fun inner =>
            if depth + 1 = query.groups.length then
              (leafRow? query inner.path bucket).map fun row =>
                { inner with rows := inner.rows ++ [row] }
            else walkLevel? query (depth + 1) bucket inner)
        walk := by
  rw [walkLevel?]
  split
  · rename_i missing
    rw [found] at missing
    cases missing
  · rename_i other looked
    obtain rfl : group = other := Option.some.inj (found.symm.trans looked)
    rfl

theorem getElem?_of_drop_eq_cons
    {Item : Type}
    {items rest : List Item}
    {first : Item}
    {count : Nat}
    (remaining : items.drop count = first :: rest) :
    items[count]? = some first := by
  rw [← List.head?_drop, remaining, List.head?_cons]

theorem drop_length_concat
    {Item Taken : Type}
    {items rest : List Item}
    {first : Item}
    {path : List Taken}
    (remaining : items.drop path.length = first :: rest)
    (step : Taken) :
    items.drop (path ++ [step]).length = rest := by
  rw [List.length_append, List.length_singleton, ← List.drop_drop, remaining,
    List.drop_one, List.tail_cons]

/-- At a level that exists, with a step on the path for every level
above, no lookup fails, the path is left as it was, and the rows of the
remaining levels are added. -/
theorem walkLevel?_eq_some
    {query : Query}
    {group : Grouping}
    {rest : List Grouping}
    {path : List Step}
    (remaining : query.groups.drop path.length = group :: rest)
    (scope : Members)
    (rows : List Row) :
    walkLevel? query path.length scope { path := path, rows := rows } =
      some
        { path := path,
          rows := rows ++ flattenLevels query path scope (group :: rest) } := by
  induction rest generalizing group path scope rows with
  | nil =>
      have found := getElem?_of_drop_eq_cons remaining
      have last : path.length + 1 = query.groups.length := by
        have count := congrArg List.length remaining
        rw [List.length_drop, List.length_singleton] at count
        omega
      rw [walkLevel?_eq_foldlM found]
      refine Walk.foldlM_eq_some (fun rows bucket => ?_) _ rows
      have aligned (step : Step) :
          (path ++ [step]).length = query.groups.length := by
        rw [List.length_append, List.length_singleton, last]
      rw [Walk.inside, if_pos last, leafRow?_eq_some (aligned _)]
      simp [flattenLevels]
  | cons next rest step =>
      have found := getElem?_of_drop_eq_cons remaining
      have more : path.length + 1 ≠ query.groups.length := by
        have count := congrArg List.length remaining
        rw [List.length_drop, List.length_cons, List.length_cons] at count
        omega
      rw [walkLevel?_eq_foldlM found]
      refine Walk.foldlM_eq_some (fun rows bucket => ?_) _ rows
      have deeper (taken : Step) :=
        step (drop_length_concat remaining taken) bucket rows
      simp only [List.length_append, List.length_singleton] at deeper
      rw [Walk.inside, if_neg more, deeper, Option.map_some,
        List.dropLast_concat]

/-- The walk from the top level ends where it starts, with all rows. -/
theorem walkLevel?_start
    {query : Query}
    (accepted : query.Accepted)
    (grouped : query.groups ≠ [])
    (response : SearchResponse) :
    walkLevel? query 0 response.aggregations Walk.start =
      some { path := [], rows := flattenResponse query response } := by
  rw [accepted.flattenResponse_eq_flattenLevels grouped]
  cases groups : query.groups with
  | nil => exact absurd groups grouped
  | cons group rest =>
      have remaining :
          query.groups.drop ([] : List Step).length = group :: rest := groups
      exact walkLevel?_eq_some remaining response.aggregations []

end TabularSearch
