import TabularSearch.Proofs.Response.Pruned

/-!
# Buckets in another order

Two answers may differ in nothing but the order in which the buckets of a level
are listed, at any level inside any bucket.  The rows are then the same up to
their order, except for one thing: where a level is labelled like the key of a
bucket, its result is the key of the bucket around it, and the column of a level
on a field above shows this result with its buckets as they are listed.
`Row.veiled` hides what is inside such objects.
-/

namespace TabularSearch

open TabularSearch.Json

/-! ## The same buckets in another order -/

/-- The same element of a list of buckets, up to what is
inside if it is a bucket. -/
inductive ElementRearranged (inside : Members → Members → Prop) :
    Value → Value → Prop where
  | same (element : Value) : ElementRearranged inside element element
  | bucket
      {left right : Members}
      (within : inside left right) :
      ElementRearranged inside (.object left) (.object right)

/-- The same result of a level, up to the order of its buckets
and what is inside them. -/
inductive ResultRearranged
    (inside : Members → Members → Prop) :
    Option Value → Option Value → Prop where
  | same (result : Option Value) : ResultRearranged inside result result
  | moved
      {left right : Members}
      {lefts between rights : List Value}
      (others :
        ∀ name, name ≠ "buckets" → itemAt? name left = itemAt? name right)
      (before : itemAt? "buckets" left = some (.array lefts))
      (after : itemAt? "buckets" right = some (.array rights))
      (order : lefts.Perm between)
      (pairs : List.Forall₂ (ElementRearranged inside) between rights) :
      ResultRearranged inside (some (.object left)) (some (.object right))

/-- The same scope, up to the order of the buckets of some levels,
from the outermost on. -/
def Rearranged : List Grouping → Members → Members → Prop
  | [], left, right => ∀ name, itemAt? name left = itemAt? name right
  | group :: rest, left, right =>
    (∀ name, name ≠ group.label → itemAt? name left = itemAt? name right) ∧
      ResultRearranged (Rearranged rest) (itemAt? group.label left)
        (itemAt? group.label right)

section Scopes

variable {groups rest : List Grouping} {group : Grouping} {left right : Members}

theorem Rearranged.itemAt?_eq
    (rearranged : Rearranged groups left right)
    {name : String}
    (unlabelled : ∀ group ∈ groups.head?, group.label ≠ name) :
    itemAt? name left = itemAt? name right := by
  cases groups with
  | nil => exact rearranged name
  | cons group rest => exact rearranged.1 name (unlabelled group rfl).symm

/-- Under any name there is the same in both scopes, or an object in both. -/
theorem Rearranged.itemAt?_cases
    (rearranged : Rearranged groups left right)
    (name : String) :
    itemAt? name left = itemAt? name right ∨
      ∃ members others,
        itemAt? name left = some (.object members) ∧
          itemAt? name right = some (.object others) := by
  cases groups with
  | nil => exact Or.inl (rearranged name)
  | cons group rest =>
      rcases rearranged with ⟨others, result⟩
      by_cases labelled : name = group.label
      · subst labelled
        cases first : itemAt? group.label left <;>
          cases second : itemAt? group.label right <;>
            rw [first, second] at result <;> cases result
        · exact Or.inl rfl
        · exact Or.inl rfl
        · exact Or.inr ⟨_, _, rfl, rfl⟩
      · exact Or.inl (others name labelled)

/-- What reads nothing from objects reads the same from both scopes. -/
theorem Rearranged.bind_itemAt?
    (rearranged : Rearranged groups left right)
    {Item : Type}
    {read : Value → Option Item}
    (blind : ∀ members, read (.object members) = none)
    (name : String) :
    (itemAt? name left).bind read = (itemAt? name right).bind read := by
  rcases rearranged.itemAt?_cases name with
    same | ⟨members, others, first, second⟩
  · rw [same]
  · rw [first, second, Option.bind_some, Option.bind_some, blind, blind]

theorem Rearranged.bucketCount_eq (rearranged : Rearranged groups left right) :
    bucketCount left = bucketCount right := by
  rw [bucketCount, bucketCount, rearranged.bind_itemAt? fun _ => rfl]

theorem Rearranged.bucketKeyText?_eq
    (rearranged : Rearranged groups left right) :
    bucketKeyText? left = bucketKeyText? right :=
  rearranged.bind_itemAt? (fun _ => rfl) "key_as_string"

theorem Rearranged.timeKey?_eq
    (rearranged : Rearranged groups left right)
    (granularity : Granularity) :
    timeKey? granularity left = timeKey? granularity right := by
  rw [timeKey?, timeKey?, rearranged.bucketKeyText?_eq, asSigned?_bucketKey,
    asSigned?_bucketKey, rearranged.bind_itemAt? fun _ => rfl]

theorem Rearranged.refl
    (groups : List Grouping)
    (scope : Members) :
    Rearranged groups scope scope := by
  cases groups with
  | nil => exact fun _ => rfl
  | cons group rest => exact ⟨fun _ _ => rfl, .same _⟩

theorem forall₂_filterMap_asObject?
    {inside : Members → Members → Prop}
    (reflexive : ∀ scope, inside scope scope)
    {lefts rights : List Value}
    (pairs : List.Forall₂ (ElementRearranged inside) lefts rights) :
    List.Forall₂ inside (lefts.filterMap Value.asObject?)
      (rights.filterMap Value.asObject?) := by
  induction pairs with
  | nil => exact .nil
  | @cons element other _ _ pair _ step =>
      cases pair with
      | same =>
          cases element with
          | object members => exact .cons (reflexive members) step
          | _ => exact step
      | bucket within => exact .cons within step

/-- The buckets of the outermost level are the same up to their
order and what is inside. -/
theorem Rearranged.exists_perm_bucketsOf
    (rearranged : Rearranged (group :: rest) left right) :
    ∃ between,
      (bucketsOf left group.label).Perm between ∧
        List.Forall₂ (Rearranged rest) between
          (bucketsOf right group.label) := by
  have result := rearranged.2
  unfold bucketsOf
  generalize itemAt? group.label left = first at result ⊢
  generalize itemAt? group.label right = second at result ⊢
  cases result with
  | same =>
      exact ⟨_, List.Perm.refl _, List.forall₂_same.2 fun _ _ =>
        Rearranged.refl rest _⟩
  | moved others before after order pairs =>
      simp only [Option.bind_some, Value.get?, before, after, Value.asArray?]
      exact ⟨_, order.filterMap _,
        forall₂_filterMap_asObject? (Rearranged.refl rest) pairs⟩

end Scopes

/-! ## Rows without what is inside some objects -/

/-- An object without its members; anything else as it is. -/
def veilValue : Value → Value
  | .object _ => .object []
  | other => other

/-- A cell without what is inside if it is in one of some columns. -/
def veilCell
    (columns : List String)
    (cell : String × Value) :
    String × Value :=
  (cell.1, if cell.1 ∈ columns then veilValue cell.2 else cell.2)

theorem fst_veilCell
    (columns : List String)
    (cell : String × Value) :
    (veilCell columns cell).1 = cell.1 :=
  rfl

theorem map_fst_veilCell
    (columns : List String)
    (cells : Members) :
    (cells.map (veilCell columns)).map Prod.fst = cells.map Prod.fst :=
  List.map_map

theorem putEntry_veilCell
    (columns : List String)
    (column : String)
    (value : Value)
    (cells : Members) :
    (putEntry column value cells).map (veilCell columns) =
      putEntry column (veilCell columns (column, value)).2
        (cells.map (veilCell columns)) := by
  induction cells with
  | nil => rfl
  | cons cell rest step =>
      rw [List.map_cons, putEntry, putEntry, fst_veilCell]
      by_cases same : cell.1 = column
      · rw [if_pos same, if_pos same, List.map_cons]
        rfl
      · rw [if_neg same, if_neg same, List.map_cons, step]

theorem itemAt?_veilCell
    (columns : List String)
    (column : String)
    (cells : Members) :
    itemAt? column (cells.map (veilCell columns)) =
      (itemAt? column cells).map fun value =>
        (veilCell columns (column, value)).2 := by
  induction cells with
  | nil => rfl
  | cons cell rest step =>
      rw [List.map_cons, itemAt?, itemAt?, fst_veilCell]
      by_cases same : cell.1 = column
      · subst same
        rw [if_pos rfl, if_pos rfl]
        rfl
      · rw [if_neg same, if_neg same, step]

namespace Row

/-- A row without what is inside the objects in some columns. -/
def veiled
    (columns : List String)
    (row : Row) :
    Row :=
  { entries := row.entries.map (veilCell columns)
    distinct := by
      rw [map_fst_veilCell]
      exact row.distinct }

@[simp]
theorem veiled_nil (row : Row) : row.veiled [] = row :=
  ext_entries (List.map_id' row.entries)

theorem columns_veiled
    (columns : List String)
    (row : Row) :
    (row.veiled columns).columns = row.columns :=
  map_fst_veilCell columns row.entries

theorem get?_veiled
    (columns : List String)
    (row : Row)
    (column : String) :
    (row.veiled columns).get? column =
      (row.get? column).map fun value => (veilCell columns (column, value)).2 :=
  itemAt?_veilCell columns column row.entries

theorem veiled_ofList
    (columns : List String)
    (cells : Members) :
    (ofList cells).veiled columns = ofList (cells.map (veilCell columns)) := by
  have along (row : Row) :
      (cells.foldl (fun row cell => row.insert cell.1 cell.2) row).veiled
          columns =
        (cells.map (veilCell columns)).foldl
          (fun row cell => row.insert cell.1 cell.2) (row.veiled columns) := by
    induction cells generalizing row with
    | nil => rfl
    | cons cell rest step =>
        have first : (row.insert cell.1 cell.2).veiled columns =
            (row.veiled columns).insert (veilCell columns cell).1
                (veilCell columns cell).2 :=
          ext_entries (putEntry_veilCell columns cell.1 cell.2 row.entries)
        rw [List.foldl_cons, List.map_cons, List.foldl_cons, step, first]
  exact along empty

end Row

/-! ## Columns that show results -/

/-- The labels of the levels on a field directly above one that is
labelled like the key. -/
def shadowedLabels : List Grouping → List String
  | [] => []
  | [_] => []
  | .byField _ label :: below :: rest =>
    if below.label = "key" then label :: shadowedLabels (below :: rest)
    else shadowedLabels (below :: rest)
  | .byTime _ _ _ :: below :: rest => shadowedLabels (below :: rest)

theorem shadowedLabels_eq_nil_iff {groups : List Grouping} :
    shadowedLabels groups = [] ↔ KeysApart groups := by
  induction groups with
  | nil => simp [shadowedLabels, KeysApart]
  | cons group rest step =>
      cases rest with
      | nil => simp [shadowedLabels, KeysApart]
      | cons below more =>
          rw [KeysApart, List.isChain_cons_cons, ← KeysApart, ← step]
          cases group with
          | byField field label =>
              rw [shadowedLabels]
              split <;> simp_all
          | byTime field label granularity => simp [shadowedLabels]

theorem shadowedLabels_tail_subset
    (group : Grouping)
    (rest : List Grouping) :
    shadowedLabels rest ⊆ shadowedLabels (group :: rest) := by
  cases rest with
  | nil => exact List.nil_subset _
  | cons below more =>
      cases group with
      | byField field label =>
          rw [shadowedLabels]
          split
          · exact List.subset_cons_self _ _
          · exact List.Subset.refl _
      | byTime field label granularity => exact List.Subset.refl _

section Keys

variable {rest : List Grouping} {left right : Members}

theorem fieldKey_of_rearranged
    (rearranged : Rearranged rest left right)
    (unlabelled : ∀ below ∈ rest.head?, below.label ≠ "key") :
    fieldKey left = fieldKey right := by
  rw [fieldKey, fieldKey, bucketKey, bucketKey,
    rearranged.itemAt?_eq unlabelled, rearranged.bucketKeyText?_eq]

theorem veilValue_fieldKey_of_rearranged
    (rearranged : Rearranged rest left right) :
    veilValue (fieldKey left) = veilValue (fieldKey right) := by
  rcases rearranged.itemAt?_cases "key" with
    same | ⟨members, others, first, second⟩
  · rw [fieldKey, fieldKey, bucketKey, bucketKey, same,
      rearranged.bucketKeyText?_eq]
  · have before : bucketKey left = .object members := by
      rw [bucketKey, first, Option.getD_some]
    have after : bucketKey right = .object others := by
      rw [bucketKey, second, Option.getD_some]
    rw [fieldKey_of_object before, fieldKey_of_object after, veilValue,
      veilValue]

/-- The column of a level is the same up to what is inside a
result that it shows. -/
theorem veilCell_groupKey_of_rearranged
    {columns : List String}
    {group : Grouping}
    (shadowed : shadowedLabels (group :: rest) ⊆ columns)
    (rearranged : Rearranged rest left right) :
    veilCell columns (group.label, groupKey left group) =
      veilCell columns (group.label, groupKey right group) := by
  cases group with
  | byTime field label granularity =>
      rw [groupKey, groupKey, rearranged.timeKey?_eq]
  | byField field label =>
      by_cases unlabelled : ∀ below ∈ rest.head?, below.label ≠ "key"
      · rw [groupKey, groupKey, fieldKey_of_rearranged rearranged unlabelled]
      · obtain ⟨below, next, key⟩ :
          ∃ below ∈ rest.head?, below.label = "key" := by
          simpa using unlabelled
        obtain ⟨more, rfl⟩ := List.head?_eq_some_iff.1 next
        have member : label ∈ columns :=
          shadowed (by simp [shadowedLabels, key])
        simp only [veilCell, Grouping.label, member, if_true, groupKey,
          veilValue_fieldKey_of_rearranged rearranged]

end Keys

/-! ## Rows -/

theorem countOn?_congr
    (groups : List Grouping)
    {steps others : List Step}
    (counts : steps.map Step.count = others.map Step.count)
    (field : String) :
    countOn? groups steps field = countOn? groups others field := by
  induction groups generalizing steps others with
  | nil => rfl
  | cons group rest step =>
      cases steps with
      | nil =>
          obtain rfl : others = [] := List.map_eq_nil_iff.1 counts.symm
          rfl
      | cons first more =>
          cases others with
          | nil => cases counts
          | cons second further =>
              simp only [List.map_cons, List.cons.injEq] at counts
              rw [countOn?_cons, countOn?_cons, step counts.2, counts.1]

theorem leafValue_of_counts
    (groups : List Grouping)
    {steps others : List Step}
    (counts : steps.map Step.count = others.map Step.count)
    {left right : Members}
    (same : ∀ name, itemAt? name left = itemAt? name right)
    (aggregate : Aggregate) :
    leafValue groups steps left aggregate =
      leafValue groups others right aggregate := by
  have last :
      steps.getLast?.map Step.count = others.getLast?.map Step.count := by
    rw [← List.getLast?_map, counts, List.getLast?_map]
  have measured : measureValue aggregate left = measureValue aggregate right :=
    measureValue_congr fun field _ => same (statisticsName field)
  unfold leafValue
  simp only [last, measured, countOn?_congr groups counts]

section Rows

variable (query : Query) (columns : List String)

/-- The cells of the levels on the way down. -/
def levelCells
    (groups : List Grouping)
    (steps : List Step) :
    Members :=
  (groups.zip steps).map fun level => (level.1.label, level.2.key)

theorem levelCells_concat
    {groups : List Grouping}
    {steps : List Step}
    (aligned : groups.length = steps.length)
    (group : Grouping)
    (step : Step) :
    levelCells (groups ++ [group]) (steps ++ [step]) =
      levelCells groups steps ++ [(group.label, step.key)] := by
  rw [levelCells, List.zip_append aligned, List.map_append]
  rfl

/-- The rows below two ways down with alike cells and the same counts are the
same, up to their order and what is inside results that they show. -/
theorem map_veiled_flattenLevels_perm
    {front groups : List Grouping}
    (levels : query.groups = front ++ groups)
    (shadowed : shadowedLabels groups ⊆ columns)
    {steps others : List Step}
    (aligned : front.length = steps.length)
    (counts : steps.map Step.count = others.map Step.count)
    (cells :
      (levelCells front steps).map (veilCell columns) =
        (levelCells front others).map (veilCell columns))
    {left right : Members}
    (rearranged : Rearranged groups left right) :
    ((flattenLevels query steps left groups).map (Row.veiled columns)).Perm
      ((flattenLevels query others right groups).map (Row.veiled columns)) := by
  induction groups generalizing front steps others left right with
  | nil =>
      rw [List.append_nil] at levels
      have same : (leafRow query steps left).veiled columns =
          (leafRow query others right).veiled columns := by
        rw [leafRow, leafRow, levels, ← levelCells, ← levelCells,
          Row.veiled_ofList, Row.veiled_ofList, List.map_append,
          List.map_append, cells]
        simp only [leafValue_of_counts front counts rearranged]
      rw [flattenLevels, flattenLevels, List.map_singleton, List.map_singleton,
        same]
  | cons group rest step =>
      rw [flattenLevels, flattenLevels, List.map_flatMap, List.map_flatMap]
      rcases rearranged.exists_perm_bucketsOf with ⟨between, order, pairs⟩
      refine (order.flatMap_right _).trans
        (flatMap_of_forall₂ (List.Perm.refl _) List.Perm.append pairs ?_)
      intro first second inside
      have alignedToo : front.length = others.length := by
        rw [aligned, ← List.length_map Step.count, counts, List.length_map]
      have deeper : query.groups = front ++ [group] ++ rest := by
        rw [levels, List.append_assoc, List.singleton_append]
      refine step deeper ?_ ?_ ?_ ?_ inside
      · exact List.Subset.trans (shadowedLabels_tail_subset group rest) shadowed
      · rw [List.length_append, List.length_append, aligned]
        rfl
      · rw [List.map_append, List.map_append, counts, List.map_singleton,
          List.map_singleton, inside.bucketCount_eq]
      · rw [levelCells_concat aligned, levelCells_concat alignedToo,
          List.map_append, List.map_append, cells, List.map_singleton,
          List.map_singleton, veilCell_groupKey_of_rearranged shadowed inside]

end Rows

end TabularSearch
