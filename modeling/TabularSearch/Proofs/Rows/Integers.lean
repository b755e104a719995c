import TabularSearch.Proofs.Binary64.Nearest
import TabularSearch.Proofs.Rows.Finished

/-!
# Rows sorted by whole numbers

Cells with whole numbers are compared as binary numbers, that is by what the
numbers are rounded to.  Rows whose numbers are rounded alike are tied and
stay as they came, so finished rows stand in the order of their numbers
exactly if those rows already came in this order.  Up to `2 ^ 53` no two
numbers are rounded alike; beyond, neighbours are, and two such rows in the
wrong order are left so.
-/

namespace TabularSearch

open TabularSearch.Json
open Std

/-! ## What a stable sort puts in order -/

section StableSort

variable {Item : Type} {order : Item → Item → Ordering}
  {items sorted : List Item}

/-- Two items that are equal in the order stand in front of
each other as they came. -/
theorem StableSort.pair_sublist_iff
    (stable : StableSort order items sorted)
    {former latter : Item}
    (reflexive : order former former = .eq)
    (tied : order former latter = .eq) :
    [former, latter].Sublist sorted ↔ [former, latter].Sublist items := by
  have kept : [former, latter].filter (fun other => order former other = .eq) =
      [former, latter] := by
    simp [reflexive, tied]
  have among : ∀ {all : List Item},
      [former, latter].Sublist all ↔
        [former, latter].Sublist
            (all.filter fun other => order former other = .eq) :=
    fun {all} =>
      ⟨fun within => kept ▸ within.filter fun other => order former other = .eq,
        fun within => within.trans List.filter_sublist⟩
  rw [among, stable.ties former, ← among]

/-- What holds wherever one item goes before another holds all along a stable
sort exactly if it held of the items that are equal in the order. -/
theorem StableSort.pairwise_iff
    (stable : StableSort order items sorted)
    (reflexive : ∀ item, order item item = .eq)
    {related : Item → Item → Prop}
    (before : ∀ former ∈ items, ∀ latter ∈ items,
      order former latter = .lt → related former latter) :
    sorted.Pairwise related ↔
      items.Pairwise fun former latter =>
        order former latter = .eq → related former latter := by
  rw [List.pairwise_iff_forall_sublist, List.pairwise_iff_forall_sublist]
  constructor
  · intro holds former latter within tied
    exact holds ((stable.pair_sublist_iff (reflexive former) tied).2 within)
  · intro holds former latter within
    have notAfter := (List.pairwise_iff_forall_sublist.1 stable.inOrder) within
    cases compared : order former latter with
    | lt =>
        have member : ∀ {item : Item}, item ∈ [former, latter] → item ∈ items :=
          fun inPair => stable.perm.mem_iff.1 (within.subset inPair)
        exact before former (member (by simp)) latter (member (by simp))
          compared
    | eq =>
        exact holds
          ((stable.pair_sublist_iff (reflexive former) compared).1 within)
            compared
    | gt => exact absurd compared notAfter

end StableSort

/-! ## Whole numbers in cells -/

/-- The number of a JSON value that is a whole number. -/
def Json.Value.integer? : Value → Option Int
  | .number (.whole value _) => some value
  | _ => none

/-- The whole number under a column, signed or not. -/
def Row.integer?
    (row : Row)
    (column : String) :
    Option Int :=
  (row.get? column).bind Value.integer?

/-- The whole numbers of two rows under a column are in order. -/
def IntegersInOrder
    (direction : Direction)
    (column : String)
    (former latter : Row) :
    Prop :=
  ∀ value other,
    former.integer? column = some value → latter.integer? column = some other →
      direction.keepsWhole value other

/-- The whole numbers of two rows under a column are rounded
to one binary number. -/
def RoundedAlike
    (column : String)
    (former latter : Row) :
    Prop :=
  ∀ value other,
    former.integer? column = some value → latter.integer? column = some other →
      roundWhole value = roundWhole other

theorem Row.integer?_eq_some_iff
    {row : Row}
    {column : String}
    {value : Int} :
    row.integer? column = some value ↔
      ∃ bounded, row.get? column = some (.number (.whole value bounded)) := by
  rw [integer?, Option.bind_eq_some_iff]
  constructor
  · rintro ⟨shown, present, whole⟩
    unfold Json.Value.integer? at whole
    split at whole
    · cases whole
      exact ⟨_, present⟩
    · cases whole
  · rintro ⟨bounded, present⟩
    exact ⟨_, present, rfl⟩

section Cells

variable {direction : Direction} {column : String} {former latter : Row}

/-- Cells with whole numbers are compared by what these are rounded to. -/
theorem compareCells_integers
    {value other : Int}
    (shown : former.integer? column = some value)
    (shownToo : latter.integer? column = some other) :
    compareCells direction (former.get? column) (latter.get? column) =
      match direction with
      | .ascending => compare (roundWhole value) (roundWhole other)
      | .descending =>
        (compare (roundWhole value) (roundWhole other)).swap := by
  obtain ⟨bounded, present⟩ := Row.integer?_eq_some_iff.1 shown
  obtain ⟨boundedToo, presentToo⟩ := Row.integer?_eq_some_iff.1 shownToo
  rw [present, presentToo]
  cases direction with
  | ascending => exact compareValue_whole bounded boundedToo
  | descending =>
      exact congrArg Ordering.swap (compareValue_whole bounded boundedToo)

theorem compareCells_eq_eq_iff_roundedAlike
    (shown : ∃ value, former.integer? column = some value)
    (shownToo : ∃ value, latter.integer? column = some value) :
    compareCells direction (former.get? column) (latter.get? column) = .eq ↔
      RoundedAlike column former latter := by
  obtain ⟨value, shown⟩ := shown
  obtain ⟨other, shownToo⟩ := shownToo
  have alike :
      RoundedAlike column former latter ↔
        roundWhole value = roundWhole other := by
    simp [RoundedAlike, shown, shownToo]
  rw [compareCells_integers shown shownToo, alike]
  cases direction with
  | ascending => exact Int.compare_eq_eq
  | descending => rw [Ordering.swap_eq_eq, Int.compare_eq_eq]

/-- Where the comparison tells two cells apart, it orders them
as their numbers. -/
theorem integersInOrder_of_before
    (before :
      compareCells direction (former.get? column) (latter.get? column) = .lt) :
    IntegersInOrder direction column former latter := by
  intro value other shown shownToo
  obtain ⟨bounded, -⟩ := Row.integer?_eq_some_iff.1 shown
  obtain ⟨boundedToo, -⟩ := Row.integer?_eq_some_iff.1 shownToo
  rw [compareCells_integers shown shownToo] at before
  cases direction with
  | ascending =>
      rw [Int.compare_eq_lt] at before
      have notAfter : ¬ other < value := fun after =>
        absurd (roundWhole_mono boundedToo bounded after.le) before.not_ge
      exact Int.not_lt.1 notAfter
  | descending =>
      rw [Ordering.swap_eq_lt, Int.compare_eq_gt] at before
      have notAfter : ¬ value < other := fun after =>
        absurd (roundWhole_mono bounded boundedToo after.le) before.not_ge
      exact Int.not_lt.1 notAfter

/-- Whole numbers of at most `2 ^ 53` that are rounded alike are the same. -/
theorem integersInOrder_of_small
    (small :
      ∀ value, former.integer? column = some value →
        value.natAbs ≤ 0x20000000000000)
    (smallToo :
      ∀ value, latter.integer? column = some value →
        value.natAbs ≤ 0x20000000000000)
    (alike : RoundedAlike column former latter) :
    IntegersInOrder direction column former latter := by
  intro value other shown shownToo
  have same := alike value other shown shownToo
  rw [roundWhole_of_small (small value shown),
    roundWhole_of_small (smallToo other shownToo)]
    at same
  rw [same]
  cases direction with
  | ascending => exact Int.le_refl other
  | descending => exact Int.le_refl other

end Cells

/-! ## Sorted rows -/

theorem compareRows_single (key : SortKey) (left right : Row) :
    compareRows [key] left right =
      compareCells key.direction (left.get? key.key) (right.get? key.key) := by
  rw [compareRows, compareRows, Ordering.then_eq]

theorem compareRows_single_eq_eq_iff
    {key : SortKey}
    {rows : List Row}
    (whole : ∀ row ∈ rows, ∃ value, row.integer? key.key = some value)
    {former latter : Row}
    (member : former ∈ rows)
    (memberToo : latter ∈ rows) :
    compareRows [key] former latter = .eq ↔
      RoundedAlike key.key former latter := by
  rw [compareRows_single]
  exact compareCells_eq_eq_iff_roundedAlike (whole former member)
    (whole latter memberToo)

theorem integersInOrder_of_compareRows
    {key : SortKey}
    {former latter : Row}
    (before : compareRows [key] former latter = .lt) :
    IntegersInOrder key.direction key.key former latter := by
  rw [compareRows_single] at before
  exact integersInOrder_of_before before

section Sorted

variable
    {key : SortKey}
    {rows sorted : List Row}
    (stable : StableSort (compareRows [key]) rows sorted)
    (whole : ∀ row ∈ rows, ∃ value, row.integer? key.key = some value)

include stable whole

/-- Only what is rounded alike can be out of order, and is if it came so. -/
theorem StableSort.integersInOrder_iff :
    sorted.Pairwise (IntegersInOrder key.direction key.key) ↔
      rows.Pairwise fun former latter =>
        RoundedAlike key.key former latter →
          IntegersInOrder key.direction key.key former latter := by
  rw [stable.pairwise_iff (totalPreorder_compareRows [key]).reflexive
    fun _ _ _ _ => integersInOrder_of_compareRows]
  refine List.Pairwise.iff_of_mem fun member memberToo => ?_
  rw [compareRows_single_eq_eq_iff whole member memberToo]

theorem StableSort.integersInOrder_of_not_roundedAlike :
    sorted.Pairwise fun former latter =>
      ¬ RoundedAlike key.key former latter →
        IntegersInOrder key.direction key.key former latter := by
  have before :
      ∀ former ∈ rows, ∀ latter ∈ rows, compareRows [key] former latter = .lt →
      ¬ RoundedAlike key.key former latter →
        IntegersInOrder key.direction key.key former latter :=
    fun _ _ _ _ less _ => integersInOrder_of_compareRows less
  rw [stable.pairwise_iff (totalPreorder_compareRows [key]).reflexive before]
  refine List.pairwise_of_forall_mem_list
    fun former member latter memberToo tied apart => ?_
  exact absurd ((compareRows_single_eq_eq_iff whole member memberToo).1 tied)
    apart

end Sorted

/-- The rows of a query with one sort key are sorted by the
column it is resolved to. -/
theorem stableSort_finishRows_single
    {query : Query}
    {plan : FinishPlan}
    {key : SortKey}
    (single : query.sort = [key])
    (sorts : plan.sortsRows = true)
    (unpaged : plan.pagesRows = false)
    (rows : List Row) :
    StableSort (compareRows [{ key with key := resolveKey query rows key.key }])
      rows (finishRows query plan rows) := by
  have finished : finishRows query plan rows = sortRows query rows := by
    simp [finishRows, sorts, unpaged, single]
  have keys :
      resolveKeys query rows =
        [{ key with key := resolveKey query rows key.key }] := by
    rw [resolveKeys, single, List.map_singleton]
  rw [finished, ← keys]
  exact stableSort_sortRows query rows

/--
Rows with a whole number each, sorted by these on one key, come in the order of
the numbers exactly if any two of them whose numbers are rounded to one binary
number came in this order.  Two whose numbers are rounded to different ones
always do, and all of them do where the numbers are at most `2 ^ 53`.
-/
theorem finishRows_integersInOrder_iff
    {query : Query}
    {plan : FinishPlan}
    {rows : List Row}
    {key : SortKey}
    (single : query.sort = [key])
    (sorts : plan.sortsRows = true)
    (unpaged : plan.pagesRows = false)
    (whole : ∀ row ∈ rows,
      ∃ value, row.integer? (resolveKey query rows key.key) = some value) :
    let column := resolveKey query rows key.key
    let sorted := finishRows query plan rows
    (sorted.Pairwise (IntegersInOrder key.direction column) ↔
        rows.Pairwise fun former latter =>
          RoundedAlike column former latter →
            IntegersInOrder key.direction column former latter) ∧
      (sorted.Pairwise fun former latter =>
        ¬ RoundedAlike column former latter →
          IntegersInOrder key.direction column former latter) ∧
      ((∀ row ∈ rows, ∀ value, row.integer? column = some value →
          value.natAbs ≤ 0x20000000000000) →
        sorted.Pairwise (IntegersInOrder key.direction column)) := by
  intro column sorted
  have stable := stableSort_finishRows_single single sorts unpaged rows
  refine ⟨stable.integersInOrder_iff whole,
    stable.integersInOrder_of_not_roundedAlike whole,
    fun small => (stable.integersInOrder_iff whole).2 ?_⟩
  refine List.pairwise_of_forall_mem_list fun former member latter memberToo =>
    ?_
  exact integersInOrder_of_small (small former member) (small latter memberToo)

/-! ## Rows with an id -/

/-- A query of documents sorted by their number. -/
def sortedById (direction : Direction) : Query :=
  { Query.ofTable "db" "t" with sort := [{ key := "id", direction }] }

/-- The row of a document with a number. -/
def idRow
    (id : Int)
    (bounded : -0x8000000000000000 ≤ id ∧ id < 0x10000000000000000) :
    Row :=
  Row.ofList [("id", .number (.whole id bounded))]

theorem integer?_idRow
    {id : Int}
    (bounded : -0x8000000000000000 ≤ id ∧ id < 0x10000000000000000) :
    (idRow id bounded).integer? "id" = some id :=
  Row.integer?_eq_some_iff.2 ⟨bounded, Row.get?_insert_self _ _ _⟩

/-- The least signed number and the greatest unsigned one. -/
def extremes : List Row :=
  [idRow (-0x8000000000000000) (by decide),
    idRow 0xFFFFFFFFFFFFFFFF (by decide)]

/-- `2 ^ 53`, behind the number after it. -/
def neighbours : List Row :=
  [idRow 0x20000000000001 (by decide), idRow 0x20000000000000 (by decide)]

/-- Numbers that no machine word holds together are put in order. -/
theorem finishRows_integersInOrder_iff_extremes :
    (sortedById .descending).sort =
        [{ key := "id", direction := .descending }] ∧
      (∀ row ∈ extremes, ∃ value,
        row.integer? (resolveKey (sortedById .descending) extremes "id") =
          some value) ∧
      (finishRows (sortedById .descending)
        { sortsRows := true, pagesRows := false }
        extremes).Pairwise (IntegersInOrder .descending "id") := by
  have whole : ∀ row ∈ extremes, ∃ value,
      row.integer? (resolveKey (sortedById .descending) extremes "id") =
        some value :=
    List.forall_mem_cons.2
      ⟨⟨_, integer?_idRow _⟩, List.forall_mem_singleton.2 ⟨_, integer?_idRow _⟩⟩
  have exactly := @finishRows_integersInOrder_iff (sortedById .descending)
    { sortsRows := true, pagesRows := false } extremes
    { key := "id", direction := .descending } rfl rfl rfl whole
  refine ⟨rfl, whole, exactly.1.2 (List.pairwise_pair.2 fun alike => ?_)⟩
  exact absurd (alike _ _ (integer?_idRow _) (integer?_idRow _)) (by decide)

/-- The number after `2 ^ 53` is rounded to `2 ^ 53`, so it
stays in front of it. -/
theorem neighbours_left_unsorted :
    finishRows (sortedById .ascending)
        { sortsRows := true, pagesRows := false } neighbours =
        neighbours ∧
      ¬ neighbours.Pairwise (IntegersInOrder .ascending "id") := by
  constructor
  · have tied : compareRows [{ key := "id", direction := .ascending }]
        (idRow 0x20000000000001 (by decide))
        (idRow 0x20000000000000 (by decide)) = .eq := by
      rw [compareRows_single,
        compareCells_integers (integer?_idRow _) (integer?_idRow _)]
      decide
    have keys : resolveKeys (sortedById .ascending) neighbours =
        [{ key := "id", direction := .ascending }] :=
      rfl
    have sorted :
        finishRows (sortedById .ascending)
        { sortsRows := true, pagesRows := false }
        neighbours = sortRows (sortedById .ascending) neighbours :=
      rfl
    rw [sorted, sortRows, keys]
    refine List.mergeSort_of_pairwise (List.pairwise_pair.2 ?_)
    rw [tied]
    rfl
  · intro inOrder
    have kept :=
      List.pairwise_pair.1 inOrder _ _ (integer?_idRow _) (integer?_idRow _)
    exact absurd kept (by decide)

end TabularSearch
