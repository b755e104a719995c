import Mathlib.Data.List.Forall2
import TabularSearch.Proofs.Rows.Order

/-!
# Finished rows

What the order of rows means is said here without comparing: `RowBefore`
holds where a row goes before another on the first sort key on which they
differ, and a cell that has a value goes before one that has none in both
directions.  `ColumnFor` says which column a sort clause stands for.  The
main statement is that finishing rows is a stable sort by this order followed
by one slice, and that the order is consistent on all rows, whatever kinds of
values meet under a key.
-/

namespace TabularSearch

open TabularSearch.Json
open Std

/-! ## What goes before what -/

/-- A value goes before another: by its kind, or as values of one kind do. -/
inductive ValueBefore : Value → Value → Prop where
  | kind
      {left right : Value}
      (lower : kindRank left < kindRank right) :
      ValueBefore left right
  | bool : ValueBefore (.bool false) (.bool true)
  | number
      {left right : Number}
      (less : left.toBinary64.units < right.toBinary64.units) :
      ValueBefore (.number left) (.number right)
  | string
      {left right : String}
      (less : left < right) :
      ValueBefore (.string left) (.string right)

/-- The value in a cell, unless it is missing or null. -/
def shownValue? (cell : Option Value) : Option Value :=
  cell.filter fun value => !value.isNull

/-- A cell goes before another in a direction; without a value none does. -/
inductive CellBefore
    (direction : Direction)
    (left right : Option Value) :
    Prop where
  | missingLast
      {value : Value}
      (shown : shownValue? left = some value)
      (missing : shownValue? right = none) :
      CellBefore direction left right
  | ascending
      {first second : Value}
      (shown : shownValue? left = some first)
      (other : shownValue? right = some second)
      (upward : direction = .ascending)
      (before : ValueBefore first second) :
      CellBefore direction left right
  | descending
      {first second : Value}
      (shown : shownValue? left = some first)
      (other : shownValue? right = some second)
      (downward : direction = .descending)
      (before : ValueBefore second first) :
      CellBefore direction left right

/-- The cells of two rows under a sort key, in the order of the key. -/
def KeyBefore (key : SortKey) (left right : Row) : Prop :=
  CellBefore key.direction (left.get? key.key) (right.get? key.key)

/-- No sort key tells two rows apart. -/
def TiedOn (keys : List SortKey) (left right : Row) : Prop :=
  ∀ key ∈ keys, ¬ KeyBefore key left right ∧ ¬ KeyBefore key right left

/-- A row goes before another on the first sort key that tells them apart. -/
def RowBefore (keys : List SortKey) (left right : Row) : Prop :=
  ∃ front key back,
    keys = front ++ key :: back ∧ TiedOn front left right ∧
      KeyBefore key left right

/-! ## The columns of sort keys -/

/-- The column that a name in a sort clause stands for: the column of this name
where a row has one, and otherwise the innermost group on a field of this name,
or the name itself where no group is on it. -/
inductive ColumnFor
    (query : Query)
    (rows : List Row)
    (name : String) :
    String → Prop where
  | shown
      {row : Row}
      (member : row ∈ rows)
      (has : row.contains name = true) :
      ColumnFor query rows name name
  | grouped
      {front back : List Grouping}
      {group : Grouping}
      (absent : ∀ row ∈ rows, row.contains name = false)
      (levels : query.groups = front ++ group :: back)
      (named : group.field = name)
      (innermost : ∀ below ∈ back, below.field ≠ name) :
      ColumnFor query rows name group.label
  | unknown
      (absent : ∀ row ∈ rows, row.contains name = false)
      (ungrouped : ∀ group ∈ query.groups, group.field ≠ name) :
      ColumnFor query rows name name

/-- A sort key is a sort clause with its column found. -/
structure KeyOf
    (query : Query)
    (rows : List Row)
    (clause key : SortKey) :
    Prop where
  direction : key.direction = clause.direction
  column : ColumnFor query rows clause.key key.key

/-- A name that no row has stands for the innermost group on a field of this
name. -/
theorem columnFor_of_absent
    (query : Query)
    {rows : List Row}
    {name : String}
    (absent : ∀ row ∈ rows, row.contains name = false) :
    ColumnFor query rows name ((query.groupLabelFor? name).getD name) := by
  let named : Grouping → Bool := fun group => group.field == name
  change ColumnFor query rows name
    (((query.groups.reverse.find? named).map Grouping.label).getD name)
  cases found : query.groups.reverse.find? named with
  | none =>
      refine .unknown absent fun group member same => ?_
      rw [List.find?_eq_none] at found
      exact found group (List.mem_reverse.2 member) (beq_iff_eq.2 same)
  | some group =>
      -- In front of the group in the reversed list is what is below it.
      rcases List.find?_eq_some_iff_append.1 found with
        ⟨here, below, above, reversed, before⟩
      have levels :
          query.groups = above.reverse ++ group :: below.reverse := by
        rw [← List.reverse_reverse query.groups, reversed, List.reverse_append,
          List.reverse_cons, List.append_assoc, List.singleton_append]
      refine .grouped absent levels (beq_iff_eq.1 here) ?_
      intro deeper member same
      have other := before deeper (List.mem_reverse.1 member)
      rw [Bool.not_eq_true', beq_eq_false_iff_ne] at other
      exact other same

theorem columnFor_resolveKey
    (query : Query)
    (rows : List Row)
    (name : String) :
    ColumnFor query rows name (resolveKey query rows name) := by
  rw [resolveKey]
  split
  · rename_i held
    rcases List.any_eq_true.1 held with ⟨row, member, has⟩
    exact .shown member has
  · rename_i lacking
    rw [List.any_eq_true, not_exists] at lacking
    apply columnFor_of_absent
    intro row member
    exact Bool.eq_false_iff.2 fun has => lacking row ⟨member, has⟩

/-- There is one key for each sort clause, in the same order. -/
theorem forall₂_resolveKeys
    (query : Query)
    (rows : List Row) :
    List.Forall₂ (KeyOf query rows) query.sort (resolveKeys query rows) := by
  rw [resolveKeys, List.forall₂_map_right_iff, List.forall₂_same]
  exact fun clause _ => ⟨rfl, columnFor_resolveKey query rows clause.key⟩

/-! ## Comparing tells what goes before what -/

theorem comparePresent_eq_lt_iff {left right : Value} :
    comparePresent left right = .lt ↔ ValueBefore left right := by
  unfold comparePresent
  split
  · rename_i first second
    constructor
    · intro less
      cases first <;> cases second <;> first | exact .bool | cases less
    · rintro (lower | _ | _ | _)
      · exact absurd lower (Nat.lt_irrefl _)
      · rfl
  · rename_i first second
    rw [Binary64.compareValue, Int.compare_eq_lt]
    constructor
    · exact .number
    · rintro (lower | _ | less | _)
      · exact absurd lower (Nat.lt_irrefl _)
      · exact less
  · rename_i first second
    have order : compare first second = .lt ↔ first < second :=
      compareOfLessAndEq_eq_lt
    rw [order]
    constructor
    · exact .string
    · rintro (lower | _ | _ | less)
      · exact absurd lower (Nat.lt_irrefl _)
      · exact less
  · rename_i noBools noNumbers noStrings
    rw [Nat.compare_eq_lt]
    constructor
    · exact .kind
    · rintro (lower | _ | _ | _)
      · exact lower
      · exact (noBools _ _ rfl rfl).elim
      · exact (noNumbers _ _ rfl rfl).elim
      · exact (noStrings _ _ rfl rfl).elim

theorem compareCells_eq_lt_iff
    {direction : Direction}
    {left right : Option Value} :
    compareCells direction left right = .lt ↔
      CellBefore direction left right := by
  rw [compareCells_eq_compareLast, ← shownValue?, ← shownValue?]
  constructor
  · intro less
    cases shown : shownValue? left with
    | none =>
        cases missing : shownValue? right <;>
          rw [shown, missing] at less <;> cases less
    | some first =>
        cases other : shownValue? right with
        | none => exact .missingLast shown other
        | some second =>
            rw [shown, other] at less
            cases direction with
            | ascending =>
                exact .ascending shown other rfl
                  (comparePresent_eq_lt_iff.1 less)
            | descending =>
                exact .descending shown other rfl
                  (comparePresent_eq_lt_iff.1 less)
  · rintro (⟨shown, missing⟩ | ⟨shown, other, rfl, before⟩
      | ⟨shown, other, rfl, before⟩)
    · rw [shown, missing, compareLast]
    · rw [shown, other]
      exact comparePresent_eq_lt_iff.2 before
    · rw [shown, other]
      exact comparePresent_eq_lt_iff.2 before

/-- Two cells are equal in the order where neither goes before the other. -/
theorem compareCells_eq_eq_iff
    {direction : Direction}
    {left right : Option Value} :
    compareCells direction left right = .eq ↔
      ¬ CellBefore direction left right ∧
        ¬ CellBefore direction right left := by
  have turned :
      compareCells direction right left =
        (compareCells direction left right).swap :=
    OrientedCmp.eq_swap
  rw [← compareCells_eq_lt_iff, ← compareCells_eq_lt_iff, turned]
  cases compareCells direction left right <;> decide

theorem compareRows_eq_eq_iff
    {keys : List SortKey}
    {left right : Row} :
    compareRows keys left right = .eq ↔ TiedOn keys left right := by
  induction keys with
  | nil => exact iff_of_true rfl fun _ member => by cases member
  | cons key rest step =>
      have parts : TiedOn (key :: rest) left right ↔
          (¬ KeyBefore key left right ∧ ¬ KeyBefore key right left) ∧
            TiedOn rest left right :=
        List.forall_mem_cons
      rw [compareRows, Ordering.then_eq_eq, compareCells_eq_eq_iff, step, parts,
        KeyBefore, KeyBefore]

theorem compareRows_eq_lt_iff
    {keys : List SortKey}
    {left right : Row} :
    compareRows keys left right = .lt ↔ RowBefore keys left right := by
  induction keys with
  | nil =>
      refine iff_of_false (fun less => by cases less) ?_
      rintro ⟨front, key, back, split, -⟩
      cases front <;> cases split
  | cons key rest step =>
      rw [compareRows, Ordering.then_eq_lt, compareCells_eq_lt_iff,
        compareCells_eq_eq_iff, step]
      constructor
      · rintro (before | ⟨tied, front, other, back, rfl, tiedFront, before⟩)
        · exact ⟨[], key, rest, rfl, fun _ member => (by cases member), before⟩
        · exact ⟨key :: front, other, back, rfl,
            List.forall_mem_cons.2 ⟨tied, tiedFront⟩, before⟩
      · rintro ⟨front, other, back, split, tied, before⟩
        cases front with
        | nil =>
            obtain ⟨rfl, rfl⟩ := List.cons.inj split
            exact Or.inl before
        | cons first front =>
            obtain ⟨rfl, rfl⟩ := List.cons.inj split
            rw [TiedOn, List.forall_mem_cons] at tied
            exact Or.inr ⟨tied.1, front, other, back, rfl, tied.2, before⟩

/-! ## Stable sorts -/

/-- The same items in order, those that are equal in the order they came in. -/
structure StableSort
    {Item : Type}
    (order : Item → Item → Ordering)
    (items sorted : List Item) :
    Prop where
  perm : sorted.Perm items
  inOrder : sorted.Pairwise fun left right => order left right ≠ .gt
  ties : ∀ item,
    (sorted.filter fun other => order item other = .eq) =
      items.filter fun other => order item other = .eq

/-- A consistent order of items of any kind. -/
structure TotalPreorder
    {Item : Type}
    (order : Item → Item → Ordering) :
    Prop where
  reflexive : ∀ item, order item item = .eq
  turned : ∀ left right, order right left = (order left right).swap
  total : ∀ left right, order left right ≠ .gt ∨ order right left ≠ .gt
  transitive : ∀ first second third,
    order first second ≠ .gt → order second third ≠ .gt →
      order first third ≠ .gt

theorem totalPreorder_compareRows (keys : List SortKey) :
    TotalPreorder (compareRows keys) where
  reflexive _ := ReflCmp.compare_self
  turned _ _ := OrientedCmp.eq_swap
  total left right := by
    have turned :
        compareRows keys right left = (compareRows keys left right).swap :=
      OrientedCmp.eq_swap
    rw [turned]
    cases compareRows keys left right <;> decide
  transitive first second third := by
    simp only [← Ordering.isLE_iff_ne_gt]
    exact TransCmp.isLE_trans

/-- Rows that are equal to one row stand in order as they came, so
sorting leaves them so. -/
theorem filter_sortRows (query : Query) (rows : List Row) (row : Row) :
    ((sortRows query rows).filter fun other =>
        compareRows (resolveKeys query rows) row other = .eq) =
      rows.filter fun other =>
        compareRows (resolveKeys query rows) row other = .eq := by
  let keys := resolveKeys query rows
  have tied :
      (rows.filter fun other => compareRows keys row other = .eq).Pairwise
        fun left right =>
        (compareRows keys left right != .gt) = true := by
    rw [List.pairwise_filter]
    refine List.pairwise_of_forall fun left right equalLeft equalRight => ?_
    have first : compareRows keys left row = .eq :=
      OrientedCmp.eq_comm.1 (by simpa using equalLeft)
    have second : compareRows keys row right = .eq := by simpa using equalRight
    rw [TransCmp.eq_trans first second]
    rfl
  have kept :
      (rows.filter fun other => compareRows keys row other = .eq).Sublist
      (sortRows query rows) := by
    refine List.sublist_mergeSort ?_ ?_ tied List.filter_sublist
    · intro left middle right
      simp only [← isLE_iff_ne_gt]
      exact TransCmp.isLE_trans
    · intro left right
      have turned :
          compareRows keys right left = (compareRows keys left right).swap :=
        OrientedCmp.eq_swap
      rw [turned]
      cases compareRows keys left right <;> rfl
  have within := kept.filter fun other => compareRows keys row other = .eq
  rw [List.filter_filter] at within
  simp only [Bool.and_self] at within
  exact (within.eq_of_length
    ((sortRows_perm query rows).filter _).length_eq.symm).symm

theorem stableSort_sortRows (query : Query) (rows : List Row) :
    StableSort (compareRows (resolveKeys query rows)) rows
      (sortRows query rows) where
  perm := sortRows_perm query rows
  inOrder := (pairwise_sortRows query rows).imp Ordering.isLE_iff_ne_gt.1
  ties := filter_sortRows query rows

/-- On rows that the keys before tie, a row without a value under a key never
stands in front of one that has a value there, in either direction. -/
theorem missing_last_sortRows
    {query : Query}
    {rows : List Row}
    {front back : List SortKey}
    {key : SortKey}
    (keys : resolveKeys query rows = front ++ key :: back) :
    (sortRows query rows).Pairwise fun left right =>
      TiedOn front left right → shownValue? (left.get? key.key) = none →
        shownValue? (right.get? key.key) = none := by
  refine (stableSort_sortRows query rows).inOrder.imp
    fun {left right} inOrder tied missing => ?_
  cases shown : shownValue? (right.get? key.key) with
  | none => rfl
  | some value =>
      have before : RowBefore (resolveKeys query rows) right left :=
        ⟨front, key, back, keys, fun other member => (tied other member).symm,
          .missingLast shown missing⟩
      exact absurd (OrientedCmp.gt_of_lt (compareRows_eq_lt_iff.2 before))
        inOrder

/-! ## Slices -/

/-- The places of a page that a query's limit leaves; a limit
of zero leaves all. -/
def Query.WithinLimit (query : Query) (place : Nat) : Prop :=
  ∀ limit, query.limit = some limit → limit ≠ 0 → place < limit.toNat

/-- The number of rows that a query leaves out in front. -/
def Query.leftOut (query : Query) : Nat :=
  (query.offset.getD 0).toNat

theorem getElem?_pageRows
    {query : Query}
    {rows : List Row}
    {place : Nat}
    {row : Row} :
    (pageRows query rows)[place]? = some row ↔
      query.WithinLimit place ∧ rows[query.leftOut + place]? = some row := by
  have start : (query.rowOffset.getD 0).toNat = query.leftOut := by
    rw [Query.rowOffset, Query.leftOut]
    cases query.offset with
    | none => rfl
    | some given =>
        rw [Option.filter_some]
        by_cases zero : given = 0 <;> simp [zero]
  rw [pageRows, start, Query.WithinLimit]
  cases limited : query.limit with
  | none => simp [Query.rowLimit, limited]
  | some limit =>
      rw [Query.rowLimit, limited, Option.filter_some]
      by_cases zero : limit = 0
      · simp [zero]
      · simp [zero, List.getElem?_take]

/-! ## Finished rows -/

/--
Where a plan sorts and the query has sort clauses, the rows before paging are a
stable sort by their keys, and otherwise they are the rows as they came; each
clause has one key, with its direction and the column it stands for, and the
keys' order is consistent on all rows.  A row goes before another exactly on the
first key that tells them apart, so on rows that the keys before tie, one
without a value never stands in front of one with a value.  Paging leaves the
rows at the places from the offset on that the limit leaves.
-/
theorem finishRows_stable_slice
    (query : Query)
    (plan : FinishPlan)
    (rows : List Row) :
    let keys := resolveKeys query rows
    let whole := finishRows query { plan with pagesRows := false } rows
    List.Forall₂ (KeyOf query rows) query.sort keys ∧
      TotalPreorder (compareRows keys) ∧
      (∀ left right,
        (compareRows keys left right = .lt ↔ RowBefore keys left right) ∧
          (compareRows keys left right = .eq ↔ TiedOn keys left right)) ∧
      (if plan.sortsRows = true ∧ query.sort ≠ [] then
        StableSort (compareRows keys) rows whole ∧
          ∀ front key back, keys = front ++ key :: back →
            whole.Pairwise fun left right =>
              TiedOn front left right → shownValue? (left.get? key.key) = none →
                shownValue? (right.get? key.key) = none
      else whole = rows) ∧
      if plan.pagesRows = true then
        ∀ place row,
          (finishRows query plan rows)[place]? = some row ↔
            query.WithinLimit place ∧ whole[query.leftOut + place]? = some row
      else finishRows query plan rows = whole := by
  intro keys whole
  refine ⟨forall₂_resolveKeys query rows, totalPreorder_compareRows keys,
    fun left right => ⟨compareRows_eq_lt_iff, compareRows_eq_eq_iff⟩, ?_, ?_⟩
  · split
    · rename_i sorts
      have sorted : whole = sortRows query rows := by
        simp [whole, finishRows, sorts]
      rw [sorted]
      exact ⟨stableSort_sortRows query rows, fun front key back =>
        missing_last_sortRows⟩
    · rename_i unsorted
      simp only [whole, finishRows]
      rw [if_neg (by simp), if_neg (by simpa using unsorted)]
  · split
    · rename_i pages
      intro place row
      have page : finishRows query plan rows = pageRows query whole := by
        simp [whole, finishRows, pages]
      rw [page, getElem?_pageRows]
    · rename_i pages
      simp [whole, finishRows, pages]

end TabularSearch
