import Mathlib.Data.List.Pairwise
import TabularSearch.Rows.Finish

/-!
# The order of rows

Rows are compared key by key, and cells by their kind first and then as that
kind, with what is missing at the end.  Every one of these comparisons is
consistent: turned around it is reversed, and what follows goes on to what
follows that.  Sorting therefore puts every row after those it does not come
before, and where no two rows are equal on all keys there is only one such
order, whatever the order the rows came in.
-/

namespace TabularSearch

open TabularSearch.Json
open Std

/-! ## Numbers -/

/-- Whether a number may stand in front of another. -/
def Direction.keepsWhole
    (direction : Direction)
    (former latter : Int) :
    Prop :=
  match direction with
  | .ascending => former ≤ latter
  | .descending => latter ≤ former

/-- Whether two whole numbers stand in a direction can be decided. -/
instance (direction : Direction) (former latter : Int) :
    Decidable (direction.keepsWhole former latter) :=
  match direction with
  | .ascending => inferInstanceAs (Decidable (former ≤ latter))
  | .descending => inferInstanceAs (Decidable (latter ≤ former))

/-! ## Values -/

/-- The truth value, where a value is one. -/
def truthOf : Value → Bool
  | .bool truth => truth
  | _ => false

/-- The size of a number in the smallest units. -/
def unitsOf : Value → Int
  | .number number => number.toBinary64.units
  | _ => 0

/-- The text, where a value is one. -/
def textOf : Value → String
  | .string content => content
  | _ => ""

/-- Values are compared by their kind and then by the one part that
values of a kind have. -/
theorem comparePresent_eq_compareLex :
    comparePresent =
      compareLex (compareOn kindRank)
        (compareLex (compareOn truthOf)
          (compareLex (compareOn unitsOf) (compareOn textOf))) := by
  funext left right
  cases left <;> cases right <;>
    first
      | rfl
      | simp [comparePresent, compareLex, compareOn, kindRank, truthOf,
          unitsOf, textOf, Binary64.compareValue]

/-- Values that are there are ordered consistently. -/
instance : TransCmp comparePresent := by
  rw [comparePresent_eq_compareLex]
  infer_instance

/-! ## Cells -/

/-- The order of values that are there, in a direction. -/
def compareDirected : Direction → Value → Value → Ordering
  | .ascending => comparePresent
  | .descending => fun left right => comparePresent right left

/-- So they are in both directions. -/
instance (direction : Direction) : TransCmp (compareDirected direction) := by
  cases direction with
  | ascending => exact inferInstanceAs (TransCmp comparePresent)
  | descending =>
      exact inferInstanceAs
        (TransCmp fun left right => comparePresent right left)

/-- The order of optional values in which what is missing comes last. -/
def compareLast
    (direction : Direction) :
    Option Value → Option Value → Ordering
  | none, none => .eq
  | none, some _ => .gt
  | some _, none => .lt
  | some left, some right => compareDirected direction left right

theorem compareCells_eq_compareLast
    (direction : Direction)
    (left right : Option Value) :
    compareCells direction left right =
      compareLast direction (left.filter fun value => !value.isNull)
        (right.filter fun value => !value.isNull) := by
  rw [compareCells]
  split <;> rename_i first second <;> rw [first, second]
  · rfl
  · rfl
  · rfl
  · cases direction with
    | ascending => rfl
    | descending => exact OrientedCmp.eq_swap.symm

/-- What is missing comes last consistently. -/
instance (direction : Direction) : TransCmp (compareLast direction) where
  eq_swap {left right} := by
    cases left with
    | none => cases right <;> rfl
    | some left =>
        cases right with
        | none => rfl
        | some right =>
            have swapped : compareDirected direction left right =
                (compareDirected direction right left).swap :=
              OrientedCmp.eq_swap
            exact swapped
  isLE_trans {left middle right} first second := by
    cases left with
    | none =>
        cases middle with
        | none => exact second
        | some middle => cases first
    | some left =>
        cases right with
        | none => rfl
        | some right =>
            cases middle with
            | none => cases second
            | some middle =>
                have through :
                    (compareDirected direction left right).isLE = true :=
                  TransCmp.isLE_trans first second
                exact through

/-- Cells are ordered consistently. -/
instance (direction : Direction) : TransCmp (compareCells direction) where
  eq_swap := by
    simp only [compareCells_eq_compareLast]
    exact OrientedCmp.eq_swap
  isLE_trans := by
    simp only [compareCells_eq_compareLast]
    exact TransCmp.isLE_trans

/-! ## Rows -/

theorem compareRows_eq_compareLex
    (key : SortKey)
    (rest : List SortKey) :
    compareRows (key :: rest) =
      compareLex
        (fun left right =>
          compareCells key.direction (left.get? key.key) (right.get? key.key))
        (compareRows rest) :=
  rfl

/-- Rows are ordered consistently by one key. -/
instance (key : SortKey) :
    TransCmp fun left right : Row =>
      compareCells key.direction (left.get? key.key) (right.get? key.key) where
  eq_swap := OrientedCmp.eq_swap
  isLE_trans := TransCmp.isLE_trans

/-- Rows are ordered consistently by all keys together. -/
instance (keys : List SortKey) : TransCmp (compareRows keys) := by
  induction keys with
  | nil => exact { eq_swap := rfl, isLE_trans := fun _ _ => rfl }
  | cons key rest step =>
      rw [compareRows_eq_compareLex]
      infer_instance

/-! ## Sorting -/

section Sorting

variable {query : Query} {rows others : List Row}

theorem sortRows_perm (query : Query) (rows : List Row) :
    (sortRows query rows).Perm rows :=
  List.mergeSort_perm rows _

theorem isLE_iff_ne_gt {order : Ordering} :
    order.isLE = true ↔ (order != .gt) = true := by
  cases order <;> decide

/-- No row comes after one that it goes before. -/
theorem pairwise_sortRows (query : Query) (rows : List Row) :
    (sortRows query rows).Pairwise fun left right =>
      (compareRows (resolveKeys query rows) left right).isLE = true := by
  simp only [isLE_iff_ne_gt]
  apply List.pairwise_mergeSort
  · intro left middle right
    simp only [← isLE_iff_ne_gt]
    exact TransCmp.isLE_trans
  · intro left right
    have turned : compareRows (resolveKeys query rows) right left =
        (compareRows (resolveKeys query rows) left right).swap :=
      OrientedCmp.eq_swap
    rw [turned]
    cases compareRows (resolveKeys query rows) left right <;> rfl

/-- No two rows are equal on all sort keys. -/
def Separated (query : Query) (rows : List Row) : Prop :=
  rows.Pairwise fun left right =>
    compareRows (resolveKeys query rows) left right ≠ .eq

/-- The columns that sort keys name do not depend on the order of the rows. -/
theorem resolveKeys_perm (same : rows.Perm others) :
    resolveKeys query rows = resolveKeys query others := by
  simp only [resolveKeys, resolveKey, same.any_eq]

/-- Where no two rows are equal on all keys, sorting forgets
the order they came in. -/
theorem sortRows_eq_of_perm
    (separated : Separated query rows)
    (same : rows.Perm others) :
    sortRows query rows = sortRows query others := by
  have order := pairwise_sortRows query others
  rw [← resolveKeys_perm same] at order
  refine List.Perm.eq_of_pairwise ?_ (pairwise_sortRows query rows) order
    ((sortRows_perm query rows).trans
      (same.trans (sortRows_perm query others).symm))
  intro left right inLeft inRight below above
  have first := (sortRows_perm query rows).mem_iff.1 inLeft
  have second := same.mem_iff.2 ((sortRows_perm query others).mem_iff.1 inRight)
  have symmetric :
      Std.Symm fun left right =>
        compareRows (resolveKeys query rows) left right ≠ .eq :=
    ⟨fun _ _ different equal => different (OrientedCmp.eq_comm.1 equal)⟩
  by_contra different
  exact separated.forall first second different
    (OrientedCmp.isLE_antisymm below above)

end Sorting

end TabularSearch
