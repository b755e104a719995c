import TabularSearch.Proofs.Names

/-!
# Rows made by insertions

A row keeps its columns in the order in which they first came and the value that
came last under each.  `Row.Gathers` says this of a row, a row to start from and
the pairs inserted into it one after the other.  One insertion adds its column
to the names that are there (`columns_insert`) and hides one value
(`get?_insert_self`); a run of insertions is followed by its list of pairs.
-/

namespace TabularSearch

open TabularSearch.Json

namespace Row

/-- Pairs inserted one after the other; every insertion gives
the changed row back. -/
def insertAll
    (row : Row)
    (pairs : Members) :
    Row :=
  pairs.foldl (fun row pair => row.insert pair.1 pair.2) row

/-- A row is what pairs inserted into another one lead to. -/
structure Gathers
    (row start : Row)
    (pairs : Members) :
    Prop where
  once : row.columns.Nodup
  columns :
    ∀ column, column ∈ row.columns ↔
      column ∈ start.columns ∨ column ∈ pairs.map Prod.fst
  order :
    row.columns.Pairwise fun former latter =>
      (start.columns ++ pairs.map Prod.fst).idxOf former <
        (start.columns ++ pairs.map Prod.fst).idxOf latter
  last :
    ∀ front column value back,
      pairs = front ++ (column, value) :: back → column ∉ back.map Prod.fst →
        row.get? column = some value
  kept :
    ∀ column, column ∉ pairs.map Prod.fst → row.get? column = start.get? column
  absent :
    ∀ column, column ∉ start.columns → column ∉ pairs.map Prod.fst →
      row.get? column = none

/-- Something is under a column exactly if the row has it. -/
theorem isSome_get?
    (row : Row)
    (column : String) :
    (row.get? column).isSome = row.contains column := by
  by_cases member : column ∈ row.columns
  · rw [(row.contains_iff column).2 member]
    obtain ⟨⟨name, value⟩, entry, rfl⟩ := List.mem_map.1 member
    rw [get?, itemAt?_of_mem row.distinct entry, Option.isSome_some]
  · have outside : row.contains column = false :=
      Bool.eq_false_iff.2 (mt (row.contains_iff column).1 member)
    rw [outside, get?, itemAt?_eq_none member, Option.isSome_none]

/-- The columns of a row with those of the insertions added, each
where it first comes. -/
theorem columns_insertAll
    (row : Row)
    (pairs : Members) :
    (row.insertAll pairs).columns =
      addNames row.columns (pairs.map Prod.fst) := by
  induction pairs generalizing row with
  | nil => rfl
  | cons pair rest step =>
      have later := step (row.insert pair.1 pair.2)
      rw [columns_insert] at later
      exact later

theorem entries_insertAll
    (row : Row)
    (pairs : Members) :
    (row.insertAll pairs).entries =
      pairs.foldl (fun merged entry => putEntry entry.1 entry.2 merged)
        row.entries := by
  induction pairs generalizing row with
  | nil => rfl
  | cons pair rest step => exact step (row.insert pair.1 pair.2)

/-- The last insertion under a column counts, and without one
what was there before. -/
theorem get?_insertAll
    (row : Row)
    (pairs : Members)
    (column : String) :
    (row.insertAll pairs).get? column =
      (itemAt? column pairs.reverse).or (row.get? column) := by
  rw [get?, entries_insertAll, itemAt?_foldl_putEntry]
  rfl

theorem gathers_insertAll
    (row : Row)
    (pairs : Members) :
    (row.insertAll pairs).Gathers row pairs := by
  have untouched (column : String) (missing : column ∉ pairs.map Prod.fst) :
      (row.insertAll pairs).get? column = row.get? column := by
    have nothing : column ∉ pairs.reverse.map Prod.fst := by
      rwa [List.map_reverse, List.mem_reverse]
    rw [get?_insertAll, itemAt?_eq_none nothing, Option.none_or]
  constructor
  case once => exact (row.insertAll pairs).distinct
  case columns =>
    intro column
    rw [columns_insertAll, mem_addNames]
  case order =>
    have whole : addNames [] row.columns = row.columns :=
      addNames_of_nodup row.distinct
    have gathered := pairwise_addNames (row.columns ++ pairs.map Prod.fst)
    rwa [addNames_append, whole, ← columns_insertAll] at gathered
  case last =>
    rintro front column value back rfl missing
    have nothing : column ∉ back.reverse.map Prod.fst := by
      rwa [List.map_reverse, List.mem_reverse]
    rw [get?_insertAll, List.reverse_append, List.reverse_cons,
      List.append_assoc, itemAt?_append, itemAt?_eq_none nothing,
      Option.none_or, List.singleton_append, itemAt?, if_pos rfl,
      Option.some_or]
  case kept => exact untouched
  case absent =>
    intro column before missing
    rw [untouched column missing, get?, itemAt?_eq_none before]

/-- Insertions of any number keep the order in which columns first came
and the values that came last; a row of pairs is made by inserting them
into the row without columns; and the columns of a row with their values
make up the row again. -/
theorem insertions_gather
    (row : Row)
    (pairs : Members) :
    (row.insertAll pairs).Gathers row pairs ∧
      (ofList pairs).Gathers empty pairs ∧
      ofList pairs = empty.insertAll pairs ∧
      (∀ column, row.contains column = (row.get? column).isSome) ∧
      row.size = row.columns.length ∧
      ofList row.toList = row :=
  ⟨gathers_insertAll row pairs, gathers_insertAll empty pairs, rfl,
    fun column => (isSome_get? row column).symm, (List.length_map _).symm,
    ext_entries (entries_ofList row.distinct)⟩

end Row

end TabularSearch
