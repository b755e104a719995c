import TabularSearch.Json.Document

/-!
# Rows

A row is a list of columns, each with a value, and no column comes twice.
Inserting a value under a column that is there replaces the value in place; a
new column goes to the end.
-/

namespace TabularSearch

open TabularSearch.Json

/-- A row: columns with their values, no column twice. -/
structure Row where
  entries : Members
  distinct : (entries.map Prod.fst).Nodup

namespace Row

theorem ext_entries
    {left right : Row}
    (same : left.entries = right.entries) :
    left = right := by
  cases left
  cases right
  cases same
  rfl

/-- The row without columns. -/
def empty : Row :=
  { entries := [], distinct := List.nodup_nil }

theorem nodup_putEntry
    {entries : Members}
    (distinct : (entries.map Prod.fst).Nodup)
    (column : String)
    (value : Value) :
    ((putEntry column value entries).map Prod.fst).Nodup := by
  rw [map_fst_putEntry]
  split
  · exact distinct
  · rename_i absent
    refine List.nodup_append.2 ⟨distinct, by simp, ?_⟩
    intro name member other single
    rw [List.mem_singleton.1 single]
    exact fun equality => absent (equality ▸ member)

/-- A value put under a column. -/
def insert
    (row : Row)
    (column : String)
    (value : Value) :
    Row :=
  { entries := putEntry column value row.entries
    distinct := nodup_putEntry row.distinct column value }

/-- The row of pairs put one after the other into the empty row. -/
def ofList (pairs : Members) : Row :=
  pairs.foldl (fun row pair => row.insert pair.1 pair.2) empty

/-- The value under a column. -/
def get?
    (row : Row)
    (column : String) :
    Option Value :=
  itemAt? column row.entries

/-- Whether the row has a column. -/
def contains
    (row : Row)
    (column : String) :
    Bool :=
  row.entries.any fun entry => entry.1 == column

/-- The columns in order. -/
def columns (row : Row) : List String :=
  row.entries.map Prod.fst

/-- The columns with their values in order. -/
def toList (row : Row) : Members :=
  row.entries

/-- The number of columns. -/
def size (row : Row) : Nat :=
  row.entries.length

/-- Whether a row has no column. -/
def isEmpty (row : Row) : Bool :=
  row.entries.isEmpty

/-- The JSON form of a row. -/
def toValue (row : Row) : Value :=
  .object row.entries

@[simp]
theorem get?_insert_self
    (row : Row)
    (column : String)
    (value : Value) :
    (row.insert column value).get? column = some value :=
  itemAt?_putEntry_self column value row.entries

theorem get?_insert_of_ne
    (row : Row)
    {column other : String}
    (different : other ≠ column)
    (value : Value) :
    (row.insert column value).get? other = row.get? other :=
  itemAt?_putEntry_of_ne different value row.entries

theorem columns_insert
    (row : Row)
    (column : String)
    (value : Value) :
    (row.insert column value).columns =
      if column ∈ row.columns then row.columns else row.columns ++ [column] :=
  map_fst_putEntry column value row.entries

theorem contains_iff
    (row : Row)
    (column : String) :
    row.contains column = true ↔ column ∈ row.columns := by
  simp [contains, columns]

/-- Pairs under new columns are added in their order. -/
theorem entries_foldl_insert
    {pairs : Members}
    {row : Row}
    (distinct : ((row.entries ++ pairs).map Prod.fst).Nodup) :
    (pairs.foldl (fun row pair => row.insert pair.1 pair.2) row).entries =
      row.entries ++ pairs := by
  induction pairs generalizing row with
  | nil => simp
  | cons pair rest step =>
    have absent : pair.1 ∉ row.entries.map Prod.fst := by
      rw [List.map_append, List.nodup_append] at distinct
      exact fun member => distinct.2.2 _ member _ (by simp) rfl
    have inserted :
        (row.insert pair.1 pair.2).entries = row.entries ++ [pair] :=
      putEntry_of_notMem absent pair.2
    rw [List.foldl_cons, step (by simpa [inserted] using distinct), inserted]
    simp

/-- Pairs under different columns make up a row as they are. -/
theorem entries_ofList
    {pairs : Members}
    (distinct : (pairs.map Prod.fst).Nodup) :
    (ofList pairs).entries = pairs :=
  entries_foldl_insert distinct

end Row

end TabularSearch
