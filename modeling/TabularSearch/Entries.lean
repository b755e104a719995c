/-!
# Lists of entries

Pairs of a key and an item, in order.  `putEntry` keeps every key once: a key
that is there already keeps its place and takes the new item.
`itemAt?_putEntry_self` and `itemAt?_putEntry_of_ne` say what is found
afterwards, and `map_fst_putEntry` which keys there are.  Where every key is
there once, `itemAt?_of_mem` finds every entry; where a key comes more than
once, merging keeps its last entry (`itemAt?_mergeEntries`).
-/

namespace TabularSearch

/-- The entry for a key replaced where it stands, or added at the end. -/
def putEntry
    {Item : Type}
    (key : String)
    (item : Item) :
    List (String × Item) → List (String × Item)
  | [] => [(key, item)]
  | entry :: rest =>
    if entry.1 = key then (key, item) :: rest
    else entry :: putEntry key item rest

/-- The item of the first entry for a key. -/
def itemAt?
    {Item : Type}
    (key : String) :
    List (String × Item) → Option Item
  | [] => none
  | entry :: rest => if entry.1 = key then some entry.2 else itemAt? key rest

@[simp]
theorem itemAt?_putEntry_self
    {Item : Type}
    (key : String)
    (item : Item)
    (entries : List (String × Item)) :
    itemAt? key (putEntry key item entries) = some item := by
  induction entries with
  | nil => simp [putEntry, itemAt?]
  | cons entry rest step =>
    by_cases same : entry.1 = key <;> simp [putEntry, itemAt?, same, step]

theorem itemAt?_putEntry_of_ne
    {Item : Type}
    {key other : String}
    (different : other ≠ key)
    (item : Item)
    (entries : List (String × Item)) :
    itemAt? other (putEntry key item entries) = itemAt? other entries := by
  induction entries with
  | nil => simp [putEntry, itemAt?, different.symm]
  | cons entry rest step =>
    by_cases same : entry.1 = key
    · simp [putEntry, itemAt?, same, different.symm]
    · simp [putEntry, itemAt?, same, step]

theorem map_fst_putEntry
    {Item : Type}
    (key : String)
    (item : Item)
    (entries : List (String × Item)) :
    (putEntry key item entries).map Prod.fst =
      if key ∈ entries.map Prod.fst then entries.map Prod.fst
      else entries.map Prod.fst ++ [key] := by
  induction entries with
  | nil => simp [putEntry]
  | cons entry rest step =>
    by_cases same : entry.1 = key
    · simp [putEntry, same]
    · have other : ¬ key = entry.1 := fun equality => same equality.symm
      simp only [putEntry, same, if_false, List.map_cons, step, List.mem_cons,
        other, false_or]
      split <;> simp

theorem putEntry_of_notMem
    {Item : Type}
    {key : String}
    {entries : List (String × Item)}
    (absent : key ∉ entries.map Prod.fst)
    (item : Item) :
    putEntry key item entries = entries ++ [(key, item)] := by
  induction entries with
  | nil => rfl
  | cons entry rest step =>
    rw [List.map_cons, List.mem_cons, not_or] at absent
    rw [putEntry, if_neg fun same => absent.1 same.symm, step absent.2,
      List.cons_append]

theorem itemAt?_of_mem
    {Item : Type}
    {key : String}
    {item : Item}
    {entries : List (String × Item)}
    (distinct : (entries.map Prod.fst).Nodup)
    (member : (key, item) ∈ entries) :
    itemAt? key entries = some item := by
  induction entries with
  | nil => cases member
  | cons entry rest step =>
    rw [List.map_cons, List.nodup_cons] at distinct
    rcases List.mem_cons.1 member with rfl | later
    · rw [itemAt?, if_pos rfl]
    · have other : entry.1 ≠ key := fun same =>
        distinct.1 (List.mem_map.2 ⟨(key, item), later, same.symm⟩)
      rw [itemAt?, if_neg other, step distinct.2 later]

/-- The entries of a list put one after the other into an empty one. -/
def mergeEntries
    {Item : Type}
    (entries : List (String × Item)) :
    List (String × Item) :=
  entries.foldl (fun merged entry => putEntry entry.1 entry.2 merged) []

theorem itemAt?_append
    {Item : Type}
    (key : String)
    (front back : List (String × Item)) :
    itemAt? key (front ++ back) =
      (itemAt? key front).or (itemAt? key back) := by
  induction front with
  | nil => rfl
  | cons entry rest step =>
    rw [List.cons_append, itemAt?, itemAt?, step]
    split <;> rfl

theorem itemAt?_eq_none
    {Item : Type}
    {key : String}
    {entries : List (String × Item)}
    (absent : key ∉ entries.map Prod.fst) :
    itemAt? key entries = none := by
  induction entries with
  | nil => rfl
  | cons entry rest step =>
    rw [List.map_cons, List.mem_cons, not_or] at absent
    rw [itemAt?, if_neg fun same => absent.1 same.symm, step absent.2]

/-- What is put later hides what was there before. -/
theorem itemAt?_foldl_putEntry
    {Item : Type}
    (key : String)
    (entries start : List (String × Item)) :
    itemAt? key
        (entries.foldl
          (fun merged entry => putEntry entry.1 entry.2 merged) start) =
      (itemAt? key entries.reverse).or (itemAt? key start) := by
  induction entries generalizing start with
  | nil => rfl
  | cons entry rest step =>
    rw [List.foldl_cons, step, List.reverse_cons, itemAt?_append,
      Option.or_assoc]
    congr 1
    by_cases same : entry.1 = key
    · subst same
      rw [itemAt?_putEntry_self, itemAt?, if_pos rfl, Option.some_or]
    · rw [itemAt?_putEntry_of_ne fun equality => same equality.symm, itemAt?,
        if_neg same, itemAt?, Option.none_or]

theorem itemAt?_mergeEntries
    {Item : Type}
    (key : String)
    (entries : List (String × Item)) :
    itemAt? key (mergeEntries entries) = itemAt? key entries.reverse := by
  rw [mergeEntries, itemAt?_foldl_putEntry, itemAt?, Option.or_none]

end TabularSearch
