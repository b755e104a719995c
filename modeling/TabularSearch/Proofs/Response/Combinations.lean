import TabularSearch.Proofs.Response.Paths
import TabularSearch.Proofs.Response.TimeKeys

/-!
# Rows with the same group values

Two rows of a grouped answer come from the same buckets down to a level, and
there from two buckets of one array.  If the keys in every array are different,
the two rows differ in the column of this level, unless the column shows less of
a bucket than its key.  This is so where a level on a date shows a component of
instants that differ in a coarser one, and where two keys of a level on a field
are read as the same truth value.
-/

namespace TabularSearch

open TabularSearch.Json

/-! ## Where two ways part -/

/-- Two ways go through the same buckets and then through two
buckets of one array. -/
structure PartAt
    (scope : Members)
    (groups : List Grouping)
    (above : List (Nat × Members))
    (group : Grouping)
    (near far : Nat × Members) :
    Prop where
  here : groups[above.length]? = some group
  reached : PathAt scope (groups.take above.length) above
  bucket : BucketAt (endOf scope above) group.label near.1 near.2
  sibling : BucketAt (endOf scope above) group.label far.1 far.2
  before : near.1 < far.1

theorem BucketAt.unique
    {scope bucket other : Members}
    {name : String}
    {place : Nat}
    (first : BucketAt scope name place bucket)
    (second : BucketAt scope name place other) :
    bucket = other := by
  rcases first with ⟨found, elements, named, array, here⟩
  rcases second with ⟨found', elements', named', array', here'⟩
  rw [named, Option.some.injEq] at named'
  rw [← named', array, Option.some.injEq, Value.array.injEq] at array'
  rw [← array', here, Option.some.injEq, Value.object.injEq] at here'
  exact here'

theorem exists_partAt
    {scope : Members}
    {groups : List Grouping}
    {earlier later : List (Nat × Members)}
    (first : PathAt scope groups earlier)
    (second : PathAt scope groups later)
    (before : earlier.map Prod.fst < later.map Prod.fst) :
    ∃ above group near far below below',
      earlier = above ++ near :: below ∧ later = above ++ far :: below' ∧
        PartAt scope groups above group near far := by
  induction first generalizing later with
  | ends scope =>
      cases second
      exact absurd before (List.lt_irrefl _)
  | @enters scope bucket group rest place path entered others step =>
      cases second with
      | @enters _ other _ _ farther path' also others' =>
          rw [List.map_cons, List.map_cons, List.cons_lt_cons_iff] at before
          rcases before with apart | ⟨same, below⟩
          · exact ⟨[], group, (place, bucket), (farther, other), path, path',
              rfl, rfl,
              { here := rfl
                reached := .ends scope
                bucket := entered
                sibling := also
                before := apart }⟩
          · -- The same bucket: the ways part somewhere inside it.
            obtain rfl : place = farther := same
            obtain rfl := entered.unique also
            rcases step others' below with
              ⟨above, group', near, far, lower, lower', rfl, rfl, part⟩
            refine ⟨(place, bucket) :: above, group', near, far, lower, lower',
              rfl, rfl, ?_⟩
            exact
              { here := part.here
                reached := .enters entered part.reached
                bucket := by
                  rw [endOf_cons]
                  exact part.bucket
                sibling := by
                  rw [endOf_cons]
                  exact part.sibling
                before := part.before }

/-! ## Columns that show less than the keys -/

/-- The key of a bucket is a truth value or a number that is spelled as one. -/
def TruthBucket
    (bucket : Members)
    (truth : Bool) :
    Prop :=
  bucketKey bucket = .bool truth ∨
    (∃ number, bucketKey bucket = .number number) ∧
      bucketKeyText? bucket = some (if truth then "true" else "false")

/-- Two buckets have keys of which the column shows the same. -/
def Blurs
    (bucket sibling : Members) :
    Grouping → Prop
  | .byField _ _ =>
    ∃ truth, TruthBucket bucket truth ∧ TruthBucket sibling truth
  | .byTime _ _ granularity =>
    ∃ millis other,
      (bucketKey bucket).asSigned? = some millis ∧
        (bucketKey sibling).asSigned? = some other ∧
          granularity.ofMillis millis = granularity.ofMillis other ∧
            ∃ coarser : Granularity,
              granularity.rank < coarser.rank ∧
                coarser.ofMillis millis ≠ coarser.ofMillis other

theorem fieldKey_eq_bool_iff
    {bucket : Members}
    {truth : Bool} :
    fieldKey bucket = .bool truth ↔ TruthBucket bucket truth := by
  unfold fieldKey TruthBucket
  split
  · rename_i number key text
    rw [key, text]
    cases truth <;> simp
  · rename_i number key text
    rw [key, text]
    cases truth <;> simp
  · rename_i key text notTrue notFalse
    constructor
    · exact Or.inl
    · rintro (own | ⟨⟨number, own⟩, spelled⟩)
      · exact own
      · cases truth with
        | true => exact absurd spelled (notTrue number own)
        | false => exact absurd spelled (notFalse number own)

theorem fieldKey_cases (bucket : Members) :
    fieldKey bucket = bucketKey bucket ∨
      ∃ truth, fieldKey bucket = .bool truth := by
  unfold fieldKey
  split
  · exact Or.inr ⟨true, rfl⟩
  · exact Or.inr ⟨false, rfl⟩
  · exact Or.inl rfl

theorem fieldKey_eq_iff
    {bucket sibling : Members}
    (differ : bucketKey bucket ≠ bucketKey sibling) :
    fieldKey bucket = fieldKey sibling ↔
      ∃ truth, TruthBucket bucket truth ∧ TruthBucket sibling truth := by
  simp only [← fieldKey_eq_bool_iff]
  constructor
  · intro same
    rcases fieldKey_cases bucket with own | ⟨truth, shown⟩
    · rcases fieldKey_cases sibling with others | ⟨truth, shown⟩
      · rw [own, others] at same
        exact absurd same differ
      · exact ⟨truth, same.trans shown, shown⟩
    · exact ⟨truth, shown, same.symm.trans shown⟩
  · rintro ⟨truth, first, second⟩
    rw [first, second]

/-- The buckets of a level have different keys, and those of a level on a date
have the keys and the texts of dates. -/
structure LevelKeyed
    (scope : Members)
    (group : Grouping) :
    Prop where
  differ :
    ∀ place other bucket sibling,
      BucketAt scope group.label place bucket →
        BucketAt scope group.label other sibling →
        place ≠ other → bucketKey bucket ≠ bucketKey sibling
  dated :
    ∀ field label granularity,
      group = .byTime field label granularity →
        ∀ place bucket,
          BucketAt scope label place bucket → ∃ millis,
            DateBucket granularity bucket millis

theorem LevelKeyed.groupKey_eq_iff
    {scope : Members}
    {group : Grouping}
    (keyed : LevelKeyed scope group)
    {near far : Nat × Members}
    (bucket : BucketAt scope group.label near.1 near.2)
    (sibling : BucketAt scope group.label far.1 far.2)
    (apart : near.1 ≠ far.1) :
    groupKey near.2 group = groupKey far.2 group ↔
      Blurs near.2 far.2 group := by
  have differ := keyed.differ _ _ _ _ bucket sibling apart
  cases group with
  | byField field label => exact fieldKey_eq_iff differ
  | byTime field label granularity =>
      obtain ⟨millis, dated⟩ := keyed.dated _ _ _ rfl _ _ bucket
      obtain ⟨other, also⟩ := keyed.dated _ _ _ rfl _ _ sibling
      rw [dated.groupKey_eq_iff also differ]
      constructor
      · intro alike
        exact ⟨millis, other, dated.key, also.key, alike⟩
      · rintro ⟨millis', other', key, otherKey, alike⟩
        obtain rfl := Option.some.inj (dated.key.symm.trans key)
        obtain rfl := Option.some.inj (also.key.symm.trans otherKey)
        exact alike

/-! ## Rows -/

/-- Two rows come from ways that part: they agree in the columns of all levels
above, and in the column of the level show what it shows of the two buckets. -/
structure Query.RowsPart
    (query : Query)
    (scope : Members)
    (row other : Row)
    (above : List (Nat × Members))
    (group : Grouping)
    (near far : Nat × Members) :
    Prop where
  part : PartAt scope query.groups above group near far
  alike :
    ∀ (level : Nat) higher,
      level < above.length → query.groups[level]? = some higher →
        row.get? higher.label = other.get? higher.label
  column : row.get? group.label = some (groupKey near.2 group)
  otherColumn : other.get? group.label = some (groupKey far.2 group)

theorem Query.IsRowAt.rowsPart
    {query : Query}
    {scope : Members}
    {row other : Row}
    {above below below' : List (Nat × Members)}
    {group : Grouping}
    {near far : Nat × Members}
    (first : query.IsRowAt (above ++ near :: below) row)
    (second : query.IsRowAt (above ++ far :: below') other)
    (part : PartAt scope query.groups above group near far) :
    query.RowsPart scope row other above group near far where
  part := part
  alike := by
    intro level higher inside here
    have entered (last : List (Nat × Members)) :
        (above ++ last)[level]? = some above[level] := by
      rw [List.getElem?_append_left inside, List.getElem?_eq_getElem inside]
    rw [first.groups level higher _ here (entered _),
      second.groups level higher _ here (entered _)]
  column := by
    apply first.groups above.length group near part.here
    rw [List.getElem?_append_right le_rfl, Nat.sub_self,
      List.getElem?_cons_zero]
  otherColumn := by
    apply second.groups above.length group far part.here
    rw [List.getElem?_append_right le_rfl, Nat.sub_self,
      List.getElem?_cons_zero]

/--
If the keys in every array of buckets on the way down are different, and those
of a level on a date are the beginnings of its units, then any two rows of a
grouped answer part at a level of which they have different columns, unless the
column blurs the two keys.
-/
theorem rows_part_unless_blurred
    {query : Query}
    (checked : query.check = .ok ())
    (grouped : query.groups ≠ [])
    {response : SearchResponse}
    (keyed :
      ∀ group above,
        query.groups[above.length]? = some group →
          PathAt response.aggregations (query.groups.take above.length) above →
            LevelKeyed (endOf response.aggregations above) group) :
    (flattenResponse query response).Pairwise fun row other =>
      ∃ above group near far,
        query.RowsPart response.aggregations row other above group near far ∧
          (row.get? group.label = other.get? group.label ↔
            Blurs near.2 far.2 group) := by
  have accepted := Query.check_eq_ok_iff.1 checked
  rw [flattenResponse_eq_map accepted grouped, List.pairwise_map]
  have ordered := pairwise_pathsFrom response.aggregations query.groups
  refine ordered.imp_of_mem fun {earlier later} first second before => ?_
  have reached := mem_pathsFrom.1 first
  have reached' := mem_pathsFrom.1 second
  have row :=
    query.isRowAt_leafRow accepted grouped reached.length_eq
      response.aggregations
  have other :=
    query.isRowAt_leafRow accepted grouped reached'.length_eq
      response.aggregations
  rcases exists_partAt reached reached' before with
    ⟨above, group, near, far, below, below', rfl, rfl, part⟩
  have rows := row.rowsPart other part
  have levelKeyed := keyed group above part.here part.reached
  refine ⟨above, group, near, far, rows, ?_⟩
  rw [rows.column, rows.otherColumn, Option.some.injEq]
  exact levelKeyed.groupKey_eq_iff part.bucket part.sibling part.before.ne

/-! ## Two Januaries -/

/-- A query with one level on dates. -/
def datesBy (granularity : Granularity) : Query :=
  { Query.ofTable "db" "t" with groups := [.byTime "ts" "unit" granularity] }

/-- A bucket with an instant for its key, and a text. -/
def dateMembers
    (millis : UInt64)
    (text : String) :
    Members :=
  [("key", .ofWord millis), ("key_as_string", .string text),
    ("doc_count", .ofWord 1)]

/-- Buckets that begin with the years 2023 and 2024, under some texts. -/
def twoJanuaries (former latter : String) : SearchResponse :=
  { took := 0
    timedOut := false
    scrollId := none
    total := 2
    hits := []
    aggregations :=
      [("unit",
        .object
          [("buckets",
            .array
              [.object (dateMembers 1672531200000 former),
                .object (dateMembers 1704067200000 latter)])])] }

section Januaries

variable {granularity : Granularity} {former latter : String}
  (first :
    DateBucket granularity (dateMembers 1672531200000 former) 1672531200000)
  (second :
    DateBucket granularity (dateMembers 1704067200000 latter) 1704067200000)

include first second

theorem levelKeyed_twoJanuaries :
    LevelKeyed (twoJanuaries former latter).aggregations
      (.byTime "ts" "unit" granularity) := by
  have placed :
      placedBuckets (twoJanuaries former latter).aggregations "unit" =
        [(0, dateMembers 1672531200000 former),
          (1, dateMembers 1704067200000 latter)] :=
    rfl
  have buckets {place : Nat} {bucket : Members}
      (entered :
        BucketAt (twoJanuaries former latter).aggregations "unit" place
          bucket) :
      place = 0 ∧ bucket = dateMembers 1672531200000 former ∨
        place = 1 ∧ bucket = dateMembers 1704067200000 latter := by
    simpa [placed] using mem_placedBuckets.2 entered
  constructor
  · intro place other bucket sibling entered also apart
    rcases buckets entered with ⟨rfl, rfl⟩ | ⟨rfl, rfl⟩ <;>
      rcases buckets also with ⟨rfl, rfl⟩ | ⟨rfl, rfl⟩
    · contradiction
    · intro same
      exact absurd (ofWord_inj.1 same) (by decide)
    · intro same
      exact absurd (ofWord_inj.1 same) (by decide)
    · contradiction
  · rintro _ _ _ ⟨⟩ place bucket entered
    rcases buckets entered with ⟨rfl, rfl⟩ | ⟨rfl, rfl⟩
    · exact ⟨_, first⟩
    · exact ⟨_, second⟩

theorem keyed_twoJanuaries :
    ∀ group above,
      (datesBy granularity).groups[above.length]? = some group →
        PathAt (twoJanuaries former latter).aggregations
            ((datesBy granularity).groups.take above.length) above →
          LevelKeyed (endOf (twoJanuaries former latter).aggregations above)
            group := by
  intro group above here _
  have single : above.length < 1 := (List.getElem?_eq_some_iff.1 here).1
  obtain rfl : above = [] := List.length_eq_zero_iff.1 (by omega)
  obtain rfl := Option.some.inj here
  exact levelKeyed_twoJanuaries first second

theorem entries_twoJanuaries :
    (flattenResponse (datesBy granularity) (twoJanuaries former latter)).map
        Row.entries =
      [[("unit", intValue (granularity.ofMillis 1672531200000))],
        [("unit", intValue (granularity.ofMillis 1704067200000))]] := by
  rw [← first.groupKey_eq "ts" "unit", ← second.groupKey_eq "ts" "unit"]
  rfl

end Januaries

/-- Shown by the year the two buckets have different columns. -/
theorem rows_part_twoJanuaries :
    (datesBy .year).check = .ok () ∧ (datesBy .year).groups ≠ [] ∧
      (flattenResponse (datesBy .year) (twoJanuaries "2023" "2024")).map
          Row.entries =
          [[("unit", intValue 2023)], [("unit", intValue 2024)]] ∧
        (flattenResponse (datesBy .year) (twoJanuaries "2023" "2024")).Pairwise
          fun row other =>
          row.get? "unit" ≠ other.get? "unit" := by
  have checked : (datesBy .year).check = .ok () := rfl
  have grouped : (datesBy .year).groups ≠ [] := List.cons_ne_nil _ _
  have first :
      DateBucket .year (dateMembers 1672531200000 "2023") 1672531200000 :=
    { key := by decide +kernel
      begins :=
        { whole := rfl
          finer := fun finer => by cases finer <;> decide }
      text :=
        ⟨"2023", rfl, [], [], 0, rfl, List.forall_mem_nil _,
          List.forall_mem_nil _⟩ }
  have second :
      DateBucket .year (dateMembers 1704067200000 "2024") 1704067200000 :=
    { key := by decide +kernel
      begins :=
        { whole := rfl
          finer := fun finer => by cases finer <;> decide }
      text :=
        ⟨"2024", rfl, [], [], 0, rfl, List.forall_mem_nil _,
          List.forall_mem_nil _⟩ }
  have parts :=
    rows_part_unless_blurred checked grouped (keyed_twoJanuaries first second)
  refine ⟨checked, grouped, entries_twoJanuaries first second, parts.imp ?_⟩
  rintro row other ⟨above, group, near, far, rows, alike⟩ same
  obtain rfl : group = .byTime "ts" "unit" .year :=
    List.mem_singleton.1 (List.mem_of_getElem? rows.part.here)
  -- Nothing is coarser than a year.
  rcases alike.1 same with ⟨_, _, _, _, _, coarser, higher, _⟩
  cases coarser <;> exact absurd higher (by decide)

/-- Shown by the month they have the same. -/
theorem januaries_agree :
    (datesBy .month).check = .ok () ∧ (datesBy .month).groups ≠ [] ∧
      (∀ group above,
        (datesBy .month).groups[above.length]? = some group →
          PathAt (twoJanuaries "1" "1").aggregations
              ((datesBy .month).groups.take above.length) above →
            LevelKeyed
              (endOf (twoJanuaries "1" "1").aggregations above) group) ∧
        (flattenResponse (datesBy .month) (twoJanuaries "1" "1")).map
            Row.entries =
          [[("unit", intValue 1)], [("unit", intValue 1)]] := by
  have first :
      DateBucket .month (dateMembers 1672531200000 "1") 1672531200000 :=
    { key := by decide +kernel
      begins :=
        { whole := rfl
          finer := fun finer => by cases finer <;> decide }
      text :=
        ⟨"1", rfl, [], [], 0, rfl, List.forall_mem_nil _,
          List.forall_mem_nil _⟩ }
  have second :
      DateBucket .month (dateMembers 1704067200000 "1") 1704067200000 :=
    { key := by decide +kernel
      begins :=
        { whole := rfl
          finer := fun finer => by cases finer <;> decide }
      text :=
        ⟨"1", rfl, [], [], 0, rfl, List.forall_mem_nil _,
          List.forall_mem_nil _⟩ }
  exact ⟨rfl, List.cons_ne_nil _ _, keyed_twoJanuaries first second,
    entries_twoJanuaries first second⟩

end TabularSearch
