import Mathlib.Data.Nat.Find
import TabularSearch.Proofs.Backend.Served

/-!
# Pages of groups

A backend cuts the buckets of a level on a field to the number that is asked
for, and never those of a level on a date.  How many buckets are asked for
depends on the page: the first page of a single level asks for no more than it
shows, every other page for all that an answer may hold.  Pages of a query that
is not sorted are nevertheless slices of one list of rows, the one of the query
without limit and offset, and page after page they make it up.
-/

namespace TabularSearch

/-- A query with another limit and offset. -/
def Query.within
    (query : Query)
    (limit offset : Option UInt64) :
    Query :=
  { query with limit, offset }

section Within

variable {query : Query} (limit offset : Option UInt64)

theorem Query.Accepted.within (accepted : query.Accepted) :
    (query.within limit offset).Accepted :=
  { database := accepted.database
    table := accepted.table
    fields := accepted.fields
    distinct := accepted.distinct
    condition := accepted.condition
    groups := accepted.groups
    aggregates := accepted.aggregates
    labels := accepted.labels
    sort := accepted.sort }

/-- Whether a query has a request does not depend on its limit and offset. -/
theorem SearchRequest.exists_ofChecked_within
    {request : SearchRequest}
    (compiled : SearchRequest.ofChecked query = .ok request)
    (grouped : query.groups ≠ []) :
    ∃ other, SearchRequest.ofChecked (query.within limit offset) =
      .ok other := by
  rcases SearchRequest.ofChecked_grouped compiled grouped with
    ⟨accepted, undistinct, -, -, filter, found⟩
  exact SearchRequest.exists_ofChecked (accepted.within limit offset) undistinct
    found

/-- Without a sort the order is always the same, and only the first page of a
single level asks for less than all. -/
theorem delivery_within (unsorted : query.sort = []) :
    Delivery.ofQuery (query.within limit offset) =
      { order := .fullestFirst
        cap :=
          if query.groups.length = 1 ∧
            (query.within limit offset).rowOffset = none then
            cappedLimit (query.within limit offset).rowLimit
          else answerCeiling
        sortsRows := false } := by
  have target : SortTarget.ofQuery (query.within limit offset) = .unsorted := by
    rw [SortTarget.ofQuery, Query.within, unsorted]
  have levels :
      (query.within limit offset).groups.length = query.groups.length := rfl
  rw [Delivery.ofQuery, target, levels]
  cases (query.within limit offset).rowOffset with
  | none =>
      match query.groups.length with
      | 0 => rfl
      | 1 => rfl
      | more + 2 => simp [Delivery.decide]
  | some start =>
      match query.groups.length with
      | 0 => rfl
      | 1 => rfl
      | more + 2 => simp [Delivery.decide]

theorem servedRows_within
    (listing : Listing)
    (top : Bucket)
    (delivery : Delivery) :
    (query.within limit offset).servedRows listing top delivery =
      query.servedRows listing top delivery :=
  rfl

end Within

theorem pageRows_servedRows
    {query : Query}
    (unsorted : query.sort = [])
    (arrange : BucketOrder → List Bucket → List Bucket)
    (top : Bucket)
    (limit offset : Option UInt64) :
    pageRows (query.within limit offset)
        (query.servedRows (.cut arrange) top
          (Delivery.ofQuery (query.within limit offset))) =
      pageRows (query.within limit offset)
        (query.servedRows (.cut arrange) top
          (Delivery.ofQuery (query.within none none))) := by
  have whole : Delivery.ofQuery (query.within none none) =
      { order := .fullestFirst, cap := answerCeiling, sortsRows := false } := by
    rw [delivery_within none none unsorted]
    congr 1
    exact ite_id _
  rw [whole, delivery_within limit offset unsorted]
  by_cases first :
      query.groups.length = 1 ∧ (query.within limit offset).rowOffset = none
  · rw [if_pos first]
    obtain ⟨group, single⟩ := List.length_eq_one_iff.1 first.1
    rw [Query.servedRows_single single, Query.servedRows_single single]
    cases group with
    | byField field label =>
        simp only [Grouping.kind, Listing.cut, List.map_take]
        -- The first page asks for a part of what the other pages ask for.
        have least := toNat_cappedLimit_le (query.within limit offset).rowLimit
        rw [← Nat.min_eq_left least, ← List.take_take]
        exact pageRows_take_cappedLimit first.2 (List.length_take_le _ _)
    | byTime field label granularity => rfl
  · rw [if_neg first]

/-! ## Slices one after the other -/

section Slices

variable {Item : Type} {items : List Item} {size : Nat}

/-- The items of a page of a size. -/
def sliceOf
    (items : List Item)
    (size number : Nat) :
    List Item :=
  (items.drop (number * size)).take size

theorem flatMap_sliceOf (count : Nat) :
    (List.range count).flatMap (sliceOf items size) =
      items.take (count * size) := by
  induction count with
  | zero => rw [List.range_zero, Nat.zero_mul, List.take_zero, List.flatMap_nil]
  | succ count step =>
      rw [List.range_succ, List.flatMap_append, step, List.flatMap_singleton,
        sliceOf, ← List.take_add, Nat.succ_mul]

theorem sliceOf_eq_nil_iff
    (positive : 0 < size)
    {number : Nat} :
    sliceOf items size number = [] ↔ items.length ≤ number * size := by
  rw [sliceOf, List.take_eq_nil_iff, List.drop_eq_nil_iff]
  constructor
  · rintro (none | beyond)
    · omega
    · exact beyond
  · exact Or.inr

theorem flatMap_sliceOf_of_eq_nil
    (positive : 0 < size)
    {count : Nat}
    (ended : sliceOf items size count = []) :
    (List.range count).flatMap (sliceOf items size) = items := by
  rw [flatMap_sliceOf]
  exact List.take_of_length_le ((sliceOf_eq_nil_iff positive).1 ended)

/-- The first empty slice starts no further than twice the longer of
the list and a slice. -/
theorem exists_first_sliceOf_eq_nil
    (positive : 0 < size) :
    ∃ count,
      sliceOf items size count = [] ∧
        (∀ number < count, sliceOf items size number ≠ []) ∧
        (count * size ≤ size ∨ count * size < 2 * items.length) := by
  have ends : ∃ count, sliceOf items size count = [] :=
    ⟨items.length,
      (sliceOf_eq_nil_iff positive).2 (Nat.le_mul_of_pos_right _ positive)⟩
  classical
  refine ⟨Nat.find ends, Nat.find_spec ends,
    fun number before => Nat.find_min ends before, ?_⟩
  cases last : Nat.find ends with
  | zero => exact Or.inl (by omega)
  | succ count =>
      have inhabited : sliceOf items size count ≠ [] :=
        Nat.find_min ends (by omega)
      rw [ne_eq, sliceOf_eq_nil_iff positive, Nat.not_le] at inhabited
      cases count with
      | zero => exact Or.inl (by omega)
      | succ count =>
          refine Or.inr ?_
          have most : size ≤ (count + 1) * size :=
            Nat.le_mul_of_pos_left size (by omega)
          rw [Nat.succ_mul (count + 1)]
          omega

end Slices

theorem pageRows_within_none
    (query : Query)
    (rows : List Row) :
    pageRows (query.within none none) rows = rows := by
  simp [pageRows, Query.within, Query.rowOffset, Query.rowLimit]

theorem pageRows_within_some
    (query : Query)
    (rows : List Row)
    {size : UInt64}
    (positive : 0 < size)
    {number : Nat}
    (fits : number * size.toNat < 0x10000000000000000) :
    pageRows
        (query.within (some size) (some (.ofNat (number * size.toNat)))) rows =
      sliceOf rows size.toNat number := by
  have limit :
      (query.within (some size)
        (some (.ofNat (number * size.toNat)))).rowLimit =
      some size := by
    have nonzero : size ≠ 0 := fun zero => by
      rw [zero] at positive
      exact absurd positive (by decide)
    simp [Query.rowLimit, Query.within, nonzero]
  have start :
      ((query.within (some size)
        (some (.ofNat (number * size.toNat)))).rowOffset.getD 0).toNat =
        number * size.toNat := by
    rw [Query.rowOffset, Query.within, Option.filter_some]
    split
    · rw [Option.getD_some, UInt64.toNat_ofNat', Nat.mod_eq_of_lt fits]
    · rename_i zero
      have none : UInt64.ofNat (number * size.toNat) = 0 := by simpa using zero
      rw [Option.getD_none, ← none, UInt64.toNat_ofNat', Nat.mod_eq_of_lt fits]
  simp only [pageRows, limit, start, sliceOf]

/--
A query with groups and without a sort, run on a backend that cuts its buckets:
the pages of a size, one after the other up to the first empty one, make up the
rows of the query without limit and offset.  There is an empty page within the
offsets of 64 bits if the rows are fewer than half of these.
-/
theorem pages_tile
    {query : Query}
    {request : SearchRequest}
    (compiled : SearchRequest.ofChecked query = .ok request)
    (grouped : query.groups ≠ [])
    (unsorted : query.sort = [])
    {backend : Backend}
    {arrange : BucketOrder → List Bucket → List Bucket}
    {top : Bucket}
    (serves : backend.Serves (.cut arrange) top)
    {size : UInt64}
    (positive : 0 < size) :
    ∃ (rows : List Row) (page : Nat → List Row),
      backend.rowsOf (query.within none none) = .ok rows ∧
        (∀ number, number * size.toNat < 0x10000000000000000 →
          backend.rowsOf
              (query.within (some size) (some (.ofNat (number * size.toNat)))) =
            .ok (page number)) ∧
          (∀ count, page count = [] → (List.range count).flatMap page = rows) ∧
            (rows.length < 0x8000000000000000 →
              ∃ count,
                count * size.toNat < 0x10000000000000000 ∧ page count = [] ∧
                  ∀ number < count, page number ≠ []) := by
  rcases SearchRequest.ofChecked_grouped compiled grouped with ⟨accepted, -⟩
  let rows :=
    query.servedRows (.cut arrange) top
      (Delivery.ofQuery (query.within none none))
  have run (limit offset : Option UInt64) :
      backend.rowsOf (query.within limit offset) =
        .ok (pageRows (query.within limit offset) rows) := by
    obtain ⟨other, sent⟩ :=
      SearchRequest.exists_ofChecked_within limit offset compiled grouped
    have unsortedRows :
        (query.within limit offset).plan.delivery.sortsRows = false := by
      rw [Query.plan, delivery_within limit offset unsorted]
    rw [serves.rowsOf_eq_ok sent grouped, unsortedRows, servedRows_within,
      finishRows]
    exact congrArg _ (pageRows_servedRows unsorted arrange top limit offset)
  have width : 0 < size.toNat := UInt64.lt_iff_toNat_lt.1 positive
  refine ⟨rows, sliceOf rows size.toNat, ?_, ?_, ?_, ?_⟩
  · rw [run, pageRows_within_none]
  · intro number fits
    rw [run, pageRows_within_some query rows positive fits]
  · intro count ended
    exact flatMap_sliceOf_of_eq_nil width ended
  · intro few
    obtain ⟨count, ended, before, start⟩ := exists_first_sliceOf_eq_nil width
    refine ⟨count, ?_, ended, before⟩
    have bounded := size.toNat_lt
    rcases start with short | long
    · omega
    · omega

/-- A query with one level on hosts. -/
def hosts : Query :=
  { Query.ofTable "db" "t" with groups := [.byField "host" "host"] }

/-- Two hosts with three documents. -/
def twoHosts : Bucket :=
  .ofText "" 3 [.ofText "a" 2 [], .ofText "b" 1 []]

/-- On pages of one host the third one is empty, and the first
two show both hosts. -/
theorem pages_tile_hosts :
    hosts.groups ≠ [] ∧ hosts.sort = [] ∧ (0 : UInt64) < 1 ∧
      ∃ (request : SearchRequest) (rows : List Row) (page : Nat → List Row),
        SearchRequest.ofChecked hosts = .ok request ∧
          rows.map Row.entries =
              [[("host", .string "a")], [("host", .string "b")]] ∧
            page 2 = [] ∧ page 0 ++ page 1 = rows := by
  have grouped : hosts.groups ≠ [] := List.cons_ne_nil _ _
  have positive : (0 : UInt64) < 1 := by decide
  have serves := Backend.serves_serving (.cut fun _ found => found) twoHosts
  obtain ⟨request, compiled⟩ :
      ∃ request, SearchRequest.ofChecked hosts = .ok request :=
    ⟨_, rfl⟩
  rcases pages_tile compiled grouped rfl serves positive with
    ⟨rows, page, all, pages, tile, -⟩
  have both :
      rows.map Row.entries =
        [[("host", .string "a")], [("host", .string "b")]] := by
    rw [← Except.ok.inj all]
    rfl
  have ended : page 2 = [] := (Except.ok.inj (pages 2 (by decide))).symm
  have tiled := tile 2 ended
  rw [List.range_succ, List.range_succ] at tiled
  exact ⟨grouped, rfl, positive, request, rows, page, compiled, both, ended,
    by simpa using tiled⟩

end TabularSearch
