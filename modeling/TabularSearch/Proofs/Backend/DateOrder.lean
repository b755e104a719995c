import TabularSearch.Proofs.Backend.OwnKey
import TabularSearch.Proofs.Binary64.Whole
import TabularSearch.Proofs.Response.Combinations
import TabularSearch.Proofs.Rows.Order

/-!
# Dates sorted by their label

The rows of a query with one level on a date show a component, and sorted by the
level's label they should come in the order of what they show.  With rows left
out in front they do: they are sorted here by the numbers in the column.  On the
first page the backend sorts them by the instants at which the buckets begin.  A
component only grows with time until a coarser one changes, so the two orders
are the same for years and for dates that agree in everything coarser; otherwise
the first page shows a later instant with a smaller component behind an earlier
one with a greater component.
-/

namespace TabularSearch

open TabularSearch.Json

/-! ## Rows in the order of a column -/

/-- The whole number under a column. -/
def Row.whole?
    (row : Row)
    (column : String) :
    Option Int :=
  (row.get? column).bind Value.asSigned?

/-- Every row has a whole number under a column, and these
numbers are in order. -/
structure InOrder
    (direction : Direction)
    (column : String)
    (rows : List Row) :
    Prop where
  whole : ∀ row ∈ rows, ∃ value, row.whole? column = some value
  order :
    rows.Pairwise fun former latter =>
      ∀ value other,
        former.whole? column = some value → latter.whole? column = some other →
          direction.keepsWhole value other

theorem InOrder.sublist
    {direction : Direction}
    {column : String}
    {rows shown : List Row}
    (ordered : InOrder direction column rows)
    (kept : shown.Sublist rows) :
    InOrder direction column shown where
  whole row member := ordered.whole row (kept.subset member)
  order := ordered.order.sublist kept

theorem pageRows_sublist (query : Query) (rows : List Row) :
    (pageRows query rows).Sublist rows := by
  unfold pageRows
  cases query.rowLimit with
  | none => exact List.drop_sublist _ _
  | some limit => exact (List.take_sublist _ _).trans (List.drop_sublist _ _)

theorem pairwise_of_forall₂
    {Left Right : Type}
    {related : Left → Right → Prop}
    {lefts : List Left}
    {rights : List Right}
    (pairs : List.Forall₂ related lefts rights)
    {keeps : Right → Right → Prop}
    (order : rights.Pairwise keeps) :
    lefts.Pairwise fun former latter =>
      ∃ first second, related former first ∧ related latter second ∧
        keeps first second := by
  rw [List.forall₂_iff_get] at pairs
  rcases pairs with ⟨aligned, related⟩
  rw [List.pairwise_iff_get] at order ⊢
  intro former latter before
  have formerWithin : former < rights.length := aligned ▸ former.isLt
  have latterWithin : latter < rights.length := aligned ▸ latter.isLt
  exact ⟨_, _, related former former.isLt formerWithin,
    related latter latter.isLt latterWithin,
    order ⟨former, formerWithin⟩ ⟨latter, latterWithin⟩ before⟩

theorem exists_of_mem_of_forall₂
    {Left Right : Type}
    {related : Left → Right → Prop}
    {lefts : List Left}
    {rights : List Right}
    (pairs : List.Forall₂ related lefts rights)
    {left : Left}
    (member : left ∈ lefts) :
    ∃ right ∈ rights, related left right := by
  induction pairs with
  | nil => cases member
  | cons pair _ step =>
      rcases List.mem_cons.1 member with rfl | later
      · exact ⟨_, List.mem_cons_self, pair⟩
      · rcases step later with ⟨right, within, found⟩
        exact ⟨right, List.mem_cons_of_mem _ within, found⟩

/-- Cells with whole numbers of at most 53 bits are sorted as these numbers. -/
theorem keepsWhole_of_compareCells
    {direction : Direction}
    {former latter : Value}
    {first second : Int}
    (shown : former.asSigned? = some first)
    (shownToo : latter.asSigned? = some second)
    (small : first.natAbs < 0x20000000000000)
    (smallToo : second.natAbs < 0x20000000000000)
    (before :
      (compareCells direction (some former) (some latter)).isLE = true) :
    direction.keepsWhole first second := by
  rcases asSigned?_eq_some_iff.1 shown with ⟨bounded, rfl, -⟩
  rcases asSigned?_eq_some_iff.1 shownToo with ⟨boundedToo, rfl, -⟩
  rw [compareCells_eq_compareLast] at before
  cases direction with
  | ascending =>
      have order : (compare first second).isLE = true := by
        rw [← compare_whole bounded boundedToo small smallToo]
        exact before
      rwa [Int.isLE_compare] at order
  | descending =>
      have order : (compare second first).isLE = true := by
        rw [← compare_whole boundedToo bounded smallToo small]
        exact before
      rwa [Int.isLE_compare] at order

theorem pairwise_of_length_le_one
    {Item : Type}
    {related : Item → Item → Prop}
    {items : List Item}
    (few : items.length ≤ 1) :
    items.Pairwise related := by
  match items with
  | [] => exact List.Pairwise.nil
  | [item] => exact List.pairwise_singleton _ _

theorem length_pageRows_of_one
    {query : Query}
    (one : query.rowLimit = some 1)
    (rows : List Row) :
    (pageRows query rows).length ≤ 1 := by
  rw [pageRows, one]
  exact List.length_take_le 1 _

/-- Only a limit to one row keeps the second of two rows off the first page. -/
theorem pageRows_pair
    {query : Query}
    (first : query.rowOffset = none)
    (several : query.rowLimit ≠ some 1)
    (front back : Row) :
    pageRows query [front, back] = [front, back] := by
  rw [pageRows, first, Option.getD_none, UInt64.toNat_zero, List.drop_zero]
  cases asked : query.rowLimit with
  | none => rfl
  | some limit =>
      rw [asked, ne_eq, Option.some.injEq, ← UInt64.toNat_inj] at several
      rw [Query.rowLimit, Option.filter_eq_some_iff, decide_eq_true_iff, ne_eq,
        ← UInt64.toNat_inj] at asked
      have both : 2 ≤ limit.toNat := by
        have one : limit.toNat ≠ 1 := several
        have some : limit.toNat ≠ 0 := asked.2
        omega
      exact List.take_of_length_le both

/-- The result of a level with some buckets. -/
def levelOf
    (label : String)
    (buckets : List Members) :
    Members :=
  [(label, .object [("buckets", .array (buckets.map .object))])]

theorem bucketsOf_levelOf
    (label : String)
    (buckets : List Members) :
    bucketsOf (levelOf label buckets) label = buckets := by
  simp [bucketsOf, levelOf, itemAt?, Value.get?, Value.asArray?,
    List.filterMap_map, Function.comp_def, Value.asObject?]

/-! ## The dates in an answer -/

/-- The buckets of a level on a date, one for each of some instants, in the
order of the instants if the request asks for an order by key. -/
structure ListsDates
    (request : SearchRequest)
    (label : String)
    (granularity : Granularity)
    (response : SearchResponse)
    (instants : List Int) :
    Prop where
  shown :
    List.Forall₂ (ShowsInstant granularity)
      (bucketsOf response.aggregations label) instants
  distinct : instants.Nodup
  asked :
    ∀ name field direction inner,
      Aggregation.node name
          (.dates field granularity (.byKey direction)) inner ∈
          request.aggregations →
        instants.Pairwise direction.keepsWhole

/-- The label of the only level stands for its own column. -/
theorem resolveKeys_label
    {query : Query}
    {group : Grouping}
    (single : query.groups = [group])
    {direction : Direction}
    (sorted : query.sort = [{ key := group.label, direction }])
    (rows : List Row) :
    resolveKeys query rows = query.sort := by
  have own :
      (query.groupLabelFor? group.label).getD group.label = group.label := by
    rw [Query.groupLabelFor?, single, List.reverse_singleton,
      List.find?_singleton]
    split <;> rfl
  rw [resolveKeys, sorted, List.map_singleton, resolveKey, own, ite_self]

/-- The instants agree in everything coarser than a granularity. -/
def Granularity.AgreeAbove
    (granularity : Granularity)
    (instants : List Int) :
    Prop :=
  ∀ former ∈ instants, ∀ latter ∈ instants, ∀ coarser : Granularity,
    granularity.rank < coarser.rank →
      coarser.ofMillis former = coarser.ofMillis latter

/-- Nothing is coarser than a year. -/
theorem Granularity.agreeAbove_year (instants : List Int) :
    Granularity.year.AgreeAbove instants := by
  intro former _ latter _ coarser higher
  cases coarser <;> exact absurd higher (by decide)

/-- The rows show the components of the first of some instants, one after the
other, and these instants are in order. -/
def InTime
    (direction : Direction)
    (label : String)
    (granularity : Granularity)
    (instants : List Int)
    (rows : List Row) :
    Prop :=
  ∃ shown : List Int,
    shown <+: instants ∧ shown.Pairwise direction.keepsWhole ∧
      List.Forall₂
        (fun row millis =>
          row.whole? label = some (granularity.ofMillis millis))
        rows shown

section Rows

variable {query : Query} {field label : String} {granularity : Granularity}
  (accepted : query.Accepted)
  (single : query.groups = [.byTime field label granularity])

/-- The row of a bucket of the only level. -/
def Query.onlyRow
    (query : Query)
    (group : Grouping)
    (bucket : Members) :
    Row :=
  leafRow query [{ key := groupKey bucket group, count := bucketCount bucket }]
    bucket

include accepted single

theorem flattenResponse_eq_map_onlyRow (response : SearchResponse) :
    flattenResponse query response =
      (bucketsOf response.aggregations label).map
        (query.onlyRow (.byTime field label granularity)) := by
  have grouped : query.groups ≠ [] := by
    rw [single]
    exact List.cons_ne_nil _ _
  rw [accepted.flattenResponse_eq_flattenLevels grouped, single, flattenLevels]
  exact List.map_eq_flatMap.symm

/-- The column of the level holds the component of the instant of its bucket. -/
theorem whole?_onlyRow
    {bucket : Members}
    {millis : Int}
    (shows : ShowsInstant granularity bucket millis) :
    (query.onlyRow (.byTime field label granularity) bucket).whole? label =
      some (granularity.ofMillis millis) := by
  have aligned :
      [{ key := groupKey bucket (.byTime field label granularity),
         count := bucketCount bucket : Step }].length =
           query.groups.length := by
    rw [single]
    rfl
  have grouped : query.groups[0]? = some (.byTime field label granularity) := by
    rw [single]
    rfl
  have cell := get?_leafRow_group accepted aligned bucket grouped rfl
  change (query.onlyRow (.byTime field label granularity) bucket).get? label =
    some _ at cell
  rw [Row.whole?, cell, Option.bind_some, shows.groupKey_eq]
  exact asSigned?_intValue (granularity.ofMillis_fits shows.fits)

variable {request : SearchRequest} {response : SearchResponse}
  {instants : List Int}
  (lists : ListsDates request label granularity response instants)

include lists

/-- The rows show the components of the instants one after the other. -/
theorem forall₂_whole?_flattenResponse :
    List.Forall₂
      (fun row millis => row.whole? label = some (granularity.ofMillis millis))
      (flattenResponse query response) instants := by
  rw [flattenResponse_eq_map_onlyRow accepted single, List.forall₂_map_left_iff]
  apply lists.shown.imp
  intro bucket millis shows
  exact whole?_onlyRow accepted single shows

theorem exists_instant_of_mem
    {row : Row}
    (member : row ∈ flattenResponse query response) :
    ∃ millis,
      (-0x8000000000000000 ≤ millis ∧ millis < 0x8000000000000000) ∧
        row.whole? label = some (granularity.ofMillis millis) := by
  have cells := forall₂_whole?_flattenResponse accepted single lists
  rcases exists_of_mem_of_forall₂ cells member with ⟨millis, listed, shown⟩
  rcases exists_of_mem_of_forall₂ lists.shown.flip listed with
    ⟨bucket, -, shows⟩
  exact ⟨millis, shows.fits, shown⟩

/-- Where the instants agree in everything coarser, the rows are
in order as they come. -/
theorem inOrder_of_instants
    {direction : Direction}
    (order : instants.Pairwise direction.keepsWhole)
    (agree : granularity.AgreeAbove instants) :
    InOrder direction label (flattenResponse query response) := by
  constructor
  · intro row member
    rcases exists_instant_of_mem accepted single lists member with
      ⟨millis, -, shown⟩
    exact ⟨_, shown⟩
  · have components : instants.Pairwise fun former latter =>
        direction.keepsWhole (granularity.ofMillis former)
          (granularity.ofMillis latter) := by
      apply order.imp_of_mem
      intro former latter first second keeps
      cases direction with
      | ascending =>
          exact Granularity.ofMillis_mono keeps
            (agree former first latter second)
      | descending =>
          exact Granularity.ofMillis_mono keeps
            (agree latter second former first)
    have cells := forall₂_whole?_flattenResponse accepted single lists
    apply (pairwise_of_forall₂ cells components).imp
    rintro former latter ⟨_, _, first, second, keeps⟩ value other shown shownToo
    rw [first, Option.some.injEq] at shown
    rw [second, Option.some.injEq] at shownToo
    rwa [← shown, ← shownToo]

/-- Sorted here, the rows are in the order of what they show. -/
theorem inOrder_sortRows
    {direction : Direction}
    (sorted : query.sort = [{ key := label, direction }]) :
    InOrder direction label
      (sortRows query (flattenResponse query response)) := by
  have same := sortRows_perm query (flattenResponse query response)
  have instant {row : Row}
      (member : row ∈ sortRows query (flattenResponse query response)) :=
    exists_instant_of_mem accepted single lists (same.mem_iff.1 member)
  constructor
  · intro row member
    rcases instant member with ⟨millis, -, shown⟩
    exact ⟨_, shown⟩
  · have order := pairwise_sortRows query (flattenResponse query response)
    rw [resolveKeys_label single sorted, sorted] at order
    apply order.imp_of_mem
    intro former latter first second before value other shown shownToo
    have small {row : Row} {value : Int}
        (member : row ∈ sortRows query (flattenResponse query response))
        (shown : row.whole? label = some value) :
        value.natAbs < 0x20000000000000 := by
      rcases instant member with ⟨millis, fits, component⟩
      rw [component, Option.some.injEq] at shown
      rw [← shown]
      exact granularity.natAbs_ofMillis_lt fits
    rcases Option.bind_eq_some_iff.1 shown with ⟨cell, here, whole⟩
    rcases Option.bind_eq_some_iff.1 shownToo with ⟨otherCell, there, wholeToo⟩
    rw [compareRows, compareRows, Ordering.then_eq, here, there] at before
    exact keepsWhole_of_compareCells whole wholeToo (small first shown)
      (small second shownToo) before

end Rows

/-! ## The two ways to the rows -/

section Ways

variable {query : Query} {request : SearchRequest} {field label : String}
  {granularity : Granularity} {direction : Direction}
  (compiled : SearchRequest.ofChecked query = .ok request)
  (single : query.groups = [.byTime field label granularity])
  (sorted : query.sort = [{ key := label, direction }])

include single sorted

theorem sortTarget_label : SortTarget.ofQuery query = .ownKey direction := by
  rw [SortTarget.ofQuery, sorted, single]
  exact if_pos (Or.inl rfl)

include compiled

/-- Without rows left out in front the backend is asked for the
order of the instants. -/
theorem exists_aggregations_byKey (first : query.rowOffset = none) :
    ∃ inner,
      request.aggregations =
        [.node label (.dates field granularity (.byKey direction)) inner] := by
  have grouped : query.groups ≠ [] := by
    rw [single]
    exact List.cons_ne_nil _ _
  rcases SearchRequest.ofChecked_grouped compiled grouped with ⟨-, -, asked, -⟩
  have delivery := delivery_ownKey single (sortTarget_label single sorted) first
  have levels : query.plan.aggregations =
      nestLevels query.plan.delivery
        (query.measuredFields.map Aggregation.statistics) query.groups :=
    rfl
  rw [asked, levels, single, delivery]
  exact ⟨_, rfl⟩

/-- The rows are sorted here exactly if some are left out in front. -/
theorem rowsOf_dates
    {backend : Backend}
    {response : SearchResponse}
    (answer : backend.search request = .ok response) :
    backend.rowsOf query =
      .ok
        (pageRows query
          (if query.rowOffset = none then flattenResponse query response
          else sortRows query (flattenResponse query response))) := by
  have grouped : query.groups ≠ [] := by
    rw [single]
    exact List.cons_ne_nil _ _
  rcases SearchRequest.ofChecked_grouped compiled grouped with
    ⟨-, -, -, finish, -⟩
  have keyed : query.sort.isEmpty = false := by rw [sorted, List.isEmpty_cons]
  rw [Backend.rowsOf_eq_finishRows compiled answer, finish, finishRows, keyed]
  cases first : query.rowOffset with
  | none =>
      rw [delivery_ownKey single (sortTarget_label single sorted) first]
      rfl
  | some offset =>
      have here : query.plan.delivery.sortsRows = true := by
        rw [Query.plan, Delivery.ofQuery, sortTarget_label single sorted,
          single, first]
        rfl
      rw [here]
      rfl

theorem ListsDates.order_of_first
    {response : SearchResponse}
    {instants : List Int}
    (lists : ListsDates request label granularity response instants)
    (first : query.rowOffset = none) :
    instants.Pairwise direction.keepsWhole := by
  rcases exists_aggregations_byKey compiled single sorted first with
    ⟨inner, asked⟩
  apply lists.asked label field direction inner
  rw [asked]
  exact List.mem_singleton_self _

section Answer

variable {backend : Backend} {response : SearchResponse} {instants : List Int}
  {rows : List Row} (answer : backend.search request = .ok response)
  (lists : ListsDates request label granularity response instants)
  (returned : backend.rowsOf query = .ok rows)

include answer lists returned

/-- The rows are in the order of the label on a later page, where the instants
agree in everything coarser, and where there is one. -/
theorem inOrder_of_rowsOf
    (holds :
      query.rowOffset ≠ none ∨ granularity.AgreeAbove instants ∨
        query.rowLimit = some 1) :
    InOrder direction label rows := by
  have accepted := (SearchRequest.ofChecked_eq_ok_iff.1 compiled).1
  rw [rowsOf_dates compiled single sorted answer, Except.ok.injEq] at returned
  rw [← returned]
  by_cases first : query.rowOffset = none
  · rw [if_pos first]
    rcases holds with later | agree | one
    · exact absurd first later
    · have order := lists.order_of_first compiled single sorted first
      exact (inOrder_of_instants accepted single lists order agree).sublist
        (pageRows_sublist query _)
    · constructor
      · intro row member
        have kept := (pageRows_sublist query _).subset member
        rcases exists_instant_of_mem accepted single lists kept with
          ⟨millis, -, shown⟩
        exact ⟨_, shown⟩
      · apply pairwise_of_length_le_one
        exact length_pageRows_of_one one _
  · rw [if_neg first]
    exact (inOrder_sortRows accepted single lists sorted).sublist
      (pageRows_sublist query _)

/-- On the first page the rows show the first of the instants. -/
theorem inTime_of_rowsOf (first : query.rowOffset = none) :
    InTime direction label granularity instants rows := by
  have accepted := (SearchRequest.ofChecked_eq_ok_iff.1 compiled).1
  have cells := forall₂_whole?_flattenResponse accepted single lists
  have order := lists.order_of_first compiled single sorted first
  rw [rowsOf_dates compiled single sorted answer, if_pos first, Except.ok.injEq,
    pageRows, first, Option.getD_none, UInt64.toNat_zero, List.drop_zero]
    at returned
  rw [← returned]
  cases query.rowLimit with
  | none => exact ⟨instants, List.prefix_rfl, order, cells⟩
  | some limit =>
      have shown := List.take_prefix limit.toNat instants
      exact ⟨_, shown, order.sublist shown.sublist,
        List.forall₂_take limit.toNat cells⟩

end Answer

section Pair

variable {front back : Members} {former latter : Int}
  (shows : ShowsInstant granularity front former)
  (showsToo : ShowsInstant granularity back latter)
  (first : query.rowOffset = none)

include shows showsToo first

/-- An answer with two buckets in the order that is asked for. -/
theorem listsDates_pair
    (order : direction.keepsWhole former latter)
    (apart : former ≠ latter) :
    ListsDates request label granularity
      (.ofAggregations (levelOf label [front, back])) [former, latter] := by
  constructor
  · rw [SearchResponse.ofAggregations, bucketsOf_levelOf]
    exact .cons shows (.cons showsToo .nil)
  · rw [List.nodup_cons, List.mem_singleton]
    exact ⟨apart, List.nodup_singleton latter⟩
  · intro name other way children member
    rcases exists_aggregations_byKey compiled single sorted first with
      ⟨inner, asked⟩
    rw [asked, List.mem_singleton] at member
    cases member
    exact List.pairwise_pair.2 order

/-- The rows of two buckets of which the second one shows a component
that belongs in front. -/
theorem not_inOrder_pair
    (several : query.rowLimit ≠ some 1)
    (falls :
      ¬ direction.keepsWhole (granularity.ofMillis former)
        (granularity.ofMillis latter))
    {rows : List Row}
    (returned :
      (Backend.answering (levelOf label [front, back])).rowsOf query =
        .ok rows) :
    ¬ InOrder direction label rows := by
  have accepted := (SearchRequest.ofChecked_eq_ok_iff.1 compiled).1
  rw [rowsOf_dates compiled single sorted rfl, if_pos first, Except.ok.injEq,
    flattenResponse_eq_map_onlyRow accepted single,
    SearchResponse.ofAggregations, bucketsOf_levelOf, List.map_cons,
    List.map_singleton, pageRows_pair first several] at returned
  rw [← returned]
  intro ordered
  exact falls
    (List.pairwise_pair.1 ordered.order _ _
      (whole?_onlyRow accepted single shows)
      (whole?_onlyRow accepted single showsToo))

end Pair

end Ways

/-! ## Components that fall back -/

theorem showsInstant_dateMembers
    {granularity : Granularity}
    (millis : UInt64)
    (text : String)
    (small : millis.toNat < 0x8000000000000000)
    (digits :
      text.toList = Text.spelling 0 (granularity.ofMillis millis.toNat)) :
    ShowsInstant granularity (dateMembers millis text) millis.toNat := by
  constructor
  · rw [asSigned?_eq_some_iff]
    exact ⟨_, rfl, by omega⟩
  · refine ⟨text, rfl, [], [], 0, ?_, List.forall_mem_nil _,
      List.forall_mem_nil _⟩
    rw [List.nil_append, List.append_nil, digits]

/-- Every component but the year falls back when a coarser one moves on. -/
theorem exists_fall
    {granularity : Granularity}
    (shorter : granularity ≠ .year) :
    ∃ earlier later former latter,
      ShowsInstant granularity earlier former ∧
        ShowsInstant granularity later latter ∧
        former < latter ∧
          granularity.ofMillis latter < granularity.ofMillis former := by
  cases granularity with
  | second =>
      exact ⟨_, _, _, _, showsInstant_dateMembers 59000 "59" (by decide) rfl,
        showsInstant_dateMembers 60000 "0" (by decide) rfl, by decide,
        by decide⟩
  | minute =>
      exact ⟨_, _, _, _, showsInstant_dateMembers 3540000 "59" (by decide) rfl,
        showsInstant_dateMembers 3600000 "0" (by decide) rfl, by decide,
        by decide⟩
  | hour =>
      exact ⟨_, _, _, _, showsInstant_dateMembers 82800000 "23" (by decide) rfl,
        showsInstant_dateMembers 86400000 "0" (by decide) rfl, by decide,
        by decide⟩
  | day =>
      exact ⟨_, _, _, _,
        showsInstant_dateMembers 2592000000 "31" (by decide) rfl,
        showsInstant_dateMembers 2678400000 "1" (by decide) rfl, by decide,
        by decide⟩
  | month =>
      exact ⟨_, _, _, _,
        showsInstant_dateMembers 28857600000 "12" (by decide) rfl,
        showsInstant_dateMembers 31536000000 "1" (by decide) rfl, by decide,
        by decide⟩
  | year => exact absurd rfl shorter

/-! ## The order of the label -/

/--
A query with one level on a date, sorted by the level's label, has its rows in
the order of the label for every answer with different instants exactly if rows
are left out in front, or the level is by years, or one row is all that is
wanted.  On the first page the rows are in the order of their instants, and in
that of the label wherever the instants agree in everything coarser.
-/
theorem date_rows_inOrder_iff
    {query : Query}
    {request : SearchRequest}
    {field label : String}
    {granularity : Granularity}
    {direction : Direction}
    (compiled : SearchRequest.ofChecked query = .ok request)
    (single : query.groups = [.byTime field label granularity])
    (sorted : query.sort = [{ key := label, direction }]) :
    ((∀ backend response instants,
        Backend.search backend request = .ok response →
          ListsDates request label granularity response instants →
            ∃ rows, backend.rowsOf query = .ok rows ∧
              InOrder direction label rows) ↔
      query.rowOffset ≠ none ∨ granularity = .year ∨ query.rowLimit = some 1) ∧
      ∀ backend response instants,
        Backend.search backend request = .ok response →
          ListsDates request label granularity response instants →
            ∃ rows,
              backend.rowsOf query = .ok rows ∧
                (query.rowOffset = none →
                  InTime direction label granularity instants rows) ∧
                  (granularity.AgreeAbove instants →
                    InOrder direction label rows) := by
  refine ⟨⟨?_, ?_⟩, ?_⟩
  · intro ordered
    by_contra fails
    simp only [not_or, not_not] at fails
    rcases fails with ⟨first, shorter, several⟩
    -- An answer with two buckets has rows in order, so the
    -- second one cannot fall back.
    have keeps {front back : Members} {former latter : Int}
        (shows : ShowsInstant granularity front former)
        (showsToo : ShowsInstant granularity back latter)
        (order : direction.keepsWhole former latter)
        (apart : former ≠ latter) :
        direction.keepsWhole (granularity.ofMillis former)
          (granularity.ofMillis latter) := by
      by_contra falls
      have lists :=
        listsDates_pair compiled single sorted shows showsToo first order apart
      rcases ordered (.answering (levelOf label [front, back])) _ _ rfl lists
        with ⟨rows, returned, inOrder⟩
      exact not_inOrder_pair compiled single sorted shows showsToo first several
        falls returned inOrder
    rcases exists_fall shorter with
      ⟨earlier, later, former, latter, shows, showsToo, before, falls⟩
    cases direction with
    | ascending =>
        exact absurd (keeps shows showsToo before.le before.ne)
          (Int.not_le.2 falls)
    | descending =>
        exact absurd (keeps showsToo shows before.le before.ne')
          (Int.not_le.2 falls)
  · intro holds backend response instants answer lists
    have returned := rowsOf_dates compiled single sorted answer
    refine ⟨_, returned,
      inOrder_of_rowsOf compiled single sorted answer lists returned ?_⟩
    rcases holds with later | rfl | one
    · exact Or.inl later
    · exact Or.inr (Or.inl (Granularity.agreeAbove_year instants))
    · exact Or.inr (Or.inr one)
  · intro backend response instants answer lists
    have returned := rowsOf_dates compiled single sorted answer
    refine ⟨_, returned,
      inTime_of_rowsOf compiled single sorted answer lists returned, ?_⟩
    intro agree
    exact inOrder_of_rowsOf compiled single sorted answer lists returned
      (Or.inr (Or.inl agree))

/-! ## The turn of a year -/

/-- Dates by a component, sorted by it. -/
def datesSorted (granularity : Granularity) : Query :=
  { datesBy granularity with
      sort := [{ key := "unit", direction := .ascending }] }

/-- January and February 2023. -/
def twoMonths : Members :=
  levelOf "unit" [dateMembers 1672531200000 "1", dateMembers 1675209600000 "2"]

/-- December 2022 and January 2023. -/
def turnOfYear : Members :=
  levelOf "unit" [dateMembers 1669852800000 "12", dateMembers 1672531200000 "1"]

/-- The months of one year come in the order of their numbers. -/
theorem months_of_one_year_inOrder :
    ∃ request,
      SearchRequest.ofChecked (datesSorted .month) = .ok request ∧
        ∃ rows,
          (Backend.answering twoMonths).rowsOf (datesSorted .month) = .ok rows ∧
            InTime .ascending "unit" .month
                [1672531200000, 1675209600000] rows ∧
              InOrder .ascending "unit" rows := by
  obtain ⟨request, compiled⟩ :
      ∃ request, SearchRequest.ofChecked (datesSorted .month) = .ok request :=
    ⟨_, rfl⟩
  have january :
      ShowsInstant .month (dateMembers 1672531200000 "1") 1672531200000 :=
    showsInstant_dateMembers 1672531200000 "1" (by decide) rfl
  have february :
      ShowsInstant .month (dateMembers 1675209600000 "2") 1675209600000 :=
    showsInstant_dateMembers 1675209600000 "2" (by decide) rfl
  have lists :=
    listsDates_pair compiled rfl rfl january february rfl (by decide)
      (by decide)
  rcases (date_rows_inOrder_iff compiled rfl rfl).2 (.answering twoMonths) _ _
    rfl lists with ⟨rows, returned, inTime, inOrder⟩
  refine ⟨request, compiled, rows, returned, inTime rfl, inOrder ?_⟩
  have year :
      ∀ millis ∈ [1672531200000, 1675209600000],
        Granularity.year.ofMillis millis = 2023 := by
    decide
  intro former first latter second coarser higher
  cases coarser with
  | year => rw [year former first, year latter second]
  | _ => exact absurd higher (by decide)

/-- December of a year comes in front of January of the next one, in
the order of instants. -/
theorem december_before_january :
    ∃ request,
      SearchRequest.ofChecked (datesSorted .month) = .ok request ∧
        ListsDates request "unit" .month (.ofAggregations turnOfYear)
            [1669852800000, 1672531200000] ∧
          ∃ rows,
            (Backend.answering turnOfYear).rowsOf (datesSorted .month) =
                .ok rows ∧
              ¬ InOrder .ascending "unit" rows := by
  obtain ⟨request, compiled⟩ :
      ∃ request, SearchRequest.ofChecked (datesSorted .month) = .ok request :=
    ⟨_, rfl⟩
  have december :
      ShowsInstant .month (dateMembers 1669852800000 "12") 1669852800000 :=
    showsInstant_dateMembers 1669852800000 "12" (by decide) rfl
  have january :
      ShowsInstant .month (dateMembers 1672531200000 "1") 1672531200000 :=
    showsInstant_dateMembers 1672531200000 "1" (by decide) rfl
  refine ⟨request, compiled, ?_, ?_⟩
  · exact listsDates_pair compiled rfl rfl december january rfl (by decide)
      (by decide)
  · have returned :=
      rowsOf_dates compiled rfl rfl
        (Backend.search_answering turnOfYear request)
    refine ⟨_, returned, ?_⟩
    exact not_inOrder_pair compiled rfl rfl december january rfl nofun
      (by decide) returned

end TabularSearch
