import TabularSearch.Proofs.Backend.Pages
import TabularSearch.Proofs.Backend.Plain
import TabularSearch.Proofs.Request.Sent

/-!
# Windows below the ceiling

A window starts where the offset says and covers the positions that are asked
for and lie below the ceiling.  As long as the offset does not lie beyond the
ceiling, the window ends there at the latest; an offset beyond it is sent as
it is, with a size of zero.  No request asks for more buckets of a level than
the ceiling, and pages of documents, one after the other, make up the
documents below the ceiling.
-/

namespace TabularSearch

open TabularSearch.Json

namespace Window

/-! ## Positions -/

/-- A position is one of those that the window asks for. -/
def Covers
    (window : Window)
    (position : Nat) :
    Prop :=
  window.start.toNat ≤ position ∧
    position < window.start.toNat + window.size.toNat

/-- The items at the positions of a window. -/
def slice
    {Item : Type}
    (window : Window)
    (items : List Item) :
    List Item :=
  (items.drop window.start.toNat).take window.size.toNat

/-- What a window asks for, by the limit and the offset it was made of. -/
structure Asks (window : Window) (limit offset : Option UInt64) : Prop where
  start : window.start = offset.getD 0
  /-- The end is no larger than a word. -/
  fits :
    (window.start + window.size).toNat = window.start.toNat + window.size.toNat
  covers :
    ∀ position,
      window.Covers position ↔
        (offset.getD 0).toNat ≤ position ∧ position < answerCeiling.toNat ∧
          ∀ count,
            limit = some count → 0 < count →
              position < (offset.getD 0).toNat + count.toNat
  ends :
    window.start.toNat + window.size.toNat ≤ answerCeiling.toNat ↔
      (offset.getD 0).toNat ≤ answerCeiling.toNat
  cursor :
    window.scroll? = if answerCeiling < limit.getD 0 then some scrollKeepAlive
      else none

theorem toNat_room (start : UInt64) :
    (room start).toNat = answerCeiling.toNat - start.toNat := by
  unfold room
  split
  · rename_i below
    exact UInt64.toNat_sub_of_le _ _ (UInt64.le_of_lt below)
  · rename_i beyond
    have least := UInt64.le_iff_toNat_le.1 (UInt64.not_lt.1 beyond)
    rw [UInt64.toNat_zero]
    omega

theorem start_ofRange (limit offset : Option UInt64) :
    (ofRange limit offset).start = offset.getD 0 := by
  unfold ofRange
  dsimp only
  split
  · rfl
  · split <;> rfl

/-- A limit above the ceiling makes the window no larger than
what the ceiling leaves. -/
theorem toNat_size_ofRange
    {limit : Option UInt64}
    {count : UInt64}
    (counted : limit.filter (· ≠ 0) = some count)
    (offset : Option UInt64) :
    (ofRange limit offset).size.toNat =
      min count.toNat (answerCeiling.toNat - (offset.getD 0).toNat) := by
  unfold ofRange
  rw [counted]
  simp only
  split
  · rw [← toNat_room]
    simp only [UInt64.toNat_min]
  · rename_i above
    have more := UInt64.lt_iff_toNat_lt.1 (UInt64.not_le.1 above)
    rw [toNat_room]
    omega

theorem toNat_size_ofRange_of_none
    {limit : Option UInt64}
    (unlimited : limit.filter (· ≠ 0) = none)
    (offset : Option UInt64) :
    (ofRange limit offset).size.toNat =
      answerCeiling.toNat - (offset.getD 0).toNat := by
  rw [ofRange, unlimited, ← toNat_room]

/-- The size is what the ceiling leaves, or less if less is asked for. -/
theorem lt_size_ofRange_iff
    (limit offset : Option UInt64)
    (place : Nat) :
    place < (ofRange limit offset).size.toNat ↔
      place < answerCeiling.toNat - (offset.getD 0).toNat ∧
        ∀ count, limit = some count → 0 < count → place < count.toNat := by
  cases counted : limit.filter (· ≠ 0) with
  | none =>
      have unlimited : ∀ count, limit = some count → ¬ 0 < count := by
        rintro count rfl
        simpa [UInt64.pos_iff_ne_zero] using counted
      rw [toNat_size_ofRange_of_none counted]
      exact ⟨fun less =>
        ⟨less, fun count same more => absurd more (unlimited count same)⟩,
        And.left⟩
  | some count =>
      obtain ⟨rfl, positive⟩ := Option.filter_eq_some_iff.1 counted
      have more : 0 < count := by simpa [UInt64.pos_iff_ne_zero] using positive
      rw [toNat_size_ofRange counted, Nat.lt_min, and_comm]
      simp [more]

/-- The size itself is no place of the window, so it is at most
what the ceiling leaves. -/
theorem toNat_size_ofRange_le (limit offset : Option UInt64) :
    (ofRange limit offset).size.toNat ≤
      answerCeiling.toNat - (offset.getD 0).toNat := by
  by_contra more
  have place := (lt_size_ofRange_iff limit offset _).1 (Nat.not_le.1 more)
  exact absurd place.1 (Nat.lt_irrefl _)

theorem covers_ofRange_iff
    (limit offset : Option UInt64)
    (position : Nat) :
    (ofRange limit offset).Covers position ↔
      (offset.getD 0).toNat ≤ position ∧ position < answerCeiling.toNat ∧
        ∀ count,
          limit = some count → 0 < count →
            position < (offset.getD 0).toNat + count.toNat := by
  have size :=
    lt_size_ofRange_iff limit offset (position - (offset.getD 0).toNat)
  rw [Covers, start_ofRange]
  constructor
  · rintro ⟨least, less⟩
    obtain ⟨below, counted⟩ := size.1 (by omega)
    refine ⟨least, by omega, fun count limited positive => ?_⟩
    have place := counted count limited positive
    omega
  · rintro ⟨least, below, counted⟩
    have places : ∀ count,
        limit = some count → 0 < count →
          position - (offset.getD 0).toNat < count.toNat := by
      intro count limited positive
      have further := counted count limited positive
      omega
    have less := size.2 ⟨by omega, places⟩
    exact ⟨least, by omega⟩

theorem ofRange_asks (limit offset : Option UInt64) :
    (ofRange limit offset).Asks limit offset := by
  have start := start_ofRange limit offset
  have size := toNat_size_ofRange_le limit offset
  have bounded := (offset.getD 0).toNat_lt
  have ceiling : answerCeiling.toNat = 10000 := rfl
  constructor
  · exact start
  · rw [UInt64.toNat_add, start, Nat.mod_eq_of_lt]
    omega
  · exact covers_ofRange_iff limit offset
  · rw [start]
    omega
  · exact scroll?_ofRange limit offset

end Window

/-! ## Requests -/

/-- What a request asks for is within its window, and no level has more
buckets than the ceiling. -/
structure SearchRequest.Asks
    (request : SearchRequest)
    (query : Query) :
    Prop where
  window : request.window.Asks query.limit query.offset
  start : request.body.get? "from" = some (.ofWord request.window.start)
  size : request.body.get? "size" = some (.ofWord request.window.size)
  buckets :
    ∀ depth siblings node,
      ScopeAt request.aggregations depth siblings →
        node ∈ siblings →
          ∀ field cap order,
            node.kind = .terms field cap order → cap ≤ answerCeiling

theorem Delivery.cap_le (query : Query) :
    (ofQuery query).cap ≤ answerCeiling := by
  have capped : cappedLimit query.rowLimit ≤ answerCeiling :=
    UInt64.le_iff_toNat_le.2 (toNat_cappedLimit_le query.rowLimit)
  unfold ofQuery decide
  split
  · exact UInt64.le_refl _
  · exact capped
  · exact capped
  · exact UInt64.le_refl _

/-- The aggregations of a plan are the levels of the query around statistics. -/
theorem Plan.aggregations_of_ofQuery
    {query : Query}
    {plan : Plan}
    (planned : Plan.ofQuery query = .ok plan) :
    ∃ fields : List String,
      plan.aggregations =
        nestLevels (Delivery.ofQuery query) (fields.map Aggregation.statistics)
          query.groups := by
  unfold ofQuery at planned
  split at planned
  · cases planned
  · cases planned
    exact ⟨_, rfl⟩

theorem cap_le_of_nestLevels
    {delivery : Delivery}
    (capped : delivery.cap ≤ answerCeiling)
    {fields : List String}
    {groups : List Grouping}
    {depth : Nat}
    {siblings : List Aggregation}
    (reached :
      ScopeAt (nestLevels delivery (fields.map Aggregation.statistics) groups)
        depth siblings)
    {node : Aggregation}
    (member : node ∈ siblings)
    {field : String}
    {cap : UInt64}
    {order : BucketOrder}
    (kind : node.kind = .terms field cap order) :
    cap ≤ answerCeiling := by
  have leaves :
      ∀ node ∈ fields.map Aggregation.statistics, node.children = [] := by
    intro node member
    rcases List.mem_map.1 member with ⟨field, -, rfl⟩
    rfl
  rcases reached.eq_nestLevels leaves with rfl | ⟨-, rfl⟩
  · cases member
  · cases remaining : groups.drop depth with
    | nil =>
        rw [remaining, nestLevels] at member
        rcases List.mem_map.1 member with ⟨_, -, rfl⟩
        cases kind
    | cons group rest =>
        rw [remaining, nestLevels, List.mem_singleton] at member
        subst member
        cases group with
        | byField on label =>
            cases kind
            exact capped
        | byTime on label granularity => cases kind

/-- All buckets that an answer may hold, the fullest first. -/
def Delivery.whole : Delivery :=
  { order := .fullestFirst, cap := answerCeiling, sortsRows := false }

/-- Distinct values are asked for as one level with nothing inside. -/
theorem nestLevels_whole (field : String) :
    nestLevels .whole (([] : List String).map Aggregation.statistics)
        [.byField field distinctName] =
      [.node distinctName (.terms field answerCeiling .fullestFirst) []] :=
  rfl

theorem SearchRequest.asks_of_ofQuery
    {query : Query}
    {request : SearchRequest}
    (sent : SearchRequest.ofQuery query = .ok request) :
    request.Asks query := by
  have shown := request.shownBy_body
  obtain ⟨-, -, window⟩ := target_of_ofQuery sent
  refine ⟨window ▸ Window.ofRange_asks _ _, shown.start, shown.size, ?_⟩
  intro depth siblings node reached member field cap order kind
  unfold ofQuery at sent
  split at sent
  · split at sent
    · cases sent
    · rename_i on _ _
      rcases map_eq_ok_iff.1 sent with ⟨filter, -, rfl⟩
      rw [← nestLevels_whole on] at reached
      exact cap_le_of_nestLevels (UInt64.le_refl _) reached member kind
  · split at sent
    · cases sent
    · rename_i plan planned
      rcases map_eq_ok_iff.1 sent with ⟨filter, -, rfl⟩
      obtain ⟨fields, nested⟩ := Plan.aggregations_of_ofQuery planned
      exact cap_le_of_nestLevels (Delivery.cap_le query) (nested ▸ reached)
        member kind

/-! ## Pages of documents -/

/-- A backend answers the requests for a query's documents, with any
limit and offset, with those at the window's positions, unless the window
ends beyond the ceiling. -/
def Backend.ServesDocuments
    (backend : Backend)
    (query : Query)
    (hits : List Hit) :
    Prop :=
  ∀ limit offset request,
    SearchRequest.ofChecked (query.within limit offset) = .ok request →
      request.window.start.toNat + request.window.size.toNat ≤
          answerCeiling.toNat →
        ∃ response,
          backend.search request = .ok response ∧
            response.hits = request.window.slice hits

/-- Pages of a size, one after the other, make up the rows of the documents
below the ceiling, each of them once. -/
def Query.PagesTile
    (query : Query)
    (backend : Backend)
    (hits : List Hit)
    (size : UInt64) :
    Prop :=
  ∃ page : Nat → List Row,
    (∀ number,
      number * size.toNat ≤ answerCeiling.toNat →
        backend.rowsOf
            (query.within (some size) (some (.ofNat (number * size.toNat)))) =
          .ok (page number)) ∧
      ∀ count,
        (List.range count).flatMap page =
          (hits.take (min (count * size.toNat) answerCeiling.toNat)).map
            Hit.toRow

/-- The window of a page has the page's part of what lies below the ceiling. -/
theorem Window.slice_page
    {Item : Type}
    (items : List Item)
    {size : UInt64}
    (positive : 0 < size)
    {number : Nat}
    (below : number * size.toNat ≤ answerCeiling.toNat) :
    (ofRange (some size) (some (.ofNat (number * size.toNat)))).slice items =
      sliceOf (items.take answerCeiling.toNat) size.toNat number := by
  have fits : number * size.toNat < 0x10000000000000000 :=
    Nat.lt_of_le_of_lt below (by decide)
  have start :
      (UInt64.ofNat (number * size.toNat)).toNat = number * size.toNat := by
    rw [UInt64.toNat_ofNat', Nat.mod_eq_of_lt fits]
  have counted : (some size).filter (· ≠ 0) = some size := by
    simpa [UInt64.pos_iff_ne_zero] using positive
  rw [slice, toNat_size_ofRange counted, start_ofRange, Option.getD_some, start,
    sliceOf, List.drop_take, List.take_take]

theorem Query.ForDocuments.within
    {query : Query}
    (asked : query.ForDocuments)
    (limit offset : Option UInt64) :
    (query.within limit offset).ForDocuments where
  passed := Query.check_eq_ok_iff.2 (asked.accepted.within limit offset)
  aggregates := asked.aggregates
  groups := asked.groups
  distinct := asked.distinct

theorem Query.ForDocuments.pagesTile
    {query : Query}
    (asked : query.ForDocuments)
    {filter : Filter}
    (compiled : Filter.ofQuery query.condition [] = .ok filter)
    {backend : Backend}
    {hits : List Hit}
    (serves : backend.ServesDocuments query hits)
    {size : UInt64}
    (positive : 0 < size) :
    query.PagesTile backend hits size := by
  refine ⟨fun number =>
    (sliceOf (hits.take answerCeiling.toNat) size.toNat number).map Hit.toRow,
    ?_, ?_⟩
  · intro number below
    let paged := query.within (some size) (some (.ofNat (number * size.toNat)))
    have pagedAsked : paged.ForDocuments := asked.within _ _
    have sent :
        SearchRequest.ofChecked paged = .ok (.forDocuments paged filter) := by
      rw [pagedAsked.ofChecked_eq]
      exact map_eq_ok_iff.2 ⟨filter, compiled, rfl⟩
    have fits : number * size.toNat < 0x10000000000000000 :=
      Nat.lt_of_le_of_lt below (by decide)
    have start : (paged.offset.getD 0).toNat ≤ answerCeiling.toNat := by
      simpa [paged, Query.within, Nat.mod_eq_of_lt fits] using below
    have ends := (Window.ofRange_asks paged.limit paged.offset).ends.2 start
    obtain ⟨response, answer, found⟩ := serves _ _ _ sent ends
    rw [Backend.rowsOf, pagedAsked.execute_eq compiled answer]
    simp only [Except.map, pagedAsked.rows_ofResponse, found]
    rw [← Window.slice_page hits positive below]
    rfl
  · intro count
    rw [← List.map_flatMap, flatMap_sliceOf, List.take_take]

/--
The window of a limit and an offset starts at the offset and covers the
positions below the ceiling that are asked for, without leaving 64 bits; it ends
below the ceiling unless the offset lies beyond, and opens a cursor only for a
limit above the ceiling.  This is the window of the request for any query with
them, be it for documents, groups or distinct values, and no level has more
buckets than the ceiling.  The pages of a query for documents make up the
documents below the ceiling.
-/
theorem windows_below_ceiling
    (query : Query)
    (limit offset : Option UInt64) :
    (Window.ofRange limit offset).Asks limit offset ∧
      (∀ request,
        SearchRequest.ofQuery (query.within limit offset) = .ok request →
          request.Asks (query.within limit offset)) ∧
        ∀ (filter : Filter) (backend : Backend) (hits : List Hit)
            (size : UInt64),
          query.ForDocuments →
            Filter.ofQuery query.condition [] = .ok filter →
              backend.ServesDocuments query hits →
                0 < size → query.PagesTile backend hits size :=
  ⟨Window.ofRange_asks limit offset, fun _ => SearchRequest.asks_of_ofQuery,
    fun _ _ _ _ asked compiled serves positive =>
      asked.pagesTile compiled serves positive⟩

/-- A backend with documents, which refuses a window that ends
beyond the ceiling. -/
def Backend.shelf (hits : List Hit) : Backend :=
  { endpoint := "static"
    ping := .ok ()
    search := fun request =>
      if request.window.start.toNat + request.window.size.toNat ≤
        answerCeiling.toNat then
        .ok
          { took := 0, timedOut := false, scrollId := none,
            total := .ofNat hits.length
            hits := request.window.slice hits, aggregations := [] }
      else .error (.refused 400 "result window is too large") }

/-- Three documents with nothing in them. -/
def threeHits : List Hit :=
  [{ id := "1", source := [] }, { id := "2", source := [] },
    { id := "3", source := [] }]

/-- A window just below the ceiling is cut there, also for groups, and two pages
of two documents hold three documents. -/
theorem windows_below_ceiling_threeHits :
    (Window.ofRange (some 12) (some 9995)).size = 5 ∧
      (¬ (Window.ofRange (some 12) (some 9995)).Covers 10000) ∧
        (∃ request,
          SearchRequest.ofQuery (hosts.within (some 12) (some 9995)) =
              .ok request ∧
            request.Asks (hosts.within (some 12) (some 9995))) ∧
          ∃ page : Nat → List Row,
            (Backend.shelf threeHits).rowsOf
                ((Query.ofTable "db" "t").within (some 2) (some 2)) =
              .ok (page 1) ∧
              page 0 ++ page 1 = threeHits.map Hit.toRow := by
  rcases windows_below_ceiling hosts (some 12) (some 9995) with
    ⟨window, requests, -⟩
  rcases windows_below_ceiling (.ofTable "db" "t") none none with ⟨-, -, pages⟩
  have serves :
      (Backend.shelf threeHits).ServesDocuments (.ofTable "db" "t")
        threeHits := by
    intro limit offset request _ below
    exact ⟨_, if_pos below, rfl⟩
  have asked : (Query.ofTable "db" "t").ForDocuments := ⟨rfl, rfl, rfl, rfl⟩
  refine ⟨rfl, ?_, ⟨_, rfl, requests _ rfl⟩, ?_⟩
  · rw [window.covers]
    rintro ⟨-, below, -⟩
    exact absurd below (by decide)
  · rcases pages .everything _ threeHits 2 asked rfl serves (by decide) with
      ⟨page, run, tile⟩
    have both : (List.range 2).flatMap page = threeHits.map Hit.toRow := tile 2
    rw [List.range_succ, List.range_succ] at both
    exact ⟨page, run 1 (by decide), by simpa using both⟩

/-- An offset beyond the ceiling is sent as it is, also for groups,
whose rows are cut here. -/
theorem offset_beyond_ceiling_is_sent :
    (Window.ofRange (some 12) (some 20000)).start = 20000 ∧
      (Window.ofRange (some 12) (some 20000)).size = 0 ∧
        (¬ ∀ limit offset,
          (Window.ofRange limit offset).start.toNat +
              (Window.ofRange limit offset).size.toNat ≤
            answerCeiling.toNat) ∧
          ∃ request,
            SearchRequest.ofQuery { hosts with offset := some 20000 } =
                .ok request ∧
              request.body.get? "from" = some (.ofWord 20000) := by
  refine ⟨rfl, rfl, fun always => ?_, ⟨_, rfl, rfl⟩⟩
  exact absurd (always (some 12) (some 20000)) (by decide)

end TabularSearch
