import TabularSearch.Proofs.Request.Planned
import TabularSearch.Proofs.Url.Search

/-!
# Where requests are sent

A request is sent to the address of its backend, with its names behind the path
of that address.  The path that is written is split at its slashes and decoded
again: the names are found in their places exactly if all of them are plain, as
long as the backend's own path is not made of two slashes, of which the first
would be lost.  Plain names can therefore be told from the text of the address.
-/

namespace TabularSearch

namespace Url

/-! ## Paths of addresses -/

/-- The parts of a path without an empty one at the end. -/
def withoutTrailingEmpty (parts : List (List Char)) : List (List Char) :=
  if parts.getLast? = some [] then parts.dropLast else parts

theorem withoutTrailingEmpty_eq
    {path : List String}
    (apart : path ≠ ["", ""]) :
    withoutTrailingEmpty (path.map String.toList) =
      (entered (withoutEmptyEnd path)).map String.toList := by
  by_cases ends : path.getLast? = some ""
  · obtain ⟨front, rfl⟩ := List.getLast?_eq_some_iff.1 ends
    have whole : entered (withoutEmptyEnd (front ++ [""])) = front := by
      cases front with
      | nil => rfl
      | cons first rest =>
          rw [withoutEmptyEnd, if_pos ⟨by simp, ends⟩, List.dropLast_concat]
          refine if_neg fun lone => apart ?_
          rw [lone]
          rfl
    rw [whole, List.map_append, withoutTrailingEmpty, if_pos (by simp),
      List.map_singleton, List.dropLast_concat]
  · have kept : (path.map String.toList).getLast? ≠ some [] := by
      rw [List.getLast?_map]
      intro empty
      obtain ⟨last, found, blank⟩ := Option.map_eq_some_iff.1 empty
      rw [String.toList_eq_nil_iff] at blank
      exact ends (blank ▸ found)
    rw [withoutTrailingEmpty, if_neg kept, withoutEmptyEnd,
      if_neg fun both => ends both.2, entered, if_neg]
    rintro rfl
    exact ends rfl

theorem text_eq_slashes_iff
    {path : List String}
    (apart : ∀ segment ∈ path, IsSegment segment) :
    (Path.segments path).text = "//" ↔ path = ["", ""] := by
  constructor
  · intro slashes
    have empty : ∀ segment ∈ ["", ""], IsSegment segment := by
      simp [IsSegment.empty]
    exact segments_eq_of_text_eq apart empty slashes
  · rintro rfl
    rfl

/-! ## Queries of addresses -/

/-- The pairs of a query as they are written. -/
def queryPairs (query : Option String) : List (List Char) :=
  (splitAt '&' (query.getD "").toList).filter (· ≠ [])

theorem queryPairs_addToQuery
    (query : Option String)
    (name value : String) :
    queryPairs (some (addToQuery query name value)) =
      queryPairs query ++ queryPairs (some (name ++ "=" ++ value)) := by
  rw [addToQuery.eq_def]
  split
  · rfl
  · rfl
  · next query _ =>
    have parts : (query ++ "&" ++ name ++ "=" ++ value).toList =
        query.toList ++ '&' :: (name ++ "=" ++ value).toList := by
      simp [String.toList_append]
    rw [queryPairs, Option.getD_some, parts, splitAt_append, List.filter_append]
    rfl

/-! ## Texts of addresses -/

/-- The path and the query of an address as they are written. -/
def searchText (url : Url) : List Char :=
  url.path.text.toList ++ (markedText "?" url.query).toList

/-- A path without question marks is told from the query behind it. -/
theorem path_text_eq_of_searchText_eq
    {url other : Url}
    (apart : '?' ∉ url.path.text.toList)
    (apart' : '?' ∉ other.path.text.toList)
    (same : url.searchText = other.searchText) :
    url.path.text = other.path.text := by
  have path {url : Url} (apart : '?' ∉ url.path.text.toList) :
      (splitAt '?' url.searchText).head? = some url.path.text.toList := by
    cases query : url.query with
    | none =>
        rw [searchText, query, markedText, String.toList_empty, List.append_nil,
          splitAt_of_not_mem apart, List.head?_cons]
    | some query' =>
        rw [searchText, query, markedText, String.toList_append]
        exact congrArg List.head?
          ((splitAt_append _ _).trans
            (congrArg (· ++ _) (splitAt_of_not_mem apart)))
  have texts := path apart
  rw [same, path apart'] at texts
  exact String.toList_injective (Option.some.inj texts).symm

/-- The same place is asked, with further pairs in the query. -/
structure SamePlace
    (base target : Url)
    (added : List (List Char)) : Prop where
  scheme : target.scheme = base.scheme
  authority : target.authority = base.authority
  fragment : target.fragment = base.fragment
  pairs : queryPairs target.query = queryPairs base.query ++ added
  unchanged : added = [] → target.query = base.query

theorem SamePlace.searchText_eq
    {base target other : Url}
    {added further : List (List Char)}
    (located : base.authority.isSome = true)
    (place : SamePlace base target added)
    (place' : SamePlace base other further)
    (same : target.text = other.text) :
    target.searchText = other.searchText := by
  obtain ⟨authority, asked⟩ := Option.isSome_iff_exists.1 located
  have texts := congrArg String.toList same
  simp only [text, place.scheme, place'.scheme, place.authority,
    place'.authority, asked, place.fragment, place'.fragment,
    String.toList_append, List.append_assoc, List.append_cancel_left_eq]
    at texts
  rw [← List.append_assoc, ← List.append_assoc] at texts
  exact List.append_cancel_right texts

/-! ## Targets of requests -/

section Target

variable {base : Url} {path : List String} {query : Query}
  {request : SearchRequest}

/-- The path of the address that a request is sent to. -/
def searchPath
    (path : List String)
    (scheme : String)
    (names : List String) :
    List String :=
  names.foldl (addSegment scheme) (withoutEmptyEnd path)

/-- The query of the address that a request is sent to. -/
def searchQuery
    (query : Option String)
    (keepAlive : Option String) :
    Option String :=
  match keepAlive with
  | some keepAlive => some (addToQuery query "scroll" keepAlive)
  | none => query

theorem ofRequest?_eq_some
    (path_eq : base.path = .segments path)
    (style : PathStyle) :
    ofRequest? base style request =
      some
        { base with
          path :=
            .segments (searchPath path base.scheme (request.segments style))
          query := searchQuery base.query request.scroll? } := by
  rw [ofRequest?, path_eq]
  rfl

theorem exists_target
    (web : base.IsWeb path)
    (compiled : SearchRequest.ofChecked query = .ok request)
    (style : PathStyle) :
    ∃ target,
      ofRequest? base style request = some target ∧
        target.path =
            .segments (searchPath path base.scheme (request.segments style)) ∧
          SamePlace base target
            (if 10000 < query.limit.getD 0 then ["scroll=1m".toList]
              else []) := by
  obtain ⟨-, -, window⟩ :=
    SearchRequest.target_of_ofQuery
      (SearchRequest.ofChecked_eq_ok_iff.1 compiled).2
  have scroll :
      request.scroll? = if 10000 < query.limit.getD 0 then some "1m"
        else none := by
    rw [SearchRequest.scroll?, window]
    exact Window.scroll?_ofRange query.limit query.offset
  refine ⟨_, ofRequest?_eq_some web.path_eq style, rfl, rfl, rfl, rfl, ?_, ?_⟩
  · rw [scroll]
    split
    · exact queryPairs_addToQuery base.query "scroll" "1m"
    · exact (List.append_nil _).symm
  · intro none
    rw [scroll, if_neg fun exceeds => by simp [exceeds] at none]
    rfl

variable {target : Url} {names : List String}

/-- A search path ends in a name, so it does not give way to anything. -/
theorem entered_searchPath
    (web : base.IsWeb path)
    (request : SearchRequest)
    (style : PathStyle) :
    entered (searchPath path base.scheme (request.segments style)) =
      searchPath path base.scheme (request.segments style) := by
  have last : IsPlainName "_search" := by decide
  obtain ⟨front, segments⟩ :
    ∃ front, request.segments style = front ++ ["_search"] := by
    cases style
    · exact ⟨[request.database, request.table], rfl⟩
    · exact ⟨[request.table], rfl⟩
  rw [searchPath, segments, List.foldl_append, List.foldl_cons, List.foldl_nil,
    addSegment_plain web.kind last, entered_append (by decide)]

theorem isSegment_searchPath (web : base.IsWeb path) :
    ∀ segment ∈ searchPath path base.scheme names, IsSegment segment := by
  refine isSegment_foldl_addSegment web.kind fun segment found => ?_
  rw [withoutEmptyEnd] at found
  split at found
  · exact web.apart segment (List.dropLast_subset path found)
  · exact web.apart segment found

/-- The names are found behind the base's own path, unless one is not plain or
the path of the base is two slashes. -/
theorem decoded_target_iff
    (web : base.IsWeb path)
    (compiled : SearchRequest.ofChecked query = .ok request)
    (style : PathStyle)
    (sent :
      target.path =
        .segments (searchPath path base.scheme (request.segments style))) :
    target.textSegments.map decodeBytes =
        (withoutTrailingEmpty base.textSegments).map decodeBytes ++
          (request.segments style).map utf8Bytes ↔
      base.path.text ≠ "//" ∧ ∀ name ∈ request.segments style,
        IsPlainName name := by
  have whole := entered_searchPath web request style
  have named := SearchRequest.segments_ne_empty compiled style
  rw [textSegments_eq sent (isSegment_searchPath web),
    textSegments_eq web.path_eq web.apart, web.path_eq, ne_eq,
    text_eq_slashes_iff web.apart, List.map_map]
  constructor
  · intro decoded
    have apart : path ≠ ["", ""] := by
      rintro rfl
      have bound :
          (entered
            (searchPath ["", ""] base.scheme (request.segments style))).length ≤
          0 + (request.segments style).length :=
        length_foldl_addSegment_le web.kind _ (withoutEmptyEnd ["", ""])
      have one :
          (withoutTrailingEmpty (["", ""].map String.toList)).length = 1 := rfl
      have length := congrArg List.length decoded
      rw [← whole, List.length_map, List.length_append, List.length_map,
        List.length_map, one] at length
      omega
    rw [withoutTrailingEmpty_eq apart, ← whole, List.map_map] at decoded
    exact ⟨apart, plain_of_decoded web.kind (withoutEmptyEnd path) decoded⟩
  · rintro ⟨apart, plain⟩
    have written : decodeBytes ∘ String.toList ∘ writtenName = utf8Bytes :=
      funext decodeBytes_writtenName
    rw [withoutTrailingEmpty_eq apart, ← whole, searchPath,
      entered_foldl_addSegment web.kind plain named, List.map_append,
      List.map_map, List.map_map, Function.comp_assoc, written]

/-- Plain names are told from the path they are put in. -/
theorem names_eq_of_searchPath_eq
    (web : base.IsWeb path)
    {others : List String}
    (plain : ∀ name ∈ names, IsPlainName name)
    (plain' : ∀ name ∈ others, IsPlainName name)
    (named : ∀ name ∈ names, name ≠ "")
    (named' : ∀ name ∈ others, name ≠ "")
    (same :
      searchPath path base.scheme names = searchPath path base.scheme others) :
    names = others := by
  have paths := congrArg entered same
  rw [searchPath, searchPath, entered_foldl_addSegment web.kind plain named,
    entered_foldl_addSegment web.kind plain' named'] at paths
  exact List.map_injective_iff.2 writtenName_injective
    (List.append_cancel_left paths)

end Target

/-- A request is sent under the address of its backend.  Its names follow the
backend's own path, each in its place, exactly if they are plain and that
path is not two slashes; and requests of plain names that are sent to one
place have the same names. -/
theorem ofRequest?_segments_iff
    {text : String}
    {base : Url}
    {query : Query}
    {request : SearchRequest}
    (read : read? text = some base)
    (web : base.scheme = "http" ∨ base.scheme = "https")
    (compiled : SearchRequest.ofChecked query = .ok request)
    (style : PathStyle) :
    ∃ target,
      ofRequest? base style request = some target ∧
        SamePlace base target
          (if 10000 < query.limit.getD 0 then ["scroll=1m".toList] else []) ∧
          (target.textSegments.map decodeBytes =
              (withoutTrailingEmpty base.textSegments).map decodeBytes ++
                (request.segments style).map utf8Bytes ↔
            base.path.text ≠ "//" ∧ ∀ name ∈ request.segments style,
            IsPlainName name) ∧
            ∀ {other : Query} {further : SearchRequest}
                {otherStyle : PathStyle} {target' : Url},
              SearchRequest.ofChecked other = .ok further →
                ofRequest? base otherStyle further = some target' →
                  (∀ name ∈ request.segments style, IsPlainName name) →
                    (∀ name ∈ further.segments otherStyle, IsPlainName name) →
                      target'.text = target.text →
                        further.segments otherStyle =
                          request.segments style := by
  have kind : SchemeKind.ofScheme base.scheme = .web := by
    rcases web with http | https
    · rw [http]
      rfl
    · rw [https]
      rfl
  obtain ⟨path, known⟩ := isWeb_of_read? read kind
  obtain ⟨target, found, sent, place⟩ := exists_target known compiled style
  refine ⟨target, found, place, decoded_target_iff known compiled style sent,
    ?_⟩
  intro other further otherStyle target' compiled' found' plain plain' same
  obtain ⟨_, again, sent', place'⟩ := exists_target known compiled' otherStyle
  obtain rfl := Option.some.inj (found'.symm.trans again)
  have paths : target'.path.text = target.path.text := by
    refine path_text_eq_of_searchText_eq ?_ ?_
      (place'.searchText_eq known.located place same)
    · rw [sent']
      exact not_mem_text (isSegment_searchPath known)
    · rw [sent]
      exact not_mem_text (isSegment_searchPath known)
  rw [sent, sent'] at paths
  exact names_eq_of_searchPath_eq known plain' plain
    (SearchRequest.segments_ne_empty compiled' otherStyle)
    (SearchRequest.segments_ne_empty compiled style)
    (segments_eq_of_text_eq (isSegment_searchPath known)
      (isSegment_searchPath known) paths)

/-- An address with a path of its own and an empty segment at its end. -/
def searchBase : Url :=
  { scheme := "http"
    authority :=
      some
        { username := "", password := none, host := .name "localhost",
          port := some 9200 }
    path := .segments ["search", ""]
    query := some "pretty"
    fragment := none }

/-- A query for more documents than one window holds, with characters in its
names that have a meaning in addresses. -/
def largePage : Query :=
  { Query.ofTable "logs?" "100%/day" with limit := some 20000 }

/-- Marks and slashes in names stay in the names, and a large
page opens a cursor. -/
theorem ofRequest?_segments_iff_largePage :
    read? "http://localhost:9200/search/?pretty" = some searchBase ∧
      ∃ request target,
        SearchRequest.ofChecked largePage = .ok request ∧
          ofRequest? searchBase .typed request = some target ∧
            target.textSegments.map decodeBytes =
                ["search", "logs?", "100%/day", "_search"].map utf8Bytes ∧
              queryPairs target.query =
                ["pretty".toList, "scroll=1m".toList] := by
  have read :
      read? "http://localhost:9200/search/?pretty" =
        some searchBase := by decide +kernel
  obtain ⟨request, compiled, names⟩ :
      ∃ request, SearchRequest.ofChecked largePage = .ok request ∧
        request.segments .typed = ["logs?", "100%/day", "_search"] :=
    ⟨_, rfl, rfl⟩
  obtain ⟨target, found, place, decoded, -⟩ :=
    ofRequest?_segments_iff read (.inl rfl) compiled .typed
  refine ⟨read, request, target, compiled, found, ?_, place.pairs⟩
  have plain : ∀ name ∈ request.segments .typed, IsPlainName name := by
    rw [names]
    decide
  refine (decoded.2 ⟨by decide, plain⟩).trans ?_
  rw [names]
  decide

/-- A tab in a name is lost: two databases are asked at one address. -/
theorem tab_lost_in_address :
    ∃ base request other target,
      read? "http://localhost:9200" = some base ∧
        SearchRequest.ofChecked (.ofTable "a\tb" "events") = .ok request ∧
          SearchRequest.ofChecked (.ofTable "ab" "events") = .ok other ∧
            ofRequest? base .typed request = some target ∧
              ofRequest? base .typed other = some target ∧
                request.segments .typed ≠ other.segments .typed ∧
                  target.textSegments.map decodeBytes ≠
                    (withoutTrailingEmpty base.textSegments).map decodeBytes ++
                      (request.segments .typed).map utf8Bytes := by
  have read : read? "http://localhost:9200" =
      some { searchBase with path := .segments [""], query := none } := by
    decide +kernel
  refine ⟨_, _, _, _, read, rfl, rfl, rfl, rfl, ?_, ?_⟩ <;> decide

end Url

end TabularSearch
