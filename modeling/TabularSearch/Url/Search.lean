import TabularSearch.Request.Basic
import TabularSearch.Url.Reader

/-!
# Where a request is sent

The segments of a search path are added to the path of the backend's address; an
empty segment at its end gives way.  A segment that is a dot or two is left out,
and the cursor's time is added to the query.
-/

namespace TabularSearch.Url

/-- Characters that are encoded in a segment that is added. -/
def inAddedSegment (scheme : String) : Char → Bool :=
  if (SchemeKind.ofScheme scheme).isSpecial then inSpecialSegment else inSegment

/-- The segments without an empty one at the end, unless it is the only one. -/
def withoutEmptyEnd (segments : List String) : List String :=
  if segments.length > 1 ∧ segments.getLast? = some "" then segments.dropLast
  else segments

/-- One segment added to a path; a path of one empty segment counts as empty. -/
def addSegment
    (scheme : String)
    (path : List String)
    (segment : String) :
    List String :=
  if segment = "." ∨ segment = ".." then path
  else
    let kind := SchemeKind.ofScheme scheme
    let start := if path = [""] then [] else path
    let kept :=
      segment.toList.filter fun character => character ∉ ['\t', '\n', '\r']
    let path := addSegments kind start [encode (inAddedSegment scheme) kept]
    if kind = .file then rooted path else path

/-- A pair of a name and a value added to a query. -/
def addToQuery
    (query : Option String)
    (name value : String) :
    String :=
  match query with
  | none | some "" => name ++ "=" ++ value
  | some query => query ++ "&" ++ name ++ "=" ++ value

/-- The address that a request is sent to; none if nothing can
stand under the backend's. -/
def ofRequest?
    (base : Url)
    (style : PathStyle)
    (request : SearchRequest) :
    Option Url :=
  match base.path with
  | .rootless _ => none
  | .segments path =>
    let segments :=
      (request.segments style).foldl (addSegment base.scheme)
      (withoutEmptyEnd path)
    some
      { base with
        path := .segments segments
        query :=
          match request.scroll? with
          | some keepAlive => some (addToQuery base.query "scroll" keepAlive)
          | none => base.query }

end TabularSearch.Url
