import TabularSearch.Json.Printer
import TabularSearch.Text.Ascii

/-!
# Requests and responses of the service

Only what the service looks at or decides is here: of a response its status, its
content, and which origin may read it.
-/

namespace TabularSearch

open TabularSearch.Json

/-- A request to the service. -/
structure HttpRequest where
  method : String
  /-- The path, perhaps with a query after it. -/
  target : String
  headers : List (String × String)
  body : String

/-- The first value of a header, whose name is in any case. -/
def HttpRequest.header?
    (request : HttpRequest)
    (name : String) :
    Option String :=
  (request.headers.find? fun header => Text.equalIgnoringCase header.1 name).map
    (·.2)

/-- The path of a request without the query or fragment after it. -/
def HttpRequest.path (request : HttpRequest) : String :=
  String.ofList (request.target.toList.takeWhile fun character =>
    character ≠ '?' ∧ character ≠ '#')

/-- What a response carries. -/
inductive Content where
  | none
  | json (value : Value)
  | text (mediaType content : String)

/-- The media type of a content. -/
def Content.mediaType? : Content → Option String
  | none => .none
  | json _ => some "application/json"
  | text mediaType _ => some mediaType

/-- The content as it is sent. -/
def Content.body : Content → String
  | none => ""
  | json value => value.compact
  | text _ content => content

/-- An answer of the service. -/
structure HttpResponse where
  status : Nat
  content : Content
  /-- Whether the content itself is left out, and only described. -/
  headOnly : Bool
  /-- The origin that may read the answer; a star stands for all. -/
  allowedOrigin : Option String

namespace HttpResponse

/-- A response that says nothing of origins. -/
def plain
    (status : Nat)
    (content : Content) :
    HttpResponse :=
  { status, content, headOnly := false, allowedOrigin := none }

/-- A status alone. -/
def bare (status : Nat) : HttpResponse :=
  plain status .none

/-- The body as it is sent. -/
def body (response : HttpResponse) : String :=
  if response.headOnly then "" else response.content.body

end HttpResponse

end TabularSearch
