import TabularSearch.Request.Basic
import TabularSearch.Response.Basic
import TabularSearch.Url.Search

/-!
# Backends

A backend is asked with a request and answers or says why it does not.  One kind
has the same answer to everything; the other stands at an address.  No
connection is opened here: a backend at an address of the web is out of reach,
and any other scheme cannot be asked.
-/

namespace TabularSearch

open TabularSearch.Json

/-- Why a backend gives no answer. -/
inductive BackendError where
  | unavailable
  /-- The request could not be made or completed. -/
  | failed (reason : String)
  /-- The backend answered with an error. -/
  | refused (status : Nat) (body : String)
  | timeout
  | invalidUrl (reason : String)
  /-- The answer has not the shape of a search response. -/
  | unreadable (reason : String)
  deriving DecidableEq

/-- The wording of an error. -/
def BackendError.message : BackendError → String
  | .unavailable => "Search backend unavailable"
  | .failed reason => "Request failed: " ++ reason
  | .refused status body =>
    "Backend error " ++ String.ofList (Text.decimalDigits status) ++ ": " ++
      body
  | .timeout => "Request timeout"
  | .invalidUrl reason => "Invalid backend URL: " ++ reason
  | .unreadable reason => "Failed to decode backend response: " ++ reason

/-- A backend: where it is, whether it is there, and its answers. -/
structure Backend where
  endpoint : String
  ping : Except BackendError Unit
  search : SearchRequest → Except BackendError SearchResponse

namespace Backend

/-- The answer that a value writes. -/
def readAnswer (answer : Value) : Except BackendError SearchResponse :=
  match SearchResponse.read (Document.ofValue answer) with
  | .ok response => .ok response
  | .error _ => .error (.unreadable "not a search response")

/-- A backend with the same answer to every request. -/
def canned (answer : Value) : Backend :=
  { endpoint := "static"
    ping := .ok ()
    search := fun _ => readAnswer answer }

/-- What comes of a request to an address. -/
def contact (address : Url) : BackendError :=
  if address.scheme = "http" ∨ address.scheme = "https" then .unavailable
  else
    .failed ("builder error for url (" ++ address.anonymous.text ++
      "): URL scheme is not allowed")

/-- A backend at an address. -/
def remote
    (address : Url)
    (style : PathStyle) :
    Backend :=
  { endpoint := address.text
    ping := .error (contact address)
    search := fun request =>
      match Url.ofRequest? address style request with
      | none => .error (.invalidUrl address.text)
      | some target => .error (contact target) }

/-- A backend at the address that a text writes. -/
def atText
    (text : String)
    (style : PathStyle) :
    Except BackendError Backend :=
  match Url.read? text with
  | some address => .ok (remote address style)
  | none => .error (.invalidUrl (text ++ ": not an absolute URL"))

end Backend

end TabularSearch
