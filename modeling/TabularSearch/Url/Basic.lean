import TabularSearch.Url.Address

/-!
# Addresses of backends

An address has a scheme, an authority unless it names none, a path, and maybe a
query and a fragment.  `Url.text` writes it in its one normal form.
-/

namespace TabularSearch

/-- The host in an address. -/
inductive Url.Host where
  /-- A name in ASCII; empty where a scheme allows that. -/
  | name (text : String)
  | fourBytes (address : Nat)
  | eightPieces (pieces : List Nat)
  deriving DecidableEq

/-- Who is asked, and where. -/
structure Url.Authority where
  username : String
  password : Option String
  host : Url.Host
  /-- The port, unless it is the usual one of the scheme. -/
  port : Option Nat
  deriving DecidableEq

/-- The path in an address. -/
inductive Url.Path where
  /-- Text without structure, under which nothing can stand. -/
  | rootless (text : String)
  /-- Segments with a slash before each. -/
  | segments (list : List String)
  deriving DecidableEq

/-- An address in its parts. -/
structure Url where
  scheme : String
  authority : Option Url.Authority
  path : Url.Path
  query : Option String
  fragment : Option String
  deriving DecidableEq

namespace Url

/-- The schemes whose addresses follow the rules of the web. -/
inductive SchemeKind where
  | file
  | web
  | other
  deriving DecidableEq

/-- The kind of a scheme. -/
def SchemeKind.ofScheme (scheme : String) : SchemeKind :=
  if scheme = "file" then .file
  else if scheme ∈ ["http", "https", "ws", "wss", "ftp"] then .web
  else .other

/-- Whether a backslash is as good as a slash. -/
def SchemeKind.isSpecial (kind : SchemeKind) : Bool :=
  kind ≠ .other

/-- The usual port of a scheme. -/
def usualPort? (scheme : String) : Option Nat :=
  if scheme ∈ ["http", "ws"] then some 80
  else if scheme ∈ ["https", "wss"] then some 443
  else if scheme = "ftp" then some 21
  else none

/-- The host as it stands in an address. -/
def Host.text : Host → String
  | .name text => text
  | .fourBytes address => String.ofList (fourBytesText address)
  | .eightPieces pieces => "[" ++ String.ofList (eightPiecesText pieces) ++ "]"

/-- The user's part in front of the host. -/
def Authority.userText (authority : Authority) : String :=
  match authority.username, authority.password with
  | "", none => ""
  | username, none => username ++ "@"
  | username, some password => username ++ ":" ++ password ++ "@"

/-- The port behind a colon, where there is one. -/
def Authority.portText (authority : Authority) : String :=
  match authority.port with
  | some port => ":" ++ String.ofList (Text.decimalDigits port)
  | none => ""

/-- The user, the host and the port as they stand in an address. -/
def Authority.text (authority : Authority) : String :=
  "//" ++ authority.userText ++ authority.host.text ++ authority.portText

/-- The path as it stands in an address. -/
def Path.text : Path → String
  | .rootless text => text
  | .segments list => String.join (list.map fun segment => "/" ++ segment)

/-- A path that starts with two slashes is kept from looking
like an authority. -/
def Path.guard : Path → String
  | .segments ("" :: _ :: _) => "/."
  | _ => ""

/-- A part with its mark, where there is one. -/
def markedText
    (mark : String)
    (part : Option String) :
    String :=
  match part with
  | some text => mark ++ text
  | none => ""

/-- The text of an address. -/
def text (url : Url) : String :=
  url.scheme ++ ":" ++
    (match url.authority with
      | some authority => authority.text
      | none => url.path.guard) ++
    url.path.text ++ markedText "?" url.query ++ markedText "#" url.fragment

/-- The address without the user's part. -/
def anonymous (url : Url) : Url :=
  { url with
    authority := url.authority.map fun authority =>
      { authority with username := "", password := none } }

end Url

end TabularSearch
