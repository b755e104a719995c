import TabularSearch.Url.Basic
import TabularSearch.Url.Encode
import TabularSearch.Url.Name

/-!
# Reading addresses

Controls and blanks around an address are dropped, and tabs and line ends
anywhere in it.  Schemes of the web take any number of slashes or backslashes
before the authority and need a host; a file's host may be missing.  Paths are
freed of `.` and `..` segments, also in their encoded spellings, and what may
not stand in a part is encoded.
-/

namespace TabularSearch.Url

/-- The characters before the first one that stops, and the others. -/
def cutAt
    (stops : Char → Bool)
    (text : List Char) :
    List Char × List Char :=
  text.span fun character => !stops character

/-- The text without controls and blanks at its ends, and
without tabs and line ends. -/
def strip (text : List Char) : List Char :=
  let trimmed := (text.dropWhile isEdge).reverse.dropWhile isEdge
  trimmed.reverse.filter fun character => character ∉ ['\t', '\n', '\r']
where
  isEdge (character : Char) : Bool := character.toNat ≤ 0x20

/-- A scheme in lower case and what follows its colon. -/
def readScheme? (text : List Char) : Option (String × List Char) :=
  let (scheme, rest) := cutAt (· == ':') text
  match scheme, rest with
  | first :: others, _ :: rest =>
    if first.isAlpha && others.all isSchemeCharacter then
      some (String.ofList ((first :: others).map Char.toLower), rest)
    else none
  | _, _ => none
where
  isSchemeCharacter (character : Char) : Bool :=
    character.isAlphanum || ['+', '-', '.'].contains character

/-! ## Hosts -/

/-- Characters that no host may hold as they are. -/
def isForbiddenInHost (character : Char) : Bool :=
  character == '\x00' ||
    ['\t', '\n', '\r', ' ', '#', '/', ':', '<', '>', '?', '@', '[', '\\', ']',
      '^', '|'].contains character

/-- An address of eight pieces in brackets, of which the first
is already read. -/
def readBracketed? (text : List Char) : Option Host :=
  if text.getLast? = some ']' then (eightPieces? text.dropLast).map .eightPieces
  else none

/-- The host of a special scheme. -/
def readWebHost? : List Char → Option Host
  | '[' :: rest => readBracketed? rest
  | text => do
    let decoded ← textOfBytes? (decodeBytes text)
    let name ← asciiName? decoded.toList
    if name.isEmpty then none
    else if endsInNumber name then return .fourBytes (← fourBytes? name)
    else return .name (String.ofList name)

/-- The host of any other scheme. -/
def readPlainHost? : List Char → Option Host
  | '[' :: rest => readBracketed? rest
  | text =>
    if text.any isForbiddenInHost then none
    else some (.name (String.ofList (encode inControls text)))

/-- The characters of a host up to a colon outside brackets, and the others. -/
def cutHost (inside : Bool) : List Char → List Char × List Char
  | [] => ([], [])
  | character :: rest =>
    if character = ':' ∧ inside = false then ([], character :: rest)
    else
      let inside :=
        if character = '[' then true
        else if character = ']' then false else inside
      let (host, others) := cutHost inside rest
      (character :: host, others)

/-! ## Authorities -/

/-- The number of a port, none if no digits are there, and
what follows the digits. -/
def readPort? (text : List Char) : Option (Option Nat × List Char) :=
  let (digits, rest) := cutAt (fun character => !character.isDigit) text
  if digits.isEmpty then some (none, rest)
  else if Text.decimalValue digits < 0x10000 then
    some (some (Text.decimalValue digits), rest)
  else none

/-- The user and the password before an at sign; a colon without
a password is dropped. -/
def readUser (text : List Char) : String × Option String :=
  let (username, rest) := cutAt (· == ':') text
  let written (part : List Char) := String.ofList (encode inUserInfo part)
  match rest with
  | [] | [_] => (written username, none)
  | _ :: password => (written username, some (written password))

/-- The texts before and after the last at sign; none before it
where there is no sign. -/
def cutUser (text : List Char) : Option (List Char) × List Char :=
  let after := (text.reverse.takeWhile (· ≠ '@')).reverse
  if after.length = text.length then (none, text)
  else (some (text.take (text.length - after.length - 1)), after)

/-- The authority of a scheme, and what of its text belongs to the path. -/
def readAuthority?
    (scheme : String)
    (text : List Char)
    (followed : Bool) :
    Option (Authority × List Char) := do
  let special := (SchemeKind.ofScheme scheme).isSpecial
  let (user, text) := cutUser text
  if user = some [] ∧ text.isEmpty ∧ followed then none
  else
    let (username, password) := readUser (user.getD [])
    let (hostText, rest) := cutHost false text
    let host ← if special then readWebHost? hostText
      else readPlainHost? hostText
    let hasUser := username ≠ "" ∨ password.isSome
    if host = .name "" ∧ (special ∨ rest.head? = some ':' ∨ hasUser) then none
    else
      let (port, rest) ← readPort? (rest.drop 1)
      if rest.isEmpty ∨ (special = false ∧ rest.head? = some '\\') then
        let port := port.filter fun port => some port ≠ usualPort? scheme
        return ({ username, password, host, port }, rest)
      else none

/-! ## Paths -/

/-- A single dot, also encoded. -/
def isHere (segment : List Char) : Bool :=
  [['.'], ['%', '2', 'e']].contains (segment.map Char.toLower)

/-- Two dots, each also encoded. -/
def isParent (segment : List Char) : Bool :=
  [['.', '.'], ['.', '%', '2', 'e'], ['%', '2', 'e', '.'],
    ['%', '2', 'e', '%', '2', 'e']].contains (segment.map Char.toLower)

/-- A letter with a colon or a bar: the name of a drive. -/
def isDrive : List Char → Bool
  | [letter, mark] => letter.isAlpha && (mark == ':' || mark == '|')
  | _ => false

/-- The path without its last segment; the name of a drive stays. -/
def withoutLast (path : List String) : List String :=
  match path.getLast? with
  | some last => if isDrive last.toList then path else path.dropLast
  | none => path

/-- A segment as it stands in the path; a drive at the root of files is
written with a colon. -/
def segmentText
    (kind : SchemeKind)
    (path : List String)
    (segment : List Char) :
    String :=
  if kind = .file ∧ path = [] ∧ isDrive segment then
    String.ofList [segment.headD 'C', ':']
  else String.ofList segment

/-- The path with encoded segments added one by one. -/
def addSegments
    (kind : SchemeKind)
    (path : List String) :
    List (List Char) → List String
  | [] => path
  | segment :: rest =>
    let last := rest.isEmpty
    if isParent segment then
      let path := withoutLast path
      addSegments kind (if last then path ++ [""] else path) rest
    else if isHere segment then
      addSegments kind (if last then path ++ [""] else path) rest
    else addSegments kind (path ++ [segmentText kind path segment]) rest

/-- The parts of a path between slashes, or backslashes in special schemes. -/
def pathParts
    (kind : SchemeKind)
    (text : List Char) :
    List (List Char) :=
  splitAt '/' <|
    if kind.isSpecial then
      text.map fun character => if character = '\\' then '/'
    else character
    else text

/-- The path of a file starts with something. -/
def rooted (path : List String) : List String :=
  match path.dropWhile (· = "") with
  | [] => [""]
  | path => path

/-- The segments of a path text; one slash at its start is no
segment of its own. -/
def readSegments
    (kind : SchemeKind)
    (text : List Char) :
    List String :=
  let parts :=
    match pathParts kind text with
    | [] :: first :: rest => first :: rest
    | parts => parts
  addSegments kind [] (parts.map (encode inPath))

/-! ## Whole addresses -/

/-- The authority of a file on no particular host. -/
def nowhere : Authority :=
  { username := "", password := none, host := .name "", port := none }

/-- A slash or a backslash. -/
def isEitherSlash (character : Char) : Bool :=
  character == '/' || character == '\\'

/-- A file's path under a host that counts only if the path does
not start with a drive. -/
def onHost
    (host : Host)
    (text : List Char) :
    Authority × List String :=
  let path := readSegments .file text
  let dropped :=
    host = .name "localhost" ∨
      (path.head?.any fun first => isDrive first.toList)
  (if dropped then nowhere else { nowhere with host }, rooted path)

/-- The authority and the path of a file. -/
def readFile? (text : List Char) : Option (Authority × List String) :=
  if (text.take 2).length = 2 ∧ (text.take 2).all isEitherSlash then
    let (hostText, path) := cutAt isEitherSlash (text.drop 2)
    if isDrive hostText then some (onHost nowhere.host (text.drop 2))
    else if hostText.isEmpty then some (onHost nowhere.host path)
    else (readWebHost? hostText).map fun host => onHost host path
  else some (onHost nowhere.host text)

/-- The authority and the path behind the slashes that announce an authority. -/
def readWithAuthority?
    (scheme : String)
    (isSlash : Char → Bool)
    (text : List Char)
    (followed : Bool) :
    Option (Authority × Path) := do
  let kind := SchemeKind.ofScheme scheme
  let (authorityText, path) := cutAt isSlash text
  let (authority, more) ← readAuthority? scheme authorityText
    (followed || !path.isEmpty)
  let path := more ++ path
  return (authority,
    .segments
      (if kind = .other ∧ path.isEmpty then [] else readSegments kind path))

/-- The authority and the path after a scheme; whether a query
or fragment follows. -/
def readHierarchy?
    (scheme : String)
    (text : List Char)
    (followed : Bool) :
    Option (Option Authority × Path) :=
  match SchemeKind.ofScheme scheme, text with
  | .file, _ =>
    (readFile? text).map fun (authority, path) =>
      (some authority, .segments path)
  | .web, _ =>
    (readWithAuthority? scheme isEitherSlash (text.dropWhile isEitherSlash)
      followed).map fun (authority, path) => (some authority, path)
  | .other, '/' :: '/' :: rest =>
    (readWithAuthority? scheme (· == '/') rest followed).map
      fun (authority, path) => (some authority, path)
  | .other, '/' :: rest =>
    some (none, .segments (readSegments .other ('/' :: rest)))
  | .other, _ => some (none, .rootless (String.ofList (encode inControls text)))

/-- A part behind its mark, encoded. -/
def markedPart?
    (inSet : Char → Bool) :
    List Char → Option String
  | [] => none
  | _ :: part => some (String.ofList (encode inSet part))

/-- The address that a text writes. -/
def read? (text : String) : Option Url := do
  let (scheme, rest) ← readScheme? (strip text.toList)
  let (rest, fragment) := cutAt (· == '#') rest
  let (hierarchy, query) := cutAt (· == '?') rest
  let (authority, path) ←
    readHierarchy? scheme hierarchy (!query.isEmpty || !fragment.isEmpty)
  let inQuerySet :=
    if (SchemeKind.ofScheme scheme).isSpecial then inSpecialQuery else inQuery
  return {
    scheme
    authority
    path
    query := markedPart? inQuerySet query
    fragment := markedPart? inFragment fragment }

end TabularSearch.Url
