import TabularSearch.Text.Ascii

/-!
# Media types

A media type is `top/sub` with parameters after semicolons.  Spaces stand only
after a semicolon or after a quoted value.  JSON is `application/json`, or has
the suffix `+json` below `application`.
-/

namespace TabularSearch

/-- Characters of names and of values without quotes. -/
def isTokenChar (character : Char) : Bool :=
  character.isAlphanum || "!#$%&'*+-.^_`|~".toList.contains character

/-- Characters of values in quotes. -/
def isQuotableChar (character : Char) : Bool :=
  32 ≤ character.toNat && character.toNat < 127

/-- Where a text stands among the parameters of a media type. -/
inductive ParameterPlace where
  /-- After a semicolon. -/
  | gap
  | name
  /-- After the equals sign. -/
  | valueStart
  | value
  /-- After the opening quote. -/
  | quoteStart
  | quote
  /-- After the closing quote. -/
  | quoteEnd
  deriving DecidableEq

namespace ParameterPlace

/-- The place after one more character; none where it may not stand.  The first
character in quotes is taken as it is, even if it is a quote. -/
def step? (place : ParameterPlace) (character : Char) : Option ParameterPlace :=
  match place with
  | gap =>
    if character = ' ' then some gap
    else if isTokenChar character then some name
    else none
  | name =>
    if character = '=' then some valueStart
    else if isTokenChar character then some name
    else none
  | valueStart =>
    if character = '"' then some quoteStart
    else if isTokenChar character then some value
    else none
  | value =>
    if character = ';' then some gap
    else if isTokenChar character then some value
    else none
  | quoteStart => if isQuotableChar character then some quote else none
  | quote =>
    if character = '"' then some quoteEnd
    else if isQuotableChar character then some quote
    else none
  | quoteEnd =>
    if character = ';' then some gap
    else if character = ' ' then some quoteEnd
    else none

/-- Whether the parameters may end here. -/
def isEnd : ParameterPlace → Bool
  | gap | valueStart | value | quoteEnd => true
  | name | quoteStart | quote => false

/-- Whether the rest of a text completes the parameters. -/
def accepts (place : ParameterPlace) : List Char → Bool
  | [] => place.isEnd
  | character :: rest =>
    match place.step? character with
    | some next => next.accepts rest
    | none => false

end ParameterPlace

/-- Whether a text is nothing, or parameters after a semicolon. -/
def areParameters : List Char → Bool
  | [] => true
  | ';' :: rest => ParameterPlace.gap.accepts rest
  | _ => false

/-- Whether a subtype in lower case is JSON, before its last
plus sign or after it. -/
def isJsonSubtype (subtype : List Char) : Bool :=
  let (suffix, main) := subtype.reverse.span (· ≠ '+')
  match main with
  | _ :: main@(_ :: _) =>
    main.reverse = "json".toList || suffix.reverse = "json".toList
  | _ => subtype = "json".toList

/-- Whether a text is a media type of JSON. -/
def isJsonMediaType (text : String) : Bool :=
  let (top, rest) := (text.toList.map Char.toLower).span isTokenChar
  match rest with
  | '/' :: rest =>
    let (subtype, parameters) := rest.span isTokenChar
    top = "application".toList && isJsonSubtype subtype &&
      areParameters parameters
  | _ => false

end TabularSearch
