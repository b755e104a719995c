import TabularSearch.Service.Message

/-!
# Which origins may read

Browsers ask whether pages of an origin may read an answer.  Without any origin
configured all may; otherwise those that are configured, letter for letter.
-/

namespace TabularSearch

/-- Whether a text can be the value of a header. -/
def isHeaderText (text : String) : Bool :=
  text.toList.all fun character =>
    32 ≤ character.toNat && character.toNat ≠ 127 || character = '\t'

/-- The configured origins that can be sent at all. -/
def usableOrigins (origins : List String) : List String :=
  origins.filter isHeaderText

/-- The origin that an answer allows, given the origin that asks. -/
def allowedOrigin?
    (origins : List String)
    (asking : Option String) :
    Option String :=
  match usableOrigins origins with
  | [] => some "*"
  | usable => asking.filter (· ∈ usable)

end TabularSearch
