import TabularSearch.Binary64.Literal
import TabularSearch.Entries

/-!
# TOML values

Whole numbers have 64 bits with a sign; other numbers are binary, where they are
finite.  A date or a time is kept as it is written.
-/

namespace TabularSearch.Toml

/-- A value of a TOML document. -/
inductive Value where
  | string (content : String)
  | integer (number : Int)
  | float (number : Option Binary64)
  | boolean (truth : Bool)
  | datetime (written : String)
  | array (elements : List Value)
  | table (entries : List (String × Value))
  deriving Inhabited

end TabularSearch.Toml
