import TabularSearch.Query.Basic

/-!
# Why a query is refused

Each cause has its own constructor; `InvalidQuery.message`
holds all of the wording.
-/

namespace TabularSearch

/-- Names that a query has to give. -/
inductive NameRole where
  | database
  | table
  | projectedField
  | filterField
  | groupField
  | groupLabel
  | aggregateLabel
  | aggregateField
  | sortKey
  deriving DecidableEq

/-- What a name is called in messages. -/
def NameRole.title : NameRole → String
  | .database => "database"
  | .table => "table"
  | .projectedField => "projected field"
  | .filterField => "filter field"
  | .groupField => "group-by field"
  | .groupLabel => "group-by label"
  | .aggregateLabel => "aggregate label"
  | .aggregateField => "aggregate field"
  | .sortKey => "sort key"

/-- The causes for which a query is refused. -/
inductive InvalidQuery where
  /-- A name holds nothing but white space. -/
  | blankName (role : NameRole)
  /-- A comparison is on the field with the empty name. -/
  | emptyField
  | distinctWithoutField
  | distinctWithGroups
  | repeatedLabel (label : String)
  /-- A measure other than the count is taken of all documents. -/
  | measureWithoutField (measure : Measure) (label : String)
  /-- Values of a kind have no order. -/
  | unorderedValue (comparison : Comparison) (field : String) (kind : String)
  /-- Null has no text to look for. -/
  | nullText (comparison : Comparison) (field : String)
  /-- A cause in the caller's own words. -/
  | stated (message : String)
  deriving DecidableEq

/-- The wording of a cause. -/
def InvalidQuery.message : InvalidQuery → String
  | .blankName role => role.title ++ " must not be empty"
  | .emptyField => "filter field cannot be empty"
  | .distinctWithoutField => "distinct needs at least one field"
  | .distinctWithGroups =>
    "distinct cannot be combined with aggregates or group-by"
  | .repeatedLabel label =>
    "output label '" ++ label ++ "' is used more than once"
  | .measureWithoutField measure label =>
    measure.title ++ " of '" ++ label ++ "' needs a field"
  | .unorderedValue comparison field kind =>
    "'" ++ comparison.symbol ++ "' on field '" ++ field ++
      "' cannot compare a " ++ kind ++ " value"
  | .nullText comparison field =>
    "'" ++ comparison.symbol ++ "' on field '" ++ field ++
      "' needs a non-null value"
  | .stated message => message

end TabularSearch
