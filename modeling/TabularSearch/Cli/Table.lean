import TabularSearch.Backend.Execution
import TabularSearch.Rows.Export

/-!
# Results as tables

Rows are shown under their columns, every column as wide as its widest cell, and
below them how many there are and how long they took.
-/

namespace TabularSearch.Cli

open TabularSearch.Json

/-- A binary number with two decimals, rounded to the nearest,
a tie to the even one. -/
def twoDecimals (number : Binary64) : String :=
  let hundredths :=
    Binary64.roundQuotient (number.magnitude * 100) Binary64.unitsPerOne
  String.ofList <|
    (if number.negative then ['-'] else []) ++
      Text.decimalDigits (hundredths / 100) ++
      '.' :: Text.paddedDigits 2 (hundredths % 100)

/-- What is shown for a cell: a hyphen where nothing is there. -/
def tableCell : Option Value → String
  | none | some .null => "-"
  | some (.string text) => text
  | some (.number (.binary number)) => twoDecimals number
  | some other => other.compact

/-- A text filled up with blanks. -/
def padded
    (width : Nat)
    (text : String) :
    String :=
  text ++ String.ofList (List.replicate (width - text.length) ' ')

/-- One line of a table. -/
def tableLine
    (widths : List Nat)
    (cells : List String) :
    String :=
  " | ".intercalate (List.zipWith padded widths cells)

/-- The width of a column. -/
def columnWidth
    (rows : List Row)
    (column : String) :
    Nat :=
  (rows.map fun row => (tableCell (row.get? column)).length).foldl max
    column.length

/-- The lines of a table with at least one row. -/
def tableLines (rows : List Row) : List String :=
  let columns := columnsOf rows
  let widths := columns.map (columnWidth rows)
  let total := widths.foldl (· + ·) 0 + 3 * (widths.length - 1)
  [tableLine widths columns, String.ofList (List.replicate total '-')] ++
    rows.map fun row =>
      tableLine widths (columns.map fun column => tableCell (row.get? column))

/-- A number as it is shown. -/
def shown (number : Nat) : String :=
  String.ofList (Text.decimalDigits number)

/-- The lines that show a result. -/
def resultLines
    (executionMillis : UInt64)
    (result : ResultSet) :
    List String :=
  if result.rows.isEmpty then
    ["No rows (" ++ shown result.totalHits.toNat ++ " total hits)"]
  else
    tableLines result.rows ++
      ["",
        shown result.rows.length ++ " rows, " ++ shown result.totalHits.toNat ++
          " total hits, backend " ++ shown result.took.toNat ++ "ms, total " ++
          shown executionMillis.toNat ++ "ms"] ++
      (match result.scrollId with
        | some scroll => ["Scroll cursor: " ++ scroll]
        | none => [])

end TabularSearch.Cli
