/-!
# Comma separated values

Records are lines of fields with commas between them.  A field that holds a
comma, a quote or a line end is quoted, with its quotes doubled; a record whose
text would be empty is written as one empty quoted field, so that every record
is a line with something in it.  A record with more or fewer fields than the
first one is not written.
-/

namespace TabularSearch.Csv

/-- Whether a character makes its field quoted. -/
def needsQuotes (character : Char) : Bool :=
  character == ',' || character == '"' || character == '\r' || character == '\n'

/-- The characters with every quote doubled. -/
def doubleQuotes (field : List Char) : List Char :=
  field.flatMap fun character =>
    if character = '"' then ['"', '"'] else [character]

/-- The text of a field. -/
def fieldText (field : List Char) : List Char :=
  if field.any needsQuotes then '"' :: (doubleQuotes field ++ ['"']) else field

/-- The texts of fields with commas between them. -/
def joinFields : List (List Char) → List Char
  | [] => []
  | [field] => fieldText field
  | field :: rest => fieldText field ++ ',' :: joinFields rest

/-- The line of a record. -/
def recordText (fields : List (List Char)) : List Char :=
  let text := joinFields fields
  (if text.isEmpty then ['"', '"'] else text) ++ ['\n']

/-- The lines of records. -/
def recordsText (records : List (List (List Char))) : List Char :=
  records.flatMap recordText

/-- Whether every record has as many fields as the first one. -/
def even : List (List (List Char)) → Bool
  | [] => true
  | first :: rest => rest.all fun record => record.length == first.length

/-- The lines of records, unless one of them has another number of
fields than the first. -/
def write? (records : List (List (List Char))) : Option (List Char) :=
  if even records then some (recordsText records) else none

end TabularSearch.Csv
