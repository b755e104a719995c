import TabularSearch.Toml.Document
import TabularSearch.Toml.Number

/-!
# Reading TOML documents

A document is a row of lines: blank, a comment, a header, or a key with a value.
Values in brackets may run over several lines and hold comments, tables in
braces may not; both may be nested up to a limit.
-/

namespace TabularSearch.Toml

/-- What follows the blanks, line ends and comments at the start of a text; none
where a comment holds a control or is not ended by a line end. -/
def dropTrivia? : (inComment : Bool) → List Char → Option (List Char)
  | true, '\r' :: '\n' :: rest | true, '\n' :: rest => dropTrivia? false rest
  | true, character :: rest =>
    if isPrintable character then dropTrivia? true rest else none
  | true, [] => some []
  | false, '#' :: rest => dropTrivia? true rest
  | false, '\r' :: '\n' :: rest => dropTrivia? false rest
  | false, character :: rest =>
    if isGap character || character == '\n' then dropTrivia? false rest
    else some (character :: rest)
  | false, [] => some []

/-- A reader of something at the start of a text. -/
abbrev Reader (Item : Type) := List Char → Option (Item × List Char)

/-- The elements of an array after its opening bracket, with as
many steps as the fuel. -/
def readElements?
    (readItem : Reader Value) :
    Nat → Reader (List Value)
  | 0, _ => none
  | fuel + 1, text => do
    let text ← dropTrivia? false text
    match text with
    | ']' :: rest => return ([], rest)
    | _ =>
      let (item, rest) ← readItem text
      let rest ← dropTrivia? false rest
      match rest with
      | ']' :: rest => return ([item], rest)
      | ',' :: rest =>
        let (items, rest) ← readElements? readItem fuel rest
        return (item :: items, rest)
      | _ => none

/-- A key, an equals sign and a value. -/
def readPair?
    (readItem : Reader Value) :
    Reader (List String × Value) := fun text => do
  let (key, rest) ← readKey? text
  match rest with
  | '=' :: rest =>
    let (value, rest) ← readItem (dropGap rest)
    return ((key, value), dropGap rest)
  | _ => none

/-- The pairs of a table in braces after at least one of them is expected. -/
def readPairs?
    (readItem : Reader Value) :
    Nat → Reader (List (List String × Value))
  | 0, _ => none
  | fuel + 1, text => do
    let (pair, rest) ← readPair? readItem text
    match rest with
    | '\x7d' :: rest => return ([pair], rest)
    | ',' :: rest =>
      let (pairs, rest) ← readPairs? readItem fuel rest
      return (pair :: pairs, rest)
    | _ => none

/-- A value that is nested no deeper than the given number of levels. -/
def readValue? : Nat → Reader Value
  | levels, text =>
    match text with
    | '"' :: _ | '\'' :: _ =>
      (readString? text).map fun (content, rest) =>
        (.string (String.ofList content), rest)
    | '[' :: rest =>
      match levels with
      | 0 => none
      | levels + 1 =>
        (readElements? (readValue? levels) (rest.length + 1) rest).map
          fun (elements, rest) => (.array elements, rest)
    | '\x7b' :: rest =>
      match levels with
      | 0 => none
      | levels + 1 =>
        match dropGap rest with
        | '\x7d' :: rest => some (.table [], rest)
        | rest => do
          let (pairs, rest) ← readPairs? (readValue? levels) (rest.length + 1)
            rest
          return (← inlineTable? pairs, rest)
    | 't' :: 'r' :: 'u' :: 'e' :: rest => some (.boolean true, rest)
    | 'f' :: 'a' :: 'l' :: 's' :: 'e' :: rest => some (.boolean false, rest)
    | first :: _ =>
      if first.isDigit || ['+', '-', 'i', 'n'].contains first then
        readNumber? text
      else none
    | [] => none

/-- What follows the end of a line, with a comment before it. -/
def endLine? (text : List Char) : Option (List Char) :=
  match dropGap text with
  | [] => some []
  | '#' :: rest =>
    let (comment, rest) :=
      rest.span fun character => character != '\n' && character != '\r'
    if comment.all isPrintable then
      match rest with
      | [] => some []
      | _ => dropLineEnd? rest
    else none
  | rest => dropLineEnd? rest

/-- One line that is not blank. -/
def readLineOf?
    (draft : Draft)
    (text : List Char) :
    Option (Draft × List Char) := do
  match text with
  | '#' :: _ => return (draft, ← endLine? text)
  | '[' :: '[' :: rest =>
    let (path, rest) ← readKey? rest
    match rest with
    | ']' :: ']' :: rest => return (← draft.open true path, ← endLine? rest)
    | _ => none
  | '[' :: rest =>
    let (path, rest) ← readKey? rest
    match rest with
    | ']' :: rest => return (← draft.open false path, ← endLine? rest)
    | _ => none
  | _ =>
    let ((key, value), rest) ← readPair? (readValue? (nestingLimit - 1)) text
    return (← draft.addKey key value, ← endLine? rest)

/-- All lines, with as many steps as the fuel. -/
def readLines? : Nat → Draft → List Char → Option Draft
  | 0, _, _ => none
  | fuel + 1, draft, text =>
    match dropSpace text with
    | [] => some draft
    | rest => do
      let (draft, rest) ← readLineOf? draft rest
      readLines? fuel draft rest

/-- The entries of the document that a text writes; a byte
order mark is dropped. -/
def read? (text : String) : Option (List (String × Value)) :=
  let characters :=
    match text.toList with
    | '\uFEFF' :: rest => rest
    | rest => rest
  (readLines? (characters.length + 1) .empty characters).map Draft.finish

end TabularSearch.Toml
