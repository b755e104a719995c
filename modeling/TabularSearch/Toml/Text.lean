import TabularSearch.Text.Ascii

/-!
# TOML strings and keys

Strings are basic, with escapes, or literal, without; both have a form of
several lines, which drops a line end right after its opening quotes and
writes every line end as a line feed.  Keys are bare words or quoted strings
of one line, joined by points.
-/

namespace TabularSearch.Toml

open TabularSearch.Text

/-- A blank or a tab. -/
def isGap (character : Char) : Bool :=
  character == ' ' || character == '\t'

/-- The text without the blanks and tabs it starts with. -/
def dropGap (text : List Char) : List Char :=
  text.dropWhile isGap

/-- Characters that may stand in comments and strings: no
controls but the tab. -/
def isPrintable (character : Char) : Bool :=
  character == '\t' || (0x20 ≤ character.toNat && character.toNat != 0x7F)

/-- What follows a line end at the start of a text. -/
def dropLineEnd? : List Char → Option (List Char)
  | '\n' :: rest => some rest
  | '\r' :: '\n' :: rest => some rest
  | _ => none

/-- The text without a line end it starts with. -/
def dropFirstLineEnd (text : List Char) : List Char :=
  (dropLineEnd? text).getD text

/-- The text without the blanks, tabs and line ends it starts with. -/
def dropSpace : List Char → List Char
  | '\r' :: '\n' :: rest => dropSpace rest
  | character :: rest =>
    if isGap character || character == '\n' then dropSpace rest
    else character :: rest
  | [] => []

/-- The character with a code point written in hexadecimal digits. -/
def scalar? (digits : List Char) : Option Char := do
  let values ← digits.mapM hexValue?
  let code := values.foldl (fun code value => code * 16 + value) 0
  if code.isValidChar then some (Char.ofNat code) else none

/-- The character of an escape after its backslash, and the rest. -/
def readEscape? : List Char → Option (Char × List Char)
  | 'b' :: rest => some ('\x08', rest)
  | 't' :: rest => some ('\t', rest)
  | 'n' :: rest => some ('\n', rest)
  | 'f' :: rest => some ('\x0C', rest)
  | 'r' :: rest => some ('\r', rest)
  | '"' :: rest => some ('"', rest)
  | '\\' :: rest => some ('\\', rest)
  | 'u' :: rest =>
    if rest.length < 4 then none
    else (scalar? (rest.take 4)).map fun character => (character, rest.drop 4)
  | 'U' :: rest =>
    if rest.length < 8 then none
    else (scalar? (rest.take 8)).map fun character => (character, rest.drop 8)
  | _ => none

/-- The rest of a basic string of one line, with at most as
many steps as the fuel. -/
def readBasic? : Nat → List Char → Option (List Char × List Char)
  | 0, _ => none
  | _ + 1, '"' :: rest => some ([], rest)
  | fuel + 1, '\\' :: rest => do
    let (character, rest) ← readEscape? rest
    let (content, rest) ← readBasic? fuel rest
    return (character :: content, rest)
  | fuel + 1, character :: rest =>
    if isPrintable character then
      (readBasic? fuel rest).map fun (content, rest) =>
        (character :: content, rest)
    else none
  | _ + 1, [] => none

/-- The rest of a literal string of one line. -/
def readLiteral? : List Char → Option (List Char × List Char)
  | '\'' :: rest => some ([], rest)
  | character :: rest =>
    if isPrintable character then
      (readLiteral? rest).map fun (content, rest) =>
        (character :: content, rest)
    else none
  | [] => none

/-- The end of a string of several lines: up to two more quotes
belong to the string. -/
def closing?
    (quote : Char)
    (text : List Char) :
    Option (List Char × List Char) :=
  let count := ((text.take 5).takeWhile (· == quote)).length
  if 3 ≤ count then some (List.replicate (count - 3) quote, text.drop count)
  else none

/-- What follows a backslash that ends its line, and all white
space after it. -/
def joinedLine? (text : List Char) : Option (List Char) :=
  (dropLineEnd? (dropGap text)).map dropSpace

/-- The rest of a basic string of several lines. -/
def readBasicLines? : Nat → List Char → Option (List Char × List Char)
  | 0, _ => none
  | fuel + 1, text =>
    match closing? '"' text with
    | some closed => some closed
    | none =>
      match text with
      | '\\' :: rest =>
        match joinedLine? rest with
        | some rest => readBasicLines? fuel rest
        | none => do
          let (character, rest) ← readEscape? rest
          let (content, rest) ← readBasicLines? fuel rest
          return (character :: content, rest)
      | '\r' :: '\n' :: rest | '\n' :: rest =>
        (readBasicLines? fuel rest).map fun (content, rest) =>
          ('\n' :: content, rest)
      | character :: rest =>
        if isPrintable character then
          (readBasicLines? fuel rest).map fun (content, rest) =>
            (character :: content, rest)
        else none
      | [] => none

/-- The rest of a literal string of several lines. -/
def readLiteralLines? : Nat → List Char → Option (List Char × List Char)
  | 0, _ => none
  | fuel + 1, text =>
    match closing? '\'' text with
    | some closed => some closed
    | none =>
      match text with
      | '\r' :: '\n' :: rest | '\n' :: rest =>
        (readLiteralLines? fuel rest).map fun (content, rest) =>
          ('\n' :: content, rest)
      | character :: rest =>
        if isPrintable character then
          (readLiteralLines? fuel rest).map fun (content, rest) =>
            (character :: content, rest)
        else none
      | [] => none

/-- A string of one line from its opening quote on. -/
def readLine? : List Char → Option (List Char × List Char)
  | '"' :: rest => readBasic? (rest.length + 1) rest
  | '\'' :: rest => readLiteral? rest
  | _ => none

/-- A string of any form from its opening quotes on. -/
def readString? : List Char → Option (List Char × List Char)
  | '"' :: '"' :: '"' :: rest =>
    readBasicLines? (rest.length + 1) (dropFirstLineEnd rest)
  | '\'' :: '\'' :: '\'' :: rest =>
    readLiteralLines? (rest.length + 1) (dropFirstLineEnd rest)
  | text => readLine? text

/-- Characters of bare keys. -/
def isBare (character : Char) : Bool :=
  character.isAlphanum || character == '_' || character == '-'

/-- One part of a key. -/
def readKeyPart? (text : List Char) : Option (String × List Char) :=
  match text with
  | '"' :: _ | '\'' :: _ =>
    (readLine? text).map fun (content, rest) => (String.ofList content, rest)
  | _ =>
    let (bare, rest) := text.span isBare
    if bare.isEmpty then none else some (String.ofList bare, rest)

/-- The parts of a key with points between them and blanks around them. -/
def readKeyParts? : Nat → List Char → Option (List String × List Char)
  | 0, _ => none
  | fuel + 1, text => do
    let (part, rest) ← readKeyPart? (dropGap text)
    match dropGap rest with
    | '.' :: rest => do
      let (parts, rest) ← readKeyParts? fuel rest
      return (part :: parts, rest)
    | rest => return ([part], rest)

/-- The most levels that values and keys may be nested. -/
def nestingLimit : Nat := 80

/-- A key, with the blanks around it. -/
def readKey? (text : List Char) : Option (List String × List Char) :=
  (readKeyParts? (text.length + 1) text).filter fun (parts, _) =>
    parts.length < nestingLimit

end TabularSearch.Toml
