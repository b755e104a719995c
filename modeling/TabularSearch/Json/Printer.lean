import TabularSearch.Binary64.Shortest
import TabularSearch.Json.Value
import TabularSearch.Text.Ascii

/-!
# JSON text of values

The compact form has no white space at all; the indented form puts every element
and member on a line of its own.  In strings only the quote, the backslash and
the control characters below the space are escaped.
-/

namespace TabularSearch.Json

open TabularSearch.Text

/-- How a binary number is written: where positional notation
ends on both sides. -/
structure NumberLayout where
  /-- Positional where the point stands at least here, counted
  from the first digit. -/
  leastPlace : Int
  /-- Positional where the point stands at most here. -/
  greatestPlace : Int
  /-- What a whole number ends in. -/
  wholeSuffix : String
  /-- What stands before a positive exponent. -/
  positiveExponent : String

/-- Positional from `0.00001` to below `10 ^ 16`; whole numbers end in `.0`;
exponents have their sign. -/
def numberLayout : NumberLayout where
  leastPlace := -4
  greatestPlace := 16
  wholeSuffix := ".0"
  positiveExponent := "e+"

/-- Digits with the point at a place, in one of the two notations. -/
def NumberLayout.write
    (layout : NumberLayout)
    (digits : List Char)
    (place : Int) :
    List Char :=
  if layout.leastPlace ≤ place ∧ place ≤ layout.greatestPlace then
    if place ≤ 0 then '0' :: '.' :: (List.replicate place.natAbs '0' ++ digits)
    else if digits.length ≤ place.toNat then
      digits ++ List.replicate (place.toNat - digits.length) '0' ++
        layout.wholeSuffix.toList
    else digits.take place.toNat ++ '.' :: digits.drop place.toNat
  else
    let significand :=
      match digits with
      | first :: second :: rest => first :: '.' :: second :: rest
      | short => short
    let exponent := place - 1
    significand ++
      if exponent < 0 then 'e' :: decimalInt exponent
      else layout.positiveExponent.toList ++ decimalInt exponent

/-- The text of a binary number: its shortest decimal. -/
def binaryText (number : Binary64) : List Char :=
  let body :=
    if number.magnitude = 0 then "0.0".toList
    else
      let normal := number.shortest.normal
      numberLayout.write normal.1 normal.2
  if number.negative then '-' :: body else body

/-- The text of a number. -/
def Number.text : Number → List Char
  | .whole value _ => decimalInt value
  | .binary value => binaryText value

/-- The lower case hexadecimal digit of a value below sixteen. -/
def hexDigit (value : Nat) : Char :=
  Nat.digitChar value

/-- What stands for a character inside a string. -/
def escapeChar (character : Char) : List Char :=
  if character = '"' then ['\\', '"']
  else if character = '\\' then ['\\', '\\']
  else if 0x20 ≤ character.toNat then [character]
  else if character.toNat = 0x08 then ['\\', 'b']
  else if character = '\t' then ['\\', 't']
  else if character = '\n' then ['\\', 'n']
  else if character.toNat = 0x0C then ['\\', 'f']
  else if character = '\r' then ['\\', 'r']
  else
    ['\\', 'u', '0', '0', hexDigit (character.toNat / 16),
      hexDigit (character.toNat % 16)]

/-- The text of a string. -/
def stringText (text : String) : List Char :=
  '"' :: (text.toList.flatMap escapeChar ++ ['"'])

mutual

/-- The compact text of a value. -/
def Value.text : Value → List Char
  | .null => "null".toList
  | .bool true => "true".toList
  | .bool false => "false".toList
  | .number number => number.text
  | .string text => stringText text
  | .array elements => '[' :: (elementsText elements ++ [']'])
  | .object members => '{' :: (membersText members ++ ['}'])

/-- The compact texts of elements, with commas between them. -/
def elementsText : List Value → List Char
  | [] => []
  | [element] => element.text
  | element :: rest => element.text ++ ',' :: elementsText rest

/-- The compact texts of members, with commas between them. -/
def membersText : List (String × Value) → List Char
  | [] => []
  | [(name, value)] => stringText name ++ ':' :: value.text
  | (name, value) :: rest =>
    stringText name ++ ':' :: (value.text ++ ',' :: membersText rest)

end

/-- The compact text of a value. -/
def Value.compact (value : Value) : String :=
  String.ofList value.text

/-- A new line at a depth of two spaces each. -/
def newLine (depth : Nat) : List Char :=
  '\n' :: List.replicate (2 * depth) ' '

mutual

/-- The indented text of a value that starts at a depth. -/
def Value.indentedText (depth : Nat) : Value → List Char
  | .null => "null".toList
  | .bool true => "true".toList
  | .bool false => "false".toList
  | .number number => number.text
  | .string text => stringText text
  | .array [] => "[]".toList
  | .array elements =>
    '[' :: (indentedElements (depth + 1) elements ++ newLine depth ++ [']'])
  | .object [] => ['{', '}']
  | .object members =>
    '{' :: (indentedMembers (depth + 1) members ++ newLine depth ++ ['}'])

/-- The indented texts of elements, each on a line of its own. -/
def indentedElements (depth : Nat) : List Value → List Char
  | [] => []
  | [element] => newLine depth ++ element.indentedText depth
  | element :: rest =>
    newLine depth ++
      (element.indentedText depth ++ ',' :: indentedElements depth rest)

/-- The indented texts of members, each on a line of its own. -/
def indentedMembers (depth : Nat) : List (String × Value) → List Char
  | [] => []
  | [(name, value)] =>
    newLine depth ++ (stringText name ++ ':' :: ' ' :: value.indentedText depth)
  | (name, value) :: rest =>
    newLine depth ++
      (stringText name ++
        ':' :: ' ' ::
          (value.indentedText depth ++ ',' :: indentedMembers depth rest))

end

/-- The indented text of a value. -/
def Value.indented (value : Value) : String :=
  String.ofList (value.indentedText 0)

end TabularSearch.Json
