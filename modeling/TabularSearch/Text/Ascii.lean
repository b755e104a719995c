/-!
# ASCII letters and digits

Case folding and digit values on the ASCII range.  Everything else is
left as it is, which is what the names, schemes and levels compared
with these functions need.
-/

namespace TabularSearch.Text

/-- The text with `A` to `Z` in lower case. -/
def lowerAscii (text : String) : String :=
  String.ofList (text.toList.map Char.toLower)

/-- Whether two texts agree up to the case of `A` to `Z`. -/
def equalIgnoringCase (left right : String) : Bool :=
  left.toList.map Char.toLower == right.toList.map Char.toLower

/-- The value of a hexadecimal digit of either case. -/
def hexValue? (character : Char) : Option Nat :=
  let code := character.toNat
  if '0' ≤ character ∧ character ≤ '9' then some (code - 48)
  else if 'a' ≤ character ∧ character ≤ 'f' then some (code - 87)
  else if 'A' ≤ character ∧ character ≤ 'F' then some (code - 55)
  else none

/-- The value of a decimal digit. -/
def digitValue? (character : Char) : Option Nat :=
  if character.isDigit then some (character.toNat - 48) else none

/-- The number that a row of decimal digits writes. -/
def decimalValue (digits : List Char) : Nat :=
  digits.foldl (fun value digit => value * 10 + (digit.toNat - 48)) 0

/-- The number written by a non-empty row of decimal digits and nothing else. -/
def decimalNat? (characters : List Char) : Option Nat :=
  if characters ≠ [] ∧ characters.all Char.isDigit then
    some (decimalValue characters)
  else none

/-- Decimal digits after an optional plus sign. -/
def unsignedNat? : List Char → Option Nat
  | '+' :: digits => decimalNat? digits
  | digits => decimalNat? digits

/-- Decimal digits after an optional sign. -/
def signedInt? : List Char → Option Int
  | '-' :: digits => (decimalNat? digits).map fun value => -(value : Int)
  | digits => (unsignedNat? digits).map Int.ofNat

/-- The decimal digits of a number, without leading zeros. -/
def decimalDigits (value : Nat) : List Char :=
  Nat.toDigits 10 value

/-- The decimal digits of a number, with zeros in front up to
the given width. -/
def paddedDigits
    (width : Nat)
    (value : Nat) :
    List Char :=
  let digits := decimalDigits value
  List.replicate (width - digits.length) '0' ++ digits

/-- The decimal digits of an integer, with a minus sign where it is negative. -/
def decimalInt (value : Int) : List Char :=
  if value < 0 then '-' :: decimalDigits value.natAbs
  else decimalDigits value.natAbs

end TabularSearch.Text
