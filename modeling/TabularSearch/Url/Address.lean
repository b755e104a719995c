import TabularSearch.Text.Ascii

/-!
# Internet addresses

Addresses of four bytes are read from up to four numbers, each decimal, octal or
hexadecimal, of which the last fills the bytes that are left.  Addresses of
eight pieces are read with one run of zero pieces left out, and are written with
the longest run left out.
-/

namespace TabularSearch.Url

open TabularSearch.Text

/-- The parts of a text between separators; there is always one
more than separators. -/
def splitAt
    (separator : Char)
    (text : List Char) :
    List (List Char) :=
  text.foldr
    (fun character parts =>
      if character = separator then [] :: parts
      else
        match parts with
        | [] => [[character]]
        | part :: rest => (character :: part) :: rest)
    [[]]

/-- The number that digits of a base write. -/
def digitsValue? (base : Nat) (digits : List Char) : Option Nat :=
  digits.foldl
    (fun value digit => do
      let value ← value
      let digit ← hexValue? digit
      if digit < base then some (value * base + digit) else none)
    (some 0)

/-- One number of an address: `0x` starts hexadecimal and `0` octal digits. -/
def addressNumber? : List Char → Option Nat
  | [] => none
  | '0' :: 'x' :: digits | '0' :: 'X' :: digits => digitsValue? 16 digits
  | '0' :: digit :: digits => digitsValue? 8 (digit :: digits)
  | digits => digitsValue? 10 digits

/-- The parts of a host name without the empty one behind a final point. -/
def nameParts (name : List Char) : List (List Char) :=
  let parts := splitAt '.' name
  if parts.length > 1 ∧ parts.getLast? = some [] then parts.dropLast else parts

/-- Whether a host name has to be an address because its last
part is a number. -/
def endsInNumber (name : List Char) : Bool :=
  match (nameParts name).getLast? with
  | none | some [] => false
  | some last => last.all Char.isDigit || (addressNumber? last).isSome

/-- The address of four bytes that a host name writes. -/
def fourBytes? (name : List Char) : Option Nat := do
  let numbers ← (nameParts name).mapM addressNumber?
  let last ← numbers.getLast?
  let first := numbers.dropLast
  if numbers.length > 4 || first.any (· > 255) ||
    last ≥ 1 <<< (8 * (5 - numbers.length)) then none
  else
    return last +
      ((first.zipIdx.map fun (number, place) =>
        number <<< (8 * (3 - place))).foldl (· + ·) 0)

/-- An address of four bytes in four decimal numbers. -/
def fourBytesText (address : Nat) : List Char :=
  ['.'].intercalate <|
    [address / 0x1000000 % 256, address / 0x10000 % 256, address / 256 % 256,
      address % 256].map decimalDigits

/-- A piece of one to four hexadecimal digits. -/
def piece? (digits : List Char) : Option Nat :=
  if digits ≠ [] ∧ digits.length ≤ 4 then digitsValue? 16 digits else none

/-- A decimal number below 256 without leading zeros. -/
def plainByte? (digits : List Char) : Option Nat :=
  match digits with
  | '0' :: _ :: _ => none
  | _ =>
    if digits.length ≤ 3 then (decimalNat? digits).filter (· < 256) else none

/-- The two pieces of four decimal numbers at the end of an address. -/
def embedded? (text : List Char) : Option (List Nat) :=
  match (splitAt '.' text).mapM plainByte? with
  | some [first, second, third, fourth] =>
    some [first * 256 + second, third * 256 + fourth]
  | _ => none

/-- The pieces between colons; the last may be four decimal numbers
where that is allowed. -/
def pieces? (text : List Char) (endsAddress : Bool) : Option (List Nat) :=
  match text with
  | [] => some []
  | _ => do
    let parts := splitAt ':' text
    let last ← parts.getLast?
    let first ← parts.dropLast.mapM piece?
    if endsAddress && last.contains '.' then return first ++ (← embedded? last)
    else return first ++ [← piece? last]

/-- The parts before and after the first two colons in a row. -/
def splitAtRun? : List Char → Option (List Char × List Char)
  | ':' :: ':' :: rest => some ([], rest)
  | character :: rest =>
    (splitAtRun? rest).map fun (before, after) => (character :: before, after)
  | [] => none

/-- The eight pieces that a text writes. -/
def eightPieces? (text : List Char) : Option (List Nat) := do
  match splitAtRun? text with
  | none =>
    let pieces ← pieces? text true
    if pieces.length = 8 then return pieces else none
  | some (before, after) =>
    let before ← pieces? before false
    let after ← pieces? after true
    if before.length + after.length ≤ 7 then
      return before ++ List.replicate (8 - (before.length + after.length)) 0 ++
        after
    else none

/-- The length of the run of zeros at the start. -/
def zeroRun (pieces : List Nat) : Nat :=
  (pieces.takeWhile (· == 0)).length

/-- The place and length of the first longest run of at least
two zero pieces. -/
def longestRun (pieces : List Nat) : Option (Nat × Nat) :=
  (List.range pieces.length).foldl
    (fun found place =>
      let length := zeroRun (pieces.drop place)
      let best := (found.map Prod.snd).getD 1
      if best < length then some (place, length) else found)
    none

/-- Eight pieces with the longest run of zeros left out. -/
def eightPiecesText (pieces : List Nat) : List Char :=
  let write (pieces : List Nat) : List Char :=
    [':'].intercalate (pieces.map fun piece => Nat.toDigits 16 piece)
  match longestRun pieces with
  | none => write pieces
  | some (place, length) =>
    write (pieces.take place) ++ [':', ':'] ++
      write (pieces.drop (place + length))

end TabularSearch.Url
