import TabularSearch.Binary64.Decimal

/-!
# The shortest decimal that reads back

A number stands for the interval of reals that round to it; the ends belong to
it when the significand is even.  On the grid of the multiples of `10 ^ k` only
the two neighbours of the number can be the nearest point in that interval.
`shortest` tries the grids of one digit, two digits and so on, takes the first
that hits the interval, of two hits the nearer one, and of two equally near hits
the one with the even last digit.
-/

namespace TabularSearch.Binary64

/-- A decimal `digits * 10 ^ exponent`. -/
structure Decimal where
  digits : Nat
  exponent : Int
  deriving DecidableEq

/-- The number of digits before the decimal point of a positive number; zero or
below for a number less than one, counting the zeros after the point. -/
def pointPlace (number : Binary64) : Int :=
  let whole := number.magnitude / unitsPerOne
  if 0 < whole then digitCount whole
  else 1 - (digitCount ((unitsPerOne - 1) / number.magnitude) : Int)

/-- Four times the half width of the rounding interval below
the number, in units. -/
def marginBelow (number : Binary64) : Nat :=
  if number.significand = 0x10000000000000 ∧ 0 < number.scale then
    1 <<< number.scale
  else 2 <<< number.scale

/-- Four times the half width of the rounding interval above
the number, in units. -/
def marginAbove (number : Binary64) : Nat :=
  2 <<< number.scale

/-- The nearest point of the grid of multiples of
`10 ^ exponent` that reads back. -/
def onGrid?
    (number : Binary64)
    (exponent : Int) :
    Option Decimal :=
  let stretch := if exponent < 0 then Nat.pow 10 exponent.natAbs else 1
  let numerator := 4 * number.magnitude * stretch
  let denominator :=
    4 * unitsPerOne * (if exponent < 0 then 1 else Nat.pow 10 exponent.natAbs)
  let below := numerator / denominator
  let distanceBelow := numerator % denominator
  let distanceAbove := denominator - distanceBelow
  let inclusive := number.significand % 2 == 0
  let within (distance margin : Nat) : Bool :=
    distance < margin * stretch || (inclusive && distance == margin * stretch)
  let hitsBelow := within distanceBelow number.marginBelow
  let hitsAbove := within distanceAbove number.marginAbove
  match hitsBelow, hitsAbove with
  | false, false => none
  | true, false => some ⟨below, exponent⟩
  | false, true => some ⟨below + 1, exponent⟩
  | true, true =>
    if distanceBelow < distanceAbove then some ⟨below, exponent⟩
    else if distanceAbove < distanceBelow then some ⟨below + 1, exponent⟩
    else some ⟨below + below % 2, exponent⟩

/-- Seventeen digits always suffice. -/
def mostDigits : Nat := 17

/-- The shortest decimal that reads back as the number, without its sign. -/
def shortest (number : Binary64) : Decimal :=
  if number.magnitude = 0 then ⟨0, 0⟩
  else
    let place := number.pointPlace
    match (List.range mostDigits).findSome? fun count =>
        number.onGrid? (place - (count + 1 : Nat)) with
    | some decimal => decimal
    | none => ⟨number.magnitude, -1074⟩

/-- The digits of a decimal without trailing zeros, and the place of its point:
the value is `0.d₁d₂… * 10 ^ place`. -/
def Decimal.normal (decimal : Decimal) : List Char × Int :=
  let digits := Nat.toDigits 10 decimal.digits
  ((digits.reverse.dropWhile (· == '0')).reverse,
    decimal.exponent + digits.length)

end TabularSearch.Binary64
