import TabularSearch.Binary64.Basic

/-!
# Reading decimals

Two readings of `significand * 10 ^ exponent`.  `nearest?` rounds once, to the
nearest number.  `scaled?` takes a whole significand of at most 64 bits and
multiplies or divides it by powers of ten that are themselves numbers, with one
rounding at each step; the two agree wherever the significand and the power are
exact, and may differ by the last bit elsewhere.
-/

namespace TabularSearch.Binary64

/-- The largest power of ten that is a finite number is `10 ^ 308`. -/
def largestDecimalExponent : Nat := 308

/-- The number nearest to a power of ten. -/
def powerOfTen? (exponent : Nat) : Option Binary64 :=
  ofRatio? false (Nat.pow 10 exponent) 1

/--
The significand scaled by a power of ten, step by step.  Exponents below
`-308` divide by `10 ^ 308` first and go on with what is left of the
exponent, unless nothing is left of the number; exponents above `308` are too
large for every number but zero.
-/
def scaled?
    (number : Binary64)
    (exponent : Int) :
    Option Binary64 :=
  if exponent.natAbs ≤ largestDecimalExponent then
    (powerOfTen? exponent.natAbs).bind fun power =>
      if 0 ≤ exponent then number.mul? power else number.div? power
  else if number.magnitude = 0 then some number
  else if 0 ≤ exponent then none
  else
    (powerOfTen? largestDecimalExponent).bind fun power =>
      (number.div? power).bind fun smaller =>
        scaled? smaller (exponent + largestDecimalExponent)
termination_by exponent.natAbs
decreasing_by
  simp only [largestDecimalExponent] at *
  omega

/-- How many decimal digits a number has; zero has none. -/
def digitCount (value : Nat) : Nat :=
  if value = 0 then 0 else (Nat.toDigits 10 value).length

/--
The number nearest to `significand * 10 ^ exponent`; none if it is too large.
The leading digit's place decides the extremes without any large power: all
values of `10 ^ 310` or more are too large, all below `10 ^ -330` are zero.
-/
def nearest?
    (negative : Bool)
    (significand : Nat)
    (exponent : Int) :
    Option Binary64 :=
  let place := exponent + digitCount significand
  if significand = 0 then some (zero negative)
  else if 310 < place then none
  else if place < -330 then some (zero negative)
  else if 0 ≤ exponent then
    ofRatio? negative (significand * Nat.pow 10 exponent.natAbs) 1
  else ofRatio? negative significand (Nat.pow 10 exponent.natAbs)

end TabularSearch.Binary64
