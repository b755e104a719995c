/-!
# Finite binary floating point numbers of 64 bits

A finite number is a sign, a significand below `2 ^ 53` and a scale; its value
is the significand times `2 ^ scale`, counted in units of `2 ^ -1074`.  Every
finite number has exactly one such form: a scale above zero needs a
significand of full width.

All arithmetic is exact arithmetic on natural numbers followed by one rounding
to the nearest number, a tie going to the even significand.
`roundUnits_canonical` says that the rounding always ends in the form above, so
the only way to fail is to be too large.
-/

namespace TabularSearch

/-- A finite number: `significand * 2 ^ scale` units of
`2 ^ -1074`, with a sign. -/
structure Binary64 where
  /-- Whether the sign is minus; zero has both signs. -/
  negative : Bool
  /-- The integer significand. -/
  significand : Nat
  /-- How far the significand is shifted above the smallest unit. -/
  scale : Nat
  canonical :
    significand < 0x20000000000000 ∧ scale ≤ 2045 ∧
      (scale = 0 ∨ 0x10000000000000 ≤ significand)
  deriving DecidableEq

namespace Binary64

/-- The quotient rounded to the nearest natural number, a tie
going to the even one. -/
def roundQuotient
    (numerator denominator : Nat) :
    Nat :=
  let quotient := numerator / denominator
  let twice := 2 * (numerator % denominator)
  if twice < denominator then quotient
  else if denominator < twice then quotient + 1
  else quotient + quotient % 2

theorem roundQuotient_le
    (numerator denominator : Nat) :
    roundQuotient numerator denominator ≤ numerator / denominator + 1 := by
  unfold roundQuotient
  dsimp only
  split
  · omega
  · split <;> omega

theorem div_le_roundQuotient
    (numerator denominator : Nat) :
    numerator / denominator ≤ roundQuotient numerator denominator := by
  unfold roundQuotient
  dsimp only
  split
  · omega
  · split <;> omega

/--
The significand and scale nearest to a quotient counted in the smallest
unit.  The scale leaves 53 bits, and a significand that rounds up to
`2 ^ 53` moves to the next scale.
-/
def roundUnits
    (numerator denominator : Nat) :
    Nat × Nat :=
  let scale := Nat.log2 (numerator / denominator) - 52
  let significand := roundQuotient numerator (denominator <<< scale)
  if significand < 0x20000000000000 then (significand, scale)
  else (0x10000000000000, scale + 1)

theorem roundUnits_canonical
    (numerator denominator : Nat) :
    (roundUnits numerator denominator).1 < 0x20000000000000 ∧
      ((roundUnits numerator denominator).2 = 0 ∨
        0x10000000000000 ≤ (roundUnits numerator denominator).1) := by
  unfold roundUnits
  dsimp only
  split
  · rename_i small
    refine ⟨small, ?_⟩
    by_cases zero : Nat.log2 (numerator / denominator) - 52 = 0
    · exact Or.inl zero
    · right
      have nonzero : numerator / denominator ≠ 0 := by
        intro absent
        rw [absent, Nat.log2_zero] at zero
        omega
      have lower := Nat.log2_self_le nonzero
      have below :
          2 ^ 52 ≤
            numerator /
              (denominator <<< (Nat.log2 (numerator / denominator) - 52)) := by
        rw [Nat.shiftLeft_eq, ← Nat.div_div_eq_div_mul]
        rw [Nat.le_div_iff_mul_le (Nat.two_pow_pos _)]
        rw [← Nat.pow_add]
        have exponent :
            52 + (Nat.log2 (numerator / denominator) - 52) =
              Nat.log2 (numerator / denominator) := by
          omega
        rw [exponent]
        exact lower
      exact Nat.le_trans below (div_le_roundQuotient _ _)
  · exact ⟨(by decide : 0x10000000000000 < 0x20000000000000),
      Or.inr (Nat.le_refl _)⟩

/-- The nearest number to a quotient of smallest units; none
if it is too large. -/
def ofUnits?
    (negative : Bool)
    (numerator denominator : Nat) :
    Option Binary64 :=
  if bounded : (roundUnits numerator denominator).2 ≤ 2045 then
    some
      { negative
        significand := (roundUnits numerator denominator).1
        scale := (roundUnits numerator denominator).2
        canonical :=
          ⟨(roundUnits_canonical numerator denominator).1, bounded,
            (roundUnits_canonical numerator denominator).2⟩ }
  else none

/-- The smallest unit is `2 ^ -unitShift`. -/
def unitShift : Nat := 1074

/-- The number of smallest units in one. -/
def unitsPerOne : Nat := 1 <<< unitShift

/-- The nearest number to a quotient; none if it is too large. -/
def ofRatio?
    (negative : Bool)
    (numerator denominator : Nat) :
    Option Binary64 :=
  ofUnits? negative (numerator * unitsPerOne) denominator

/-- Zero with the given sign. -/
def zero (negative : Bool) : Binary64 :=
  { negative, significand := 0, scale := 0, canonical := by decide }

/-- The distance from zero in smallest units. -/
def magnitude (number : Binary64) : Nat :=
  number.significand <<< number.scale

/-- The value in smallest units. -/
def units (number : Binary64) : Int :=
  if number.negative then -(number.magnitude : Int) else number.magnitude

/-- Numbers are ordered by value, so the two zeros are equal. -/
def compareValue
    (left right : Binary64) :
    Ordering :=
  compare left.units right.units

/-- The number with the other sign. -/
def negate (number : Binary64) : Binary64 :=
  { number with negative := !number.negative }

/-- The nearest number to a product; none if it is too large. -/
def mul?
    (left right : Binary64) :
    Option Binary64 :=
  ofUnits? (left.negative != right.negative)
    (left.magnitude * right.magnitude) unitsPerOne

/-- The nearest number to a quotient; none if it is too large
or the divisor is zero. -/
def div?
    (left right : Binary64) :
    Option Binary64 :=
  if right.magnitude = 0 then none
  else
    ofUnits? (left.negative != right.negative)
      (left.magnitude * unitsPerOne) right.magnitude

theorem roundUnits_scale_le
    {numerator denominator bound : Nat}
    (small : numerator / denominator < 1 <<< bound) :
    (roundUnits numerator denominator).2 ≤ bound - 52 + 1 := by
  have logarithm : Nat.log2 (numerator / denominator) ≤ bound := by
    by_cases zero : numerator / denominator = 0
    · rw [zero, Nat.log2_zero]
      omega
    · have lower := Nat.log2_self_le zero
      rw [Nat.shiftLeft_eq, Nat.one_mul] at small
      have strict := Nat.lt_of_le_of_lt lower small
      exact Nat.le_of_lt ((Nat.pow_lt_pow_iff_right (by decide)).1 strict)
  unfold roundUnits
  dsimp only
  split <;> simp only <;> omega

theorem mul_one_shiftLeft_div_one_lt
    {value : Nat}
    (small : value < 0x10000000000000000)
    (shift : Nat) :
    value * 1 <<< shift / 1 < 1 <<< (64 + shift) := by
  rw [Nat.div_one, Nat.shiftLeft_eq, Nat.shiftLeft_eq, Nat.one_mul, Nat.one_mul,
    Nat.pow_add]
  exact Nat.mul_lt_mul_of_pos_right small (Nat.two_pow_pos _)

theorem word_scale_le
    {value : Nat}
    (small : value < 0x10000000000000000) :
    (roundUnits (value * unitsPerOne) 1).2 ≤ 2045 :=
  Nat.le_trans
    (roundUnits_scale_le (mul_one_shiftLeft_div_one_lt small unitShift))
    (by decide)

/-- The nearest number to a whole number of at most 64 bits,
which is never too large. -/
def ofWord
    (negative : Bool)
    (value : Nat)
    (small : value < 0x10000000000000000) :
    Binary64 :=
  { negative
    significand := (roundUnits (value * unitsPerOne) 1).1
    scale := (roundUnits (value * unitsPerOne) 1).2
    canonical :=
      ⟨(roundUnits_canonical _ _).1, word_scale_le small,
        (roundUnits_canonical _ _).2⟩ }

end Binary64

end TabularSearch
