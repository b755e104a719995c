import Mathlib.Algebra.Order.Field.Rat
import Mathlib.Algebra.Order.Field.Basic
import Mathlib.Data.Nat.Dist
import Mathlib.Tactic.Linarith
import TabularSearch.Proofs.Binary64.Whole

/-!
# The binary number nearest to a whole number

A whole number of 64 bits becomes the binary number nearest to it, and of two
equally near ones that with the even significand.  `roundWhole` says by
arithmetic on whole numbers which one that is: of the bits of a number the first
53 are kept, rounded by the rest of them.  Since nearest numbers never change
their order, rounding keeps the order of whole numbers, except that neighbours
may fall together; a number stays what it is exactly if it is a binary number
itself, as all numbers up to `2 ^ 53` are.
-/

namespace TabularSearch

open TabularSearch.Json

namespace Binary64

/-! ## Rounded quotients -/

/-- A quotient is rounded down below a half, up above it, and to
the even side at a half. -/
theorem roundQuotient_cases (numerator denominator : Nat) :
    (2 * (numerator % denominator) < denominator ∧
        roundQuotient numerator denominator = numerator / denominator) ∨
      (denominator < 2 * (numerator % denominator) ∧
        roundQuotient numerator denominator = numerator / denominator + 1) ∨
      (2 * (numerator % denominator) = denominator ∧
        roundQuotient numerator denominator =
          numerator / denominator + numerator / denominator % 2) := by
  rw [roundQuotient]
  split
  · rename_i low
    exact Or.inl ⟨low, rfl⟩
  · rename_i notLow
    split
    · rename_i high
      exact Or.inr (Or.inl ⟨high, rfl⟩)
    · rename_i notHigh
      exact Or.inr (Or.inr ⟨by omega, rfl⟩)

/-- A multiple lies at or below the floor of a quotient, or at
or above the next one. -/
theorem mul_le_or_le_mul (quotient factor denominator : Nat) :
    factor * denominator ≤ quotient * denominator ∧ factor ≤ quotient ∨
      quotient * denominator + denominator ≤ factor * denominator ∧
        quotient < factor := by
  rcases Nat.lt_or_ge quotient factor with above | below
  · refine Or.inr ⟨?_, above⟩
    rw [← Nat.succ_mul]
    exact Nat.mul_le_mul_right denominator above
  · exact Or.inl ⟨Nat.mul_le_mul_right denominator below, below⟩

section Quotients

variable {numerator denominator factor : Nat}

/-- No multiple is nearer than that of the rounded quotient. -/
theorem dist_roundQuotient_le
    (positive : 0 < denominator)
    (factor : Nat) :
    Nat.dist numerator (roundQuotient numerator denominator * denominator) ≤
      Nat.dist numerator (factor * denominator) := by
  have parts := Nat.div_add_mod' numerator denominator
  have rest := Nat.mod_lt numerator positive
  have sides := mul_le_or_le_mul (numerator / denominator) factor denominator
  unfold Nat.dist
  rcases roundQuotient_cases numerator denominator with
    ⟨low, rounded⟩ | ⟨high, rounded⟩ | ⟨half, rounded⟩
  · rw [rounded]
    omega
  · rw [rounded, Nat.succ_mul]
    omega
  · rw [rounded]
    rcases Nat.mod_two_eq_zero_or_one (numerator / denominator) with even | odd
    · rw [even, Nat.add_zero]
      omega
    · rw [odd, Nat.succ_mul]
      omega

/-- Where another multiple is as near, the rounded quotient is even. -/
theorem roundQuotient_even
    (positive : 0 < denominator)
    (tie :
      Nat.dist numerator (factor * denominator) =
        Nat.dist numerator (roundQuotient numerator denominator * denominator))
    (other : factor ≠ roundQuotient numerator denominator) :
    roundQuotient numerator denominator % 2 = 0 := by
  have parts := Nat.div_add_mod' numerator denominator
  have rest := Nat.mod_lt numerator positive
  unfold Nat.dist at tie
  rcases roundQuotient_cases numerator denominator with
    ⟨low, rounded⟩ | ⟨high, rounded⟩ | ⟨half, rounded⟩
  · rw [rounded] at tie other
    rcases Nat.lt_or_gt_of_ne other with below | above
    · have gap := Nat.mul_le_mul_right denominator (Nat.succ_le_of_lt below)
      rw [Nat.succ_mul] at gap
      omega
    · have gap := Nat.mul_le_mul_right denominator (Nat.succ_le_of_lt above)
      rw [Nat.succ_mul] at gap
      omega
  · rw [rounded, Nat.succ_mul] at tie
    rw [rounded] at other
    rcases Nat.lt_or_gt_of_ne other with below | above
    · have gap := Nat.mul_le_mul_right denominator (Nat.le_of_lt_succ below)
      omega
    · have gap := Nat.mul_le_mul_right denominator (Nat.succ_le_of_lt above)
      rw [Nat.succ_mul, Nat.succ_mul] at gap
      omega
  · omega

theorem roundQuotient_mul_right
    (positive : 0 < factor) :
    roundQuotient (numerator * factor) (denominator * factor) =
      roundQuotient numerator denominator := by
  have double :
      2 * (numerator % denominator * factor) =
        2 * (numerator % denominator) * factor :=
    (Nat.mul_assoc _ _ _).symm
  simp only [roundQuotient, Nat.mul_div_mul_right _ _ positive,
    Nat.mul_mod_mul_right, double, Nat.mul_lt_mul_right positive]

end Quotients

/-! ## The first 53 bits -/

/-- How many bits of a number are beyond its first 53. -/
def spareBits (number : Nat) : Nat :=
  Nat.log2 number - 52

/-- The number with its spare bits rounded away. -/
def roundNat (number : Nat) : Nat :=
  roundQuotient number (1 <<< spareBits number) * 1 <<< spareBits number

theorem one_shiftLeft_pos (bits : Nat) : 0 < 1 <<< bits := by
  rw [Nat.shiftLeft_eq, Nat.one_mul]
  exact Nat.two_pow_pos bits

theorem one_shiftLeft_add (bits more : Nat) :
    1 <<< (bits + more) = 1 <<< bits * 1 <<< more := by
  rw [Nat.shiftLeft_eq, Nat.shiftLeft_eq, Nat.shiftLeft_eq, Nat.one_mul,
    Nat.one_mul, Nat.one_mul, Nat.pow_add]

theorem shiftLeft_eq_mul (number bits : Nat) :
    number <<< bits = number * 1 <<< bits := by
  rw [Nat.shiftLeft_eq, Nat.shiftLeft_eq, Nat.one_mul]

/-- A number with spare bits has all of its first 53 bits. -/
theorem le_of_spareBits_pos
    {number : Nat}
    (spare : 0 < spareBits number) :
    0x10000000000000 * 1 <<< spareBits number ≤ number := by
  have nonzero : number ≠ 0 := by
    intro zero
    rw [spareBits, zero, Nat.log2_zero] at spare
    omega
  have width : Nat.log2 number = 52 + spareBits number := by
    rw [spareBits] at spare ⊢
    omega
  have least := Nat.log2_self_le nonzero
  rwa [width, Nat.pow_add, ← Nat.one_mul (2 ^ spareBits number),
    ← Nat.shiftLeft_eq] at least

/-- The first 53 bits, rounded by the others, need at most one bit more. -/
theorem roundQuotient_spareBits_le (number : Nat) :
    roundQuotient number (1 <<< spareBits number) ≤ 0x20000000000000 := by
  have below := shiftRight_log2_lt number
  have rounded := roundQuotient_le number (1 <<< spareBits number)
  rw [Nat.shiftLeft_eq, Nat.one_mul] at rounded ⊢
  rw [Nat.shiftRight_eq_div_pow] at below
  rw [spareBits] at rounded ⊢
  omega

theorem roundUnits_one (number : Nat) :
    roundUnits number 1 =
      if roundQuotient number (1 <<< spareBits number) < 0x20000000000000 then
        (roundQuotient number (1 <<< spareBits number), spareBits number)
      else (0x10000000000000, spareBits number + 1) := by
  rw [roundUnits, Nat.div_one, spareBits]

/-- What a number of units is rounded to. -/
theorem shiftLeft_roundUnits_eq (number : Nat) :
    (roundUnits number 1).1 <<< (roundUnits number 1).2 = roundNat number := by
  have most := roundQuotient_spareBits_le number
  rw [roundNat, roundUnits_one]
  split
  · exact shiftLeft_eq_mul _ _
  · rename_i full
    have carried :
        roundQuotient number (1 <<< spareBits number) =
          0x20000000000000 := by omega
    have half : 0x10000000000000 * 1 <<< 1 = 0x20000000000000 := by decide
    dsimp only
    rw [carried, shiftLeft_eq_mul, Nat.add_comm, one_shiftLeft_add,
      ← Nat.mul_assoc, half]

theorem roundUnits_even
    {number : Nat}
    (even : roundQuotient number (1 <<< spareBits number) % 2 = 0) :
    (roundUnits number 1).1 % 2 = 0 := by
  rw [roundUnits_one]
  split
  · exact even
  · exact (by decide : 0x10000000000000 % 2 = 0)

/-- Beside a number, a binary number has nothing below the number's spare
bits, or it is small. -/
theorem magnitude_cases (number : Nat) (other : Binary64) :
    (∃ factor, other.magnitude = factor * 1 <<< spareBits number) ∨
      other.magnitude < 0x10000000000000 * 1 <<< spareBits number ∧
        0x10000000000000 * 1 <<< spareBits number ≤ number := by
  rcases Nat.lt_or_ge other.scale (spareBits number) with finer | coarser
  · refine Or.inr ⟨?_, le_of_spareBits_pos (by omega)⟩
    obtain ⟨gap, width⟩ := Nat.exists_eq_add_of_lt finer
    have apart :
        1 <<< spareBits number = 1 <<< gap * 1 <<< 1 * 1 <<< other.scale := by
      rw [← one_shiftLeft_add, ← one_shiftLeft_add, width]
      congr 1
      omega
    have wide : 2 ≤ 1 <<< gap * 1 <<< 1 :=
      Nat.le_mul_of_pos_left 2 (one_shiftLeft_pos gap)
    rw [apart, ← Nat.mul_assoc, magnitude, shiftLeft_eq_mul]
    refine Nat.mul_lt_mul_of_pos_right ?_ (one_shiftLeft_pos other.scale)
    have short := other.canonical.1
    omega
  · refine Or.inl
      ⟨other.significand * 1 <<< (other.scale - spareBits number), ?_⟩
    rw [magnitude, shiftLeft_eq_mul, Nat.mul_assoc, ← one_shiftLeft_add]
    congr 2
    omega

/-- No binary number is nearer to a number than what it is rounded to. -/
theorem dist_roundNat_le (number : Nat) (other : Binary64) :
    Nat.dist number (roundNat number) ≤ Nat.dist number other.magnitude := by
  have positive := one_shiftLeft_pos (spareBits number)
  rcases magnitude_cases number other with ⟨factor, multiple⟩ | ⟨small, large⟩
  · rw [multiple]
    exact dist_roundQuotient_le positive factor
  · have floor : Nat.dist number (roundNat number) ≤
        Nat.dist number (0x10000000000000 * 1 <<< spareBits number) :=
      dist_roundQuotient_le positive _
    unfold Nat.dist at floor ⊢
    omega

/-- Where another binary number is as near, the significand is even. -/
theorem roundUnits_even_of_tie
    {number : Nat}
    {other : Binary64}
    (tie : Nat.dist number other.magnitude = Nat.dist number (roundNat number))
    (different : other.magnitude ≠ roundNat number) :
    (roundUnits number 1).1 % 2 = 0 := by
  have positive := one_shiftLeft_pos (spareBits number)
  rcases magnitude_cases number other with ⟨factor, multiple⟩ | ⟨small, large⟩
  · rw [multiple] at tie different
    refine roundUnits_even
      (roundQuotient_even positive tie fun same => different ?_)
    rw [same, roundNat]
  · have floor : Nat.dist number (roundNat number) ≤
        Nat.dist number (0x10000000000000 * 1 <<< spareBits number) :=
      dist_roundQuotient_le positive _
    unfold Nat.dist at floor tie
    omega

theorem roundNat_of_lt
    {number : Nat}
    (short : number < 0x20000000000000) :
    roundNat number = number := by
  have none : spareBits number = 0 := by
    rw [spareBits]
    by_cases zero : number = 0
    · rw [zero, Nat.log2_zero]
    · have bits := (Nat.log2_lt zero).2 (show number < 2 ^ 53 from short)
      omega
  rw [roundNat, none, Nat.shiftLeft_zero, Nat.mul_one,
    roundQuotient_of_dvd Nat.one_pos (Nat.one_dvd number), Nat.div_one]

theorem log2_mul_shiftLeft
    {number : Nat}
    (nonzero : number ≠ 0)
    (shift : Nat) :
    Nat.log2 (number * 1 <<< shift) = Nat.log2 number + shift := by
  have positive : 0 < 2 ^ shift := Nat.two_pow_pos shift
  rw [Nat.shiftLeft_eq, Nat.one_mul,
    Nat.log2_eq_iff (Nat.mul_ne_zero nonzero positive.ne'), Nat.add_right_comm,
    Nat.pow_add, Nat.pow_add]
  exact ⟨Nat.mul_le_mul_right _ (Nat.log2_self_le nonzero),
    Nat.mul_lt_mul_of_pos_right Nat.lt_log2_self positive⟩

/-- Counting in smaller units, by a power of two, does not change
what is rounded away. -/
theorem roundNat_mul_shiftLeft (number shift : Nat) :
    roundNat (number * 1 <<< shift) = roundNat number * 1 <<< shift := by
  rcases Nat.lt_or_ge number 0x20000000000000 with short | long
  · rw [← shiftLeft_roundUnits_eq, shiftLeft_roundUnits short,
      roundNat_of_lt short]
  · have nonzero : number ≠ 0 := by omega
    have width : 52 ≤ Nat.log2 number := by
      have least := (Nat.le_log2 nonzero).2 (show 2 ^ 53 ≤ number from long)
      omega
    have spare :
        spareBits (number * 1 <<< shift) = spareBits number + shift := by
      rw [spareBits, spareBits, log2_mul_shiftLeft nonzero]
      omega
    rw [roundNat, roundNat, spare, one_shiftLeft_add,
      roundQuotient_mul_right (one_shiftLeft_pos shift), Nat.mul_assoc]

/-- Stated for any parts, so that reading one never evaluates the others. -/
theorem significand_mk
    {negative : Bool}
    {significand scale : Nat}
    (canonical :
      significand < 0x20000000000000 ∧ scale ≤ 2045 ∧
        (scale = 0 ∨ 0x10000000000000 ≤ significand)) :
    (mk negative significand scale canonical).significand = significand :=
  rfl

theorem significand_ofWord
    (negative : Bool)
    {value : Nat}
    (small : value < 0x10000000000000000) :
    (ofWord negative value small).significand =
      (roundUnits (value * unitsPerOne) 1).1 := by
  rw [ofWord, significand_mk]

theorem roundNat_unitsPerOne (number : Nat) :
    roundNat (number * unitsPerOne) = roundNat number * unitsPerOne :=
  roundNat_mul_shiftLeft number unitShift

theorem magnitude_ofWord_eq
    (negative : Bool)
    {value : Nat}
    (small : value < 0x10000000000000000) :
    (ofWord negative value small).magnitude = roundNat value * unitsPerOne := by
  rw [ofWord, magnitude_mk, shiftLeft_roundUnits_eq, roundNat_unitsPerOne]

/-! ## The nearest number -/

/-- The exact value. -/
def toRat (number : Binary64) : ℚ :=
  number.units / unitsPerOne

/-- No binary number is nearer to a value, and one that is as near has to be the
same unless the significand is even. -/
structure Nearest
    (value : ℚ)
    (number : Binary64) :
    Prop where
  closest : ∀ other : Binary64, |value - number.toRat| ≤ |value - other.toRat|
  even : ∀ other : Binary64,
    |value - other.toRat| = |value - number.toRat| →
      other.toRat ≠ number.toRat →
      number.significand % 2 = 0

theorem unitsPerOne_cast_pos : (0 : ℚ) < unitsPerOne :=
  Nat.cast_pos.2 unitsPerOne_pos

theorem natAbs_units (number : Binary64) :
    number.units.natAbs = number.magnitude := by
  rw [units]
  split
  · exact (Int.natAbs_neg _).trans (Int.natAbs_natCast _)
  · exact Int.natAbs_natCast _

/-- Nearest numbers do not change their order. -/
theorem Nearest.mono
    {former latter : ℚ}
    {first second : Binary64}
    (nearest : Nearest former first)
    (nearestToo : Nearest latter second)
    (before : former < latter) :
    first.toRat ≤ second.toRat := by
  by_contra turned
  have left := nearest.closest second
  have right := nearestToo.closest first
  rw [not_le] at turned
  have notBelow : second.toRat + first.toRat ≤ 2 * former := by
    by_contra short
    have closer : |former - second.toRat| < first.toRat - former :=
      abs_lt.2 ⟨by linarith, by linarith⟩
    linarith [neg_le_abs (former - first.toRat)]
  have notAbove : 2 * latter ≤ second.toRat + first.toRat := by
    by_contra long
    have closer : |latter - first.toRat| < latter - second.toRat :=
      abs_lt.2 ⟨by linarith, by linarith⟩
    linarith [le_abs_self (latter - second.toRat)]
  linarith

/-- A value that is a binary number is its own nearest one. -/
theorem Nearest.toRat_eq
    {number other : Binary64}
    (nearest : Nearest other.toRat number) :
    number.toRat = other.toRat := by
  have none := nearest.closest other
  rw [sub_self, abs_zero, abs_nonpos_iff, sub_eq_zero] at none
  exact none.symm

/-- The distance of two whole numbers of units, counted in ones. -/
theorem abs_sub_toRat (value : Int) (number : Binary64) :
    |(value : ℚ) - number.toRat| =
      (value * unitsPerOne - number.units).natAbs / unitsPerOne := by
  have scaled : (value : ℚ) - number.toRat =
      (value * unitsPerOne - number.units : Int) / unitsPerOne := by
    rw [toRat, Int.cast_sub, Int.cast_mul, Int.cast_natCast, sub_div,
      mul_div_cancel_right₀ _ unitsPerOne_cast_pos.ne']
  rw [scaled, abs_div, abs_of_pos unitsPerOne_cast_pos, Nat.cast_natAbs,
    Int.cast_abs]

end Binary64

/-! ## Whole numbers -/

open Binary64

/-- A whole number with nothing but its first 53 bits, rounded by the others. -/
def roundWhole (value : Int) : Int :=
  if value < 0 then -(roundNat value.natAbs : Int) else roundNat value.natAbs

/-- Whole numbers of at most `2 ^ 53` are kept. -/
theorem roundWhole_of_small
    {value : Int}
    (small : value.natAbs ≤ 0x20000000000000) :
    roundWhole value = value := by
  have kept : roundNat value.natAbs = value.natAbs := by
    rcases Nat.lt_or_eq_of_le small with less | most
    · exact roundNat_of_lt less
    · rw [most]
      decide
  rw [roundWhole, kept]
  split <;> omega

/-- A binary number is at least as far from a whole number as their
distances from zero are apart. -/
theorem dist_magnitude_le (value : Int) (other : Binary64) :
    Nat.dist (value.natAbs * unitsPerOne) other.magnitude ≤
      (value * unitsPerOne - other.units).natAbs := by
  rw [← natAbs_units, ← Int.natAbs_natCast unitsPerOne, ← Int.natAbs_mul,
    Int.natAbs_natCast]
  unfold Nat.dist
  omega

/-- Only zero is as far from a number as from what mirrors it. -/
theorem eq_zero_of_mirrored
    {value number : Int}
    (apart : -number ≠ number)
    (same : (value - -number).natAbs = (value - number).natAbs) :
    value = 0 := by
  omega

section Bounded

variable
    {value : Int}
    (bounded : -0x8000000000000000 ≤ value ∧ value < 0x10000000000000000)

theorem units_toBinary64 :
    (Number.whole value bounded).toBinary64.units =
      roundWhole value * unitsPerOne := by
  rw [Number.toBinary64, units, negative_ofWord, magnitude_ofWord_eq,
    roundWhole, Int.natCast_mul]
  by_cases below : value < 0
  · rw [decide_eq_true below, if_pos rfl, if_pos below, Int.neg_mul]
  · rw [decide_eq_false below, if_neg Bool.false_ne_true, if_neg below]

theorem toRat_toBinary64 :
    (Number.whole value bounded).toBinary64.toRat = roundWhole value := by
  rw [toRat, units_toBinary64, Int.cast_mul, Int.cast_natCast,
    mul_div_cancel_right₀ _ unitsPerOne_cast_pos.ne']

/-- The distance to what a whole number is rounded to, in units. -/
theorem natAbs_sub_units_toBinary64 :
    (value * unitsPerOne -
      (Number.whole value bounded).toBinary64.units).natAbs =
      Nat.dist (value.natAbs * unitsPerOne)
        (roundNat (value.natAbs * unitsPerOne)) := by
  rw [units_toBinary64, ← Int.sub_mul, Int.natAbs_mul, Int.natAbs_natCast,
    roundNat_unitsPerOne, Nat.dist_mul_right, roundWhole]
  unfold Nat.dist
  split <;> congr 1 <;> omega

/-- As far on the other side of zero is as near only for zero,
which is not rounded. -/
theorem magnitude_ne_of_tie
    {other : Binary64}
    (apart : other.units ≠ (Number.whole value bounded).toBinary64.units)
    (tie :
      (value * unitsPerOne - other.units).natAbs =
        (value * unitsPerOne -
          (Number.whole value bounded).toBinary64.units).natAbs) :
    other.magnitude ≠ roundNat (value.natAbs * unitsPerOne) := by
  intro same
  have mirrored :
      other.units = -(Number.whole value bounded).toBinary64.units := by
    refine (Int.natAbs_eq_natAbs_iff.1 ?_).resolve_left apart
    rw [natAbs_units, natAbs_units, same, Number.toBinary64,
      magnitude_ofWord_eq, roundNat_unitsPerOne]
  rw [mirrored] at tie apart
  rcases Int.mul_eq_zero.1 (eq_zero_of_mirrored apart tie) with zero | none
  · subst zero
    rw [units_toBinary64, roundWhole_of_small (Nat.zero_le _), Int.zero_mul]
      at apart
    exact apart Int.neg_zero
  · exact absurd none (Int.natCast_pos.2 unitsPerOne_pos).ne'

/-- A whole number of 64 bits becomes the binary number nearest to it. -/
theorem nearest_toBinary64 :
    Nearest value (Number.whole value bounded).toBinary64 where
  closest other := by
    rw [abs_sub_toRat, abs_sub_toRat,
      div_le_div_iff_of_pos_right unitsPerOne_cast_pos, Nat.cast_le,
      natAbs_sub_units_toBinary64]
    exact (dist_roundNat_le _ other).trans (dist_magnitude_le value other)
  even other tie different := by
    rw [abs_sub_toRat, abs_sub_toRat, div_left_inj' unitsPerOne_cast_pos.ne',
      Nat.cast_inj]
      at tie
    have apart : other.units ≠ (Number.whole value bounded).toBinary64.units :=
      fun same =>
      different (by rw [toRat, toRat, same])
    have sides := magnitude_ne_of_tie bounded apart tie
    rw [natAbs_sub_units_toBinary64] at tie
    rw [Number.toBinary64, significand_ofWord]
    exact roundUnits_even_of_tie
      (((dist_magnitude_le value other).trans tie.le).antisymm
        (dist_roundNat_le _ other)) sides

include bounded in
/-- A whole number is kept exactly if it is a binary number. -/
theorem roundWhole_eq_self_iff :
    roundWhole value = value ↔ ∃ number : Binary64, number.toRat = value := by
  constructor
  · intro kept
    exact ⟨(Number.whole value bounded).toBinary64,
      by rw [toRat_toBinary64, kept]⟩
  · rintro ⟨number, exactly⟩
    have nearest := nearest_toBinary64 bounded
    rw [← exactly] at nearest
    have same := nearest.toRat_eq
    rwa [toRat_toBinary64, exactly, Int.cast_inj] at same

end Bounded

section Pairs

variable
    {former latter : Int}
    (formerBounded :
      -0x8000000000000000 ≤ former ∧ former < 0x10000000000000000)
    (latterBounded :
      -0x8000000000000000 ≤ latter ∧ latter < 0x10000000000000000)

include formerBounded latterBounded in
/-- Rounding keeps the order of whole numbers. -/
theorem roundWhole_mono (before : former ≤ latter) :
    roundWhole former ≤ roundWhole latter := by
  rcases Int.lt_or_eq_of_le before with less | rfl
  · have kept :=
      (nearest_toBinary64 formerBounded).mono (nearest_toBinary64 latterBounded)
      (Int.cast_lt.2 less)
    rwa [toRat_toBinary64, toRat_toBinary64, Int.cast_le] at kept
  · exact Int.le_refl _

/-- As binary numbers, whole numbers compare as what they are rounded to. -/
theorem compareValue_whole :
    (Number.whole former formerBounded).toBinary64.compareValue
        (Number.whole latter latterBounded).toBinary64 =
      compare (roundWhole former) (roundWhole latter) := by
  have positive : (0 : Int) < unitsPerOne := Int.natCast_pos.2 unitsPerOne_pos
  rw [compareValue, units_toBinary64, units_toBinary64]
  rcases Int.lt_trichotomy (roundWhole former) (roundWhole latter) with
    before | same | after
  · rw [Int.compare_eq_lt.2 before,
      Int.compare_eq_lt.2 (Int.mul_lt_mul_of_pos_right before positive)]
  · rw [same, Int.compare_eq_eq.2 rfl, Int.compare_eq_eq.2 rfl]
  · rw [Int.compare_eq_gt.2 after,
      Int.compare_eq_gt.2 (Int.mul_lt_mul_of_pos_right after positive)]

end Pairs

end TabularSearch
