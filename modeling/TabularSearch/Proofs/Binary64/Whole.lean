import TabularSearch.Json.Value

/-!
# Whole numbers as binary numbers

Rounding changes nothing where nothing is cut off.  A whole number of at most 53
bits is cut only at zeros, so it is a binary number as it is, and two of them
compare as binary numbers as they compare as whole numbers.
-/

namespace TabularSearch

open TabularSearch.Json

namespace Binary64

theorem roundQuotient_of_dvd
    {numerator denominator : Nat}
    (positive : 0 < denominator)
    (divides : denominator ∣ numerator) :
    roundQuotient numerator denominator = numerator / denominator := by
  have exactly : numerator % denominator = 0 := Nat.mod_eq_zero_of_dvd divides
  rw [roundQuotient]
  simp only [exactly, Nat.mul_zero, positive, if_true]

/-- The bits above the scale are those of a significand. -/
theorem shiftRight_log2_lt (number : Nat) :
    number >>> (Nat.log2 number - 52) < 0x20000000000000 := by
  rw [Nat.shiftRight_eq_div_pow, Nat.div_lt_iff_lt_mul (Nat.two_pow_pos _)]
  have below : number < 2 ^ (Nat.log2 number + 1) := Nat.lt_log2_self
  have width :
      2 ^ (Nat.log2 number + 1) ≤
        0x20000000000000 * 2 ^ (Nat.log2 number - 52) := by
    have bits : 0x20000000000000 = 2 ^ 53 := rfl
    rw [bits, ← Nat.pow_add]
    exact Nat.pow_le_pow_right (by decide) (by omega)
  exact Nat.lt_of_lt_of_le below width

/-- What is a multiple of its last place is not rounded. -/
theorem roundUnits_of_dvd
    {number : Nat}
    (divides : 1 <<< (Nat.log2 number - 52) ∣ number) :
    roundUnits number 1 =
      (number >>> (Nat.log2 number - 52), Nat.log2 number - 52) := by
  have positive : 0 < 1 <<< (Nat.log2 number - 52) := by
    rw [Nat.shiftLeft_eq, Nat.one_mul]
    exact Nat.two_pow_pos _
  have significand : roundQuotient number (1 <<< (Nat.log2 number - 52)) =
      number >>> (Nat.log2 number - 52) := by
    rw [roundQuotient_of_dvd positive divides, Nat.shiftLeft_eq, Nat.one_mul,
      Nat.shiftRight_eq_div_pow]
  rw [roundUnits]
  simp only [Nat.div_one, significand, shiftRight_log2_lt, if_true]

/-- A whole number of at most 53 bits has nothing but zeros below its last
place, in units of any power of two. -/
theorem shiftLeft_roundUnits
    {value : Nat}
    (fits : value < 0x20000000000000)
    (shift : Nat) :
    (roundUnits (value * 1 <<< shift) 1).1 <<<
        (roundUnits (value * 1 <<< shift) 1).2 =
      value * 1 <<< shift := by
  have least : Nat.log2 (value * 1 <<< shift) - 52 ≤ shift := by
    rw [Nat.shiftLeft_eq, Nat.one_mul]
    by_cases zero : value * 2 ^ shift = 0
    · rw [zero, Nat.log2_zero]
      omega
    · have below : value * 2 ^ shift < 2 ^ (53 + shift) := by
        rw [Nat.pow_add]
        exact Nat.mul_lt_mul_of_pos_right fits (Nat.two_pow_pos _)
      have bits := (Nat.log2_lt zero).2 below
      omega
  have divides :
      1 <<< (Nat.log2 (value * 1 <<< shift) - 52) ∣ value * 1 <<< shift := by
    rw [Nat.shiftLeft_eq, Nat.one_mul]
    refine Nat.dvd_mul_left_of_dvd ?_ value
    rw [Nat.shiftLeft_eq 1 shift, Nat.one_mul] at least ⊢
    exact Nat.pow_dvd_pow 2 least
  rw [roundUnits_of_dvd divides]
  rw [Nat.shiftLeft_eq, Nat.one_mul] at divides
  rw [Nat.shiftLeft_eq, Nat.shiftRight_eq_div_pow, Nat.div_mul_cancel divides]

theorem magnitude_mk
    {negative : Bool}
    {significand scale : Nat}
    (canonical :
      significand < 0x20000000000000 ∧ scale ≤ 2045 ∧
        (scale = 0 ∨ 0x10000000000000 ≤ significand)) :
    (mk negative significand scale canonical).magnitude =
      significand <<< scale :=
  rfl

theorem magnitude_ofWord
    (negative : Bool)
    {value : Nat}
    (small : value < 0x10000000000000000)
    (fits : value < 0x20000000000000) :
    (ofWord negative value small).magnitude = value * unitsPerOne := by
  rw [ofWord, magnitude_mk, unitsPerOne]
  exact shiftLeft_roundUnits fits unitShift

theorem negative_ofWord
    (negative : Bool)
    {value : Nat}
    (small : value < 0x10000000000000000) :
    (ofWord negative value small).negative = negative := by
  rw [ofWord]

theorem unitsPerOne_pos : 0 < unitsPerOne := by
  rw [unitsPerOne, Nat.shiftLeft_eq, Nat.one_mul]
  exact Nat.two_pow_pos _

end Binary64

/-- A whole number of at most 53 bits is as many units as it says. -/
theorem units_whole
    {value : Int}
    (bounded : -0x8000000000000000 ≤ value ∧ value < 0x10000000000000000)
    (fits : value.natAbs < 0x20000000000000) :
    (Number.whole value bounded).toBinary64.units =
      value * Binary64.unitsPerOne := by
  have small : value.natAbs < 0x10000000000000000 := by omega
  rw [Number.toBinary64, Binary64.units, Binary64.negative_ofWord,
    Binary64.magnitude_ofWord _ small fits]
  by_cases below : value < 0
  · rw [decide_eq_true below, if_pos rfl]
    rw [Int.natCast_mul, ← Int.neg_mul,
      Int.ofNat_natAbs_of_nonpos (Int.le_of_lt below), Int.neg_neg]
  · rw [decide_eq_false below, if_neg Bool.false_ne_true]
    rw [Int.natCast_mul, Int.natAbs_of_nonneg (Int.not_lt.1 below)]

/-- Whole numbers of at most 53 bits compare as binary numbers as they are. -/
theorem compare_whole
    {former latter : Int}
    (formerBounded :
      -0x8000000000000000 ≤ former ∧ former < 0x10000000000000000)
    (latterBounded :
      -0x8000000000000000 ≤ latter ∧ latter < 0x10000000000000000)
    (formerFits : former.natAbs < 0x20000000000000)
    (latterFits : latter.natAbs < 0x20000000000000) :
    (Number.whole former formerBounded).toBinary64.compareValue
        (Number.whole latter latterBounded).toBinary64 =
      compare former latter := by
  have positive : (0 : Int) < Binary64.unitsPerOne :=
    Int.natCast_pos.2 Binary64.unitsPerOne_pos
  rw [Binary64.compareValue, units_whole _ formerFits, units_whole _ latterFits]
  rcases Int.lt_trichotomy former latter with before | same | after
  · rw [Int.compare_eq_lt.2 before,
      Int.compare_eq_lt.2 (Int.mul_lt_mul_of_pos_right before positive)]
  · rw [same, Int.compare_eq_eq.2 rfl, Int.compare_eq_eq.2 rfl]
  · rw [Int.compare_eq_gt.2 after,
      Int.compare_eq_gt.2 (Int.mul_lt_mul_of_pos_right after positive)]

end TabularSearch
