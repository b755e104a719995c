import TabularSearch.Filter.Compile
import TabularSearch.Proofs.Binary64.Nearest

/-!
# Ranges of whole numbers

The limit of a range is sent as a binary number, so a whole number is sent
as the binary number nearest to it.  `Bound.Admits` is what a range asks of
a value, and `Bound.Disputes` names the whole numbers between two limits
that one of them admits and the other does not.  The range of a limit admits
the whole numbers that the limit itself admits, but for those that lie
between the limit and the number sent for it; there are none exactly if the
limit is a binary number.
-/

namespace TabularSearch

open TabularSearch.Json
open TabularSearch.Binary64

/-- Whether a value lies on the side of a limit that a bound leaves open. -/
def Bound.Admits
    (bound : Bound)
    (limit value : ℚ) :
    Prop :=
  match bound with
  | .above => limit < value
  | .atLeast => limit ≤ value
  | .below => value < limit
  | .atMost => value ≤ limit

/-- Whether a whole number lies between two limits.  Of the limits themselves, a
range beyond them reaches the lower one only if it includes its limit, and a
range up to them the upper one. -/
def Bound.Disputes
    (bound : Bound)
    (limit other value : Int) :
    Prop :=
  match bound with
  | .above | .atMost => min limit other < value ∧ value ≤ max limit other
  | .atLeast | .below => min limit other ≤ value ∧ value < max limit other

section Limits

variable {bound : Bound} {limit other value : Int}

/-- Two limits admit the same of all values but those between them. -/
theorem Bound.admits_iff_iff :
    (bound.Admits other value ↔ bound.Admits limit value) ↔
      ¬ bound.Disputes limit other value := by
  cases bound <;> simp only [Admits, Disputes, Int.cast_lt, Int.cast_le] <;>
    omega

/-- Between two different limits there is always one of them to dispute. -/
theorem Bound.exists_disputes (different : limit ≠ other) :
    ∃ value, bound.Disputes limit other value := by
  cases bound with
  | above => exact ⟨max limit other, by rw [Disputes]; omega⟩
  | atLeast => exact ⟨min limit other, by rw [Disputes]; omega⟩
  | below => exact ⟨min limit other, by rw [Disputes]; omega⟩
  | atMost => exact ⟨max limit other, by rw [Disputes]; omega⟩

theorem Bound.forall_admits_iff :
    (∀ value : Int, bound.Admits other value ↔ bound.Admits limit value) ↔
      other = limit := by
  constructor
  · intro agree
    by_contra different
    obtain ⟨value, disputed⟩ := @exists_disputes bound _ _ (Ne.symm different)
    exact admits_iff_iff.1 (agree value) disputed
  · rintro rfl value
    exact Iff.rfl

end Limits

/-- A comparison for order with a number becomes a range whose
limit is a binary number. -/
theorem Filter.ofCondition_number
    {field : String}
    (named : field ≠ "")
    {comparison : Comparison}
    {bound : Bound}
    (ordered : comparison.bound? = some bound)
    (number : Number) :
    ofCondition (.compare field comparison (.number number)) =
      .ok (.range field bound (.number (.binary number.toBinary64))) := by
  rw [ofCondition]
  cases comparison <;> cases ordered <;>
    simp only [ofComparison, named, if_false, ofBound, Scalar.bound?]

/--
A range of a whole number of 64 bits is sent with the binary number nearest to
it as its limit, which is again a whole number.  Of the whole numbers it admits
those that the number itself admits, except that it is the other way round for
those between the number and its nearest; for every bound there are such unless
the number is a binary number, as all numbers up to `2 ^ 53` are.
-/
theorem Filter.admits_range_iff
    {field : String}
    (named : field ≠ "")
    {comparison : Comparison}
    {bound : Bound}
    (ordered : comparison.bound? = some bound)
    {limit : Int}
    (bounded : -0x8000000000000000 ≤ limit ∧ limit < 0x10000000000000000) :
    ∃ sent : Binary64,
      ofCondition (.compare field comparison (.number (.whole limit bounded))) =
          .ok (.range field bound (.number (.binary sent))) ∧
        Nearest limit sent ∧ sent.toRat = roundWhole limit ∧
          (∀ value : Int,
            (bound.Admits sent.toRat value ↔ bound.Admits limit value) ↔
              ¬ bound.Disputes limit (roundWhole limit) value) ∧
          ((∀ value : Int, bound.Admits sent.toRat value ↔
            bound.Admits limit value) ↔
            ∃ number : Binary64, number.toRat = limit) ∧
          (limit.natAbs ≤ 0x20000000000000 →
            ∀ value : Int, bound.Admits sent.toRat value ↔
              bound.Admits limit value) := by
  refine ⟨_, ofCondition_number named ordered _, nearest_toBinary64 bounded,
    toRat_toBinary64 bounded, ?_⟩
  rw [toRat_toBinary64]
  refine ⟨fun value => Bound.admits_iff_iff, ?_, fun small => ?_⟩
  · rw [Bound.forall_admits_iff, roundWhole_eq_self_iff bounded]
  · exact Bound.forall_admits_iff.2 (roundWhole_of_small small)

/-- The greatest number of 64 bits is sent as `2 ^ 64`, and so
lies below its own limit. -/
theorem Filter.admits_range_iff_greatestWord :
    "id" ≠ "" ∧ Comparison.less.bound? = some .below ∧
      ∃ sent : Binary64,
        ofCondition
            (.compare "id" .less
              (.number (.whole 0xFFFFFFFFFFFFFFFF (by decide)))) =
            .ok (.range "id" .below (.number (.binary sent))) ∧
          sent.toRat = (0x10000000000000000 : Int) ∧
            ¬ (Bound.below.Admits sent.toRat (0xFFFFFFFFFFFFFFFF : Int) ↔
              Bound.below.Admits (0xFFFFFFFFFFFFFFFF : Int)
                (0xFFFFFFFFFFFFFFFF : Int)) := by
  have named : "id" ≠ "" := by decide
  have bounded : -0x8000000000000000 ≤ (0xFFFFFFFFFFFFFFFF : Int) ∧
      (0xFFFFFFFFFFFFFFFF : Int) < 0x10000000000000000 := by decide
  obtain ⟨sent, compiled, -, rounded, agreed, -⟩ :=
    @admits_range_iff "id" named .less .below rfl _ bounded
  have up : roundWhole 0xFFFFFFFFFFFFFFFF = 0x10000000000000000 := by decide
  rw [up] at rounded agreed
  refine ⟨named, rfl, sent, compiled, rounded, ?_⟩
  rw [agreed, not_not]
  exact ⟨by decide, by decide⟩

/-- The number after `2 ^ 53` is sent as `2 ^ 53`, and so lies
above its own limit. -/
theorem Filter.own_limit_admitted :
    ∃ sent : Binary64,
      ofCondition
          (.compare "id" .greater
            (.number (.whole 0x20000000000001 (by decide)))) =
          .ok (.range "id" .above (.number (.binary sent))) ∧
        Bound.above.Admits sent.toRat (0x20000000000001 : Int) ∧
          ¬ Bound.above.Admits (0x20000000000001 : Int)
            (0x20000000000001 : Int) := by
  have down : roundWhole 0x20000000000001 = 0x20000000000000 := by decide
  refine ⟨_, ofCondition_number (by decide) rfl _, ?_, lt_irrefl _⟩
  rw [toRat_toBinary64, down, Bound.Admits, Int.cast_lt]
  decide

end TabularSearch
