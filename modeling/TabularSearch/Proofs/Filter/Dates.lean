import Mathlib.Logic.Function.Basic
import TabularSearch.Filter.Compile
import TabularSearch.Proofs.Time.SecondText

/-!
# Dates in filters

A comparison with a date keeps the second of the date, a leap second included,
and nothing else: its text stands for the date in the term or in the range.  So
two dates lead to the same filter exactly if they lie in one second, and the
bounds of ranges stand in the order of the seconds while the years have four
digits (`dates_keep_seconds`).
-/

namespace TabularSearch

open TabularSearch.Json
open TabularSearch.Time

/-- Of a date a term or a range holds the text of its second. -/
theorem Filter.exists_ofComparison_date
    {field : String}
    (named : field ≠ "")
    {comparison : Comparison}
    (valued : comparison ≠ .contains ∧ comparison ≠ .notContains) :
    ∃ filter : Value → Filter, Function.Injective filter ∧
      ∀ date : Instant,
        ofComparison field comparison (.date date) =
          .ok (filter (.string date.secondText)) := by
  have range (bound : Bound) : Function.Injective (Filter.range field bound) :=
    fun _ _ same => (Filter.range.inj same).2.2
  have term : Function.Injective (Filter.term field) :=
    fun _ _ same => (Filter.term.inj same).2
  cases comparison with
  | equal => exact ⟨.term field, term, fun _ => if_neg named⟩
  | notEqual =>
      have negated :
          Function.Injective fun value => not (.term field value) := by
        intro former latter same
        simpa [Filter.not] using same
      exact ⟨_, negated, fun _ => if_neg named⟩
  | greater | greaterOrEqual | less | lessOrEqual =>
      exact ⟨_, range _, fun _ => if_neg named⟩
  | contains => exact absurd rfl valued.1
  | notContains => exact absurd rfl valued.2

/-- Dates have the same text exactly if they lie in one second, and as long as
their years have four digits the texts stand in the order of the seconds.  What
a comparison with a date asks of a value is a matter of this text alone. -/
theorem dates_keep_seconds (former latter : Instant) :
    (former.secondText = latter.secondText ↔ former.SameSecond latter) ∧
      (former.PlainYear → latter.PlainYear →
        (former.secondText < latter.secondText ↔ former.SecondBefore latter)) ∧
      ∀ field : String, field ≠ "" →
        ∀ comparison : Comparison,
          comparison ≠ .contains ∧ comparison ≠ .notContains →
            ∃ filter : Value → Filter, Function.Injective filter ∧
              ∀ date : Instant,
                Filter.ofComparison field comparison (.date date) =
                  .ok (filter (.string date.secondText)) :=
  ⟨Instant.secondText_eq_iff, Instant.secondText_lt_iff,
    fun _ named _ valued => Filter.exists_ofComparison_date named valued⟩

/-- The leap second at the end of 2016, half over. -/
def leapSecond2016 : Instant :=
  { second := 1483228799
    nanos := 1500000000
    inRange := by decide
    nanos_lt := by decide
    leap_at_end := fun _ => rfl }

/-- The first second of 2017. -/
def newYear2017 : Instant :=
  { second := 1483228800
    nanos := 0
    inRange := by decide
    nanos_lt := by decide
    leap_at_end := by decide }

/-- The leap second has a text before that of the new year, and both
are bounds of ranges. -/
theorem dates_keep_seconds_newYear2017 :
    ((leapSecond2016.PlainYear ∧ newYear2017.PlainYear) ∧
        leapSecond2016.secondText < newYear2017.secondText) ∧
      (("ts" ≠ "" ∧ Comparison.less ≠ .contains ∧
        Comparison.less ≠ .notContains) ∧
        ∃ filter : Value → Filter, Function.Injective filter ∧
          ∀ date : Instant,
            Filter.ofComparison "ts" .less (.date date) =
              .ok (filter (.string date.secondText))) := by
  obtain ⟨-, order, filters⟩ := dates_keep_seconds leapSecond2016 newYear2017
  have leapYear : leapSecond2016.PlainYear := ⟨by decide, by decide⟩
  have newYear : newYear2017.PlainYear := ⟨by decide, by decide⟩
  have named : "ts" ≠ "" := by decide
  have valued :
      Comparison.less ≠ .contains ∧ Comparison.less ≠ .notContains := by decide
  exact ⟨⟨⟨leapYear, newYear⟩, (order leapYear newYear).2 (Or.inl (by decide))⟩,
    ⟨named, valued⟩, filters "ts" named .less valued⟩

end TabularSearch
