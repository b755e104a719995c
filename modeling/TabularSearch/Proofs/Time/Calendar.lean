import Mathlib.Logic.Function.Basic
import TabularSearch.Time.Instant

/-!
# Days and their dates

A day is found again from its date, and a second from its reading.  Within an
era the year is computed from a day without a search: the leap days that went
before are taken off, and what remains goes by years of 365 days.  This lands in
the right century, and within the century in the right year, so the day that is
left over is one of this year.
-/

namespace TabularSearch.Time

section Era

variable {dayOfEra yearOfEra : Int} (least : 0 ≤ dayOfEra)
  (most : dayOfEra < eraDays)
  (year :
    yearOfEra =
      (dayOfEra - dayOfEra / 1460 + dayOfEra / 36524 - dayOfEra / 146096) / 365)

include least most year

theorem yearOfEra_bounds : 0 ≤ yearOfEra ∧ yearOfEra < 400 := by
  rw [eraDays] at most
  omega

/-- Centuries have the same number of days, but for the last
one, which has one more. -/
theorem century_eq :
    yearOfEra / 100 = dayOfEra / 36524 - dayOfEra / 146096 := by
  rw [eraDays] at most
  have century :
      dayOfEra / 36524 = 0 ∨ dayOfEra / 36524 = 1 ∨ dayOfEra / 36524 = 2 ∨
        dayOfEra / 36524 = 3 ∨ dayOfEra / 36524 = 4 := by
    omega
  rcases century with first | second | third | fourth | last
  all_goals omega

/-- A year that begins in March has its leap day at its end, so
every year begins after as many leap days as there are leap years
among the earlier ones. -/
theorem dayOfYear_bounds :
    0 ≤ dayOfEra - (365 * yearOfEra + yearOfEra / 4 - yearOfEra / 100) ∧
      dayOfEra - (365 * yearOfEra + yearOfEra / 4 - yearOfEra / 100) ≤ 365 := by
  have century := century_eq least most year
  rw [eraDays] at most
  have phase :
      yearOfEra % 4 = 0 ∨ yearOfEra % 4 = 1 ∨ yearOfEra % 4 = 2 ∨
        yearOfEra % 4 = 3 := by
    omega
  rcases phase with first | second | third | fourth
  all_goals omega

end Era

theorem Date.bounds_ofDay (number : Int) :
    (1 ≤ (Date.ofDay number).month ∧ (Date.ofDay number).month ≤ 12) ∧
      1 ≤ (Date.ofDay number).day ∧ (Date.ofDay number).day ≤ 31 := by
  have least : 0 ≤ (number + epochOffset) % eraDays :=
    Int.emod_nonneg _ (by decide)
  have most : (number + epochOffset) % eraDays < eraDays :=
    Int.emod_lt_of_pos _ (by decide)
  have days := dayOfYear_bounds least most rfl
  simp only [ofDay]
  constructor
  · split <;> omega
  · omega

/-- A year lies in the era of its days or is the next one. -/
theorem Date.year_bounds_ofDay (number : Int) :
    (number + epochOffset) / eraDays * 400 ≤ (Date.ofDay number).year ∧
      (Date.ofDay number).year ≤
        (number + epochOffset) / eraDays * 400 + 400 := by
  have least : 0 ≤ (number + epochOffset) % eraDays :=
    Int.emod_nonneg _ (by decide)
  have most : (number + epochOffset) % eraDays < eraDays :=
    Int.emod_lt_of_pos _ (by decide)
  have years := yearOfEra_bounds least most rfl
  simp only [ofDay]
  split <;> omega

/-- The number of a date by the year and the month that are
counted from March. -/
theorem Date.toDay_eq
    {era yearOfEra marchMonth month : Int}
    (years : 0 ≤ yearOfEra ∧ yearOfEra < 400)
    (months : 0 ≤ marchMonth ∧ marchMonth ≤ 11)
    (calendarMonth :
      month = if marchMonth < 10 then marchMonth + 3 else marchMonth - 9)
    (day : Int) :
    toDay
        { year := if month ≤ 2 then yearOfEra + era * 400 + 1
            else yearOfEra + era * 400
          month
          day } =
      era * eraDays +
          (yearOfEra * 365 + yearOfEra / 4 - yearOfEra / 100 +
            ((153 * marchMonth + 2) / 5 + day - 1)) -
        epochOffset := by
  have fromMarch : (month + 9) % 12 = marchMonth := by
    rw [calendarMonth]
    split <;> omega
  -- January and February close the year that began in March.
  have marchYear :
      (if month ≤ 2 then
          (if month ≤ 2 then yearOfEra + era * 400 + 1
            else yearOfEra + era * 400) - 1
        else if month ≤ 2 then yearOfEra + era * 400 + 1
        else yearOfEra + era * 400) =
        yearOfEra + era * 400 := by
    split <;> omega
  have eraOf : (yearOfEra + era * 400) / 400 = era := by omega
  have yearOf : (yearOfEra + era * 400) % 400 = yearOfEra := by omega
  simp only [toDay, fromMarch, marchYear, eraOf, yearOf]

theorem Date.toDay_ofDay (number : Int) :
    (Date.ofDay number).toDay = number := by
  have least : 0 ≤ (number + epochOffset) % eraDays :=
    Int.emod_nonneg _ (by decide)
  have most : (number + epochOffset) % eraDays < eraDays :=
    Int.emod_lt_of_pos _ (by decide)
  have split := Int.ediv_mul_add_emod (number + epochOffset) eraDays
  have years := yearOfEra_bounds least most rfl
  have days := dayOfYear_bounds least most rfl
  rw [ofDay, toDay_eq years (by omega) rfl]
  omega

theorem Date.ofDay_injective : Function.Injective Date.ofDay :=
  Function.LeftInverse.injective Date.toDay_ofDay

theorem Moment.ofSecond_injective : Function.Injective Moment.ofSecond := by
  intro first second same
  simp only [ofSecond, Moment.mk.injEq] at same
  have day := Date.ofDay_injective same.1
  simp only [secondsPerDay] at same day
  omega

end TabularSearch.Time
