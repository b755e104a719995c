import TabularSearch.Proofs.Time.Order

/-!
# Dates that exist

The date of every day exists: its month has that many days, and only the last
day of a year that begins in March and has 366 of them is the 29th of February.
Days in the range of dates have years in the range of years.
-/

namespace TabularSearch.Time

/-- A year of an era has 366 days only if the calendar year in which it ends is
a leap year.  The year is the one that its day is divided into, so its days
reach past a leap day; and a century ends with one only if it closes the era. -/
theorem leap_of_fullYear
    {dayOfEra year : Int}
    (least : 0 ≤ dayOfEra)
    (most : dayOfEra < eraDays)
    (found : year = yearOfEra dayOfEra)
    (last : dayOfEra - (365 * year + year / 4 - year / 100) = 365) :
    (year + 1) % 4 = 0 ∧ ((year + 1) % 100 = 0 → (year + 1) % 400 = 0) := by
  have years := yearOfEra_bounds least most found
  have century := century_eq least most found
  rw [yearOfEra] at found
  rw [eraDays] at most
  have within : dayOfEra - dayOfEra / 1460 + year / 100 < 365 * year + 365 := by
    omega
  have passed : year / 4 < dayOfEra / 1460 := by omega
  have phase : year % 4 = 3 := by omega
  exact ⟨by omega, by omega⟩

/-- A year beginning in March has 366 days only if the calendar year in which
it ends is a leap year. -/
theorem isLeap_of_marchDay
    {number : Int}
    (last : marchDay number = 365) :
    isLeap (marchYear number + 1) = true := by
  have least : 0 ≤ (number + epochOffset) % eraDays :=
    Int.emod_nonneg _ (by decide)
  have most : (number + epochOffset) % eraDays < eraDays :=
    Int.emod_lt_of_pos _ (by decide)
  have leap := leap_of_fullYear least most rfl last
  rw [isLeap, marchYear]
  simp only [Bool.and_eq_true, Bool.or_eq_true, beq_iff_eq, bne_iff_ne]
  omega

/-- Months have 28 days at least, and in the two usual lengths 30 and 31. -/
theorem monthLength_cases (year month : Int) :
    month = 2 ∧ 28 ≤ monthLength year month ∨
      (month = 4 ∨ month = 6 ∨ month = 9 ∨ month = 11) ∧
          monthLength year month = 30 ∨
        month ≠ 2 ∧ month ≠ 4 ∧ month ≠ 6 ∧ month ≠ 9 ∧ month ≠ 11 ∧
          monthLength year month = 31 := by
  rw [monthLength]
  split
  · split <;> omega
  · split <;> omega

/-- The months from March to January are filled by whole days;
February takes the rest. -/
theorem Date.valid_ofDay (number : Int) : (Date.ofDay number).Valid := by
  have bounds := Date.bounds_ofDay number
  refine ⟨bounds.1.1, bounds.1.2, bounds.2.1, ?_⟩
  have days := marchDay_bounds number
  rw [ofDay_eq]
  dsimp only
  by_cases last : marchDay number = 365
  · have leap := isLeap_of_marchDay last
    rw [last, if_neg (by decide), if_neg (by decide), monthLength, leap]
    decide
  · split
    · rcases monthLength_cases (marchYear number)
        ((5 * marchDay number + 2) / 153 + 3) with
        ⟨february, -⟩ | ⟨short, length⟩
          | ⟨-, april, june, september, november, length⟩
      all_goals omega
    · rcases monthLength_cases (marchYear number + 1)
        ((5 * marchDay number + 2) / 153 - 9) with
        ⟨february, length⟩ | ⟨short, length⟩
          | ⟨-, april, june, september, november, length⟩
      all_goals omega

theorem Date.year_bounds
    {second : Int}
    (inRange : InRange second) :
    leastYear ≤ (Date.ofDay (second / secondsPerDay)).year ∧
      (Date.ofDay (second / secondsPerDay)).year ≤ greatestYear := by
  have first : leastSecond / secondsPerDay ≤ second / secondsPerDay :=
    Int.ediv_le_ediv (by decide) inRange.1
  have last : second / secondsPerDay ≤ greatestSecond / secondsPerDay :=
    Int.ediv_le_ediv (by decide) inRange.2
  have lower := Date.ofDay_mono first
  have upper := Date.ofDay_mono last
  have start : (Date.ofDay (leastSecond / secondsPerDay)).year = leastYear := by
    decide
  have stop :
      (Date.ofDay (greatestSecond / secondsPerDay)).year =
        greatestYear := by decide
  omega

end TabularSearch.Time
