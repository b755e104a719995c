import TabularSearch.Proofs.Time.Calendar

/-!
# The order of dates

A later day has no earlier date.  By the years that begin in March this goes
step by step: eras follow each other, years within an era, days within a year;
and the calendar's own years and months only begin elsewhere.  A reading
therefore grows with the second as long as everything coarser stays the same.
-/

namespace TabularSearch.Time

/-- The year, beginning in March, of a day in its era. -/
def yearOfEra (dayOfEra : Int) : Int :=
  (dayOfEra - dayOfEra / 1460 + dayOfEra / 36524 - dayOfEra / 146096) / 365

/-- The year, beginning in March, of a day. -/
def marchYear (number : Int) : Int :=
  yearOfEra ((number + epochOffset) % eraDays) +
    (number + epochOffset) / eraDays * 400

/-- How many days of its year, beginning in March, went before a day. -/
def marchDay (number : Int) : Int :=
  (number + epochOffset) % eraDays -
    (365 * yearOfEra ((number + epochOffset) % eraDays) +
        yearOfEra ((number + epochOffset) % eraDays) / 4 -
      yearOfEra ((number + epochOffset) % eraDays) / 100)

theorem marchDay_bounds (number : Int) :
    0 ≤ marchDay number ∧ marchDay number ≤ 365 :=
  dayOfYear_bounds (Int.emod_nonneg _ (by decide))
    (Int.emod_lt_of_pos _ (by decide)) rfl

/-- The months from March to December are those of the year
that began in March. -/
theorem Date.ofDay_eq (number : Int) :
    ofDay number =
      { year :=
          if (5 * marchDay number + 2) / 153 < 10 then marchYear number
          else marchYear number + 1
        month :=
          if (5 * marchDay number + 2) / 153 < 10 then
            (5 * marchDay number + 2) / 153 + 3
          else (5 * marchDay number + 2) / 153 - 9
        day :=
          marchDay number - (153 * ((5 * marchDay number + 2) / 153) + 2) / 5 +
            1 } := by
  have days := marchDay_bounds number
  have whole : ofDay number =
      { year :=
          if
              (if (5 * marchDay number + 2) / 153 < 10 then
                (5 * marchDay number + 2) / 153 + 3
              else (5 * marchDay number + 2) / 153 - 9) ≤ 2 then
            marchYear number + 1
          else marchYear number
        month :=
          if (5 * marchDay number + 2) / 153 < 10 then
            (5 * marchDay number + 2) / 153 + 3
          else (5 * marchDay number + 2) / 153 - 9
        day :=
          marchDay number - (153 * ((5 * marchDay number + 2) / 153) + 2) / 5 +
            1 } :=
    rfl
  rw [whole, Date.mk.injEq]
  refine ⟨?_, rfl, rfl⟩
  split <;> split <;> omega

theorem yearOfEra_mono
    {former latter : Int}
    (order : former ≤ latter) :
    yearOfEra former ≤ yearOfEra latter := by
  have quarters : former - former / 1460 ≤ latter - latter / 1460 := by omega
  have centuries :
      former - former / 1460 + former / 36524 - former / 146096 ≤
        latter - latter / 1460 + latter / 36524 - latter / 146096 := by
    omega
  exact Int.ediv_le_ediv (by decide) centuries

section Days

variable {former latter : Int} (order : former ≤ latter)

include order

/-- Of two days the later one is in a later year, or in the same
year after no fewer days. -/
theorem marchYear_lt_or :
    marchYear former < marchYear latter ∨
      marchYear former = marchYear latter ∧
        marchDay former ≤ marchDay latter := by
  have years (number : Int) :
      0 ≤ yearOfEra ((number + epochOffset) % eraDays) ∧
        yearOfEra ((number + epochOffset) % eraDays) < 400 :=
    yearOfEra_bounds (Int.emod_nonneg _ (by decide))
      (Int.emod_lt_of_pos _ (by decide)) rfl
  have formerYears := years former
  have latterYears := years latter
  have eras :
      (former + epochOffset) / eraDays ≤ (latter + epochOffset) / eraDays :=
    Int.ediv_le_ediv (by decide) (by omega)
  rw [marchYear, marchYear, marchDay, marchDay]
  rcases Int.lt_or_eq_of_le eras with before | same
  · exact Or.inl (by omega)
  · have days :
        (former + epochOffset) % eraDays ≤
          (latter + epochOffset) % eraDays := by
      rw [Int.emod_def, Int.emod_def, same]
      omega
    rcases Int.lt_or_eq_of_le (yearOfEra_mono days) with earlier | equal
    · exact Or.inl (by omega)
    · rw [equal, same]
      exact Or.inr ⟨rfl, by omega⟩

/-- Of two days the later one has a date that comes later, or the same. -/
theorem Date.ofDay_mono :
    (ofDay former).year < (ofDay latter).year ∨
      (ofDay former).year = (ofDay latter).year ∧
        ((ofDay former).month < (ofDay latter).month ∨
          (ofDay former).month = (ofDay latter).month ∧
            (ofDay former).day ≤ (ofDay latter).day) := by
  have formerDays := marchDay_bounds former
  have latterDays := marchDay_bounds latter
  rw [ofDay_eq former, ofDay_eq latter]
  dsimp only
  rcases marchYear_lt_or order with earlier | ⟨same, days⟩
  · split <;> split <;> omega
  · have months :
        (5 * marchDay former + 2) / 153 ≤
          (5 * marchDay latter + 2) / 153 := by omega
    rw [same]
    split <;> split <;> omega

end Days

end TabularSearch.Time
