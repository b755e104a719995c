import Mathlib.Data.Set.Function
import Mathlib.Tactic.IntervalCases
import TabularSearch.Proofs.Time.Valid

/-!
# Days counted one by one

The number of a date that exists is the count of days from 1970-01-01 to it,
year by year and month by month, with the lengths of months by the rule for leap
years.  The count grows from each date to every later one, so no two dates share
a number.  With the time of day this makes one reading for every second
(`Moment.shows_iff`): the valid date and time of day from which the seconds
since 1970 are counted is the one that is computed.
-/

namespace TabularSearch.Time

/-! ## Counting -/

/-- The sum over a number of places, from the first one on. -/
def sumFrom
    (step : Int → Int)
    (first : Int) :
    Nat → Int
  | 0 => 0
  | count + 1 => sumFrom step first count + step (first + count)

/-- The days of a year, month by month. -/
def yearLength (year : Int) : Int :=
  sumFrom (monthLength year) 1 12

/-- The days from 1970-01-01 to a date: those of the years between, of
the months that went before in its year, and of the days that went
before in its month.  For a date before 1970 the days of the years from
its own on are counted off. -/
def Date.daysElapsed (date : Date) : Int :=
  sumFrom yearLength 1970 (date.year - 1970).toNat -
      sumFrom yearLength date.year (1970 - date.year).toNat +
    sumFrom (monthLength date.year) 1 (date.month - 1).toNat + (date.day - 1)

section Sums

variable {step : Int → Int} {first last : Int}

/-- What grows step by step has grown by the sum of the steps. -/
theorem sumFrom_eq
    (value : Int → Int)
    (count : Nat)
    (grows :
      ∀ place, first ≤ place → place < first + count →
        value (place + 1) = value place + step place) :
    sumFrom step first count = value (first + count) - value first := by
  induction count with
  | zero => simp [sumFrom]
  | succ count earlier =>
      have before :=
        earlier fun place least most => grows place least (by omega)
      have next := grows (first + count) (by omega) (by omega)
      have place : first + ((count + 1 : Nat) : Int) = first + count + 1 := by
        omega
      rw [sumFrom, before, place, next]
      omega

theorem sumFrom_between
    (value : Int → Int)
    (order : first ≤ last)
    (grows :
      ∀ place, first ≤ place → place < last →
        value (place + 1) = value place + step place) :
    sumFrom step first (last - first).toNat = value last - value first := by
  obtain ⟨count, rfl⟩ : ∃ count : Nat, last = first + count :=
    ⟨(last - first).toNat, by omega⟩
  have number : (first + count - first).toNat = count := by omega
  rw [number]
  exact sumFrom_eq value count grows

theorem sumFrom_nonneg
    (positive : ∀ place, 0 ≤ step place)
    (count : Nat) :
    0 ≤ sumFrom step first count := by
  induction count with
  | zero => exact Int.le_refl 0
  | succ count earlier => exact Int.add_nonneg earlier (positive _)

end Sums

/-! ## The first days of months and years -/

section Firsts

variable {first last : Int}

theorem Date.toDay_nextMonth
    (year : Int)
    (least : 1 ≤ first)
    (most : first < 12) :
    toDay { year, month := first + 1, day := 1 } =
      toDay { year, month := first, day := 1 } + monthLength year first := by
  -- Each month has a length of its own, and February follows the
  -- leap days of the formula.
  simp only [toDay, eraDays, epochOffset, monthLength, isLeap]
  interval_cases first
  all_goals simp
  all_goals omega

/-- Every December has 31 days. -/
theorem Date.toDay_nextYear (year : Int) :
    toDay { year := year + 1, month := 1, day := 1 } =
      toDay { year, month := 12, day := 1 } + 31 := by
  simp only [toDay, eraDays, epochOffset]
  omega

theorem sum_monthLength
    (year : Int)
    (least : 1 ≤ first)
    (order : first ≤ last)
    (most : last ≤ 12) :
    sumFrom (monthLength year) first (last - first).toNat =
      Date.toDay { year, month := last, day := 1 } -
        Date.toDay { year, month := first, day := 1 } :=
  sumFrom_between (fun month => Date.toDay { year, month, day := 1 }) order
    fun _ above below =>
      Date.toDay_nextMonth year (Int.le_trans least above)
        (Int.lt_of_lt_of_le below most)

theorem yearLength_eq (year : Int) :
    yearLength year =
      Date.toDay { year := year + 1, month := 1, day := 1 } -
        Date.toDay { year, month := 1, day := 1 } := by
  have december : monthLength year 12 = 31 := rfl
  have months : yearLength year =
      sumFrom (monthLength year) 1 (12 - 1 : Int).toNat + monthLength year 12 :=
        rfl
  rw [months, sum_monthLength year (by decide) (by decide) (by decide),
    december, Date.toDay_nextYear]
  omega

theorem sum_yearLength (order : first ≤ last) :
    sumFrom yearLength first (last - first).toNat =
      Date.toDay { year := last, month := 1, day := 1 } -
        Date.toDay { year := first, month := 1, day := 1 } := by
  refine sumFrom_between (fun year => Date.toDay { year, month := 1, day := 1 })
    order fun place _ _ => ?_
  rw [yearLength_eq]
  omega

end Firsts

theorem Date.toDay_eq_firstOfMonth (date : Date) :
    date.toDay = toDay { date with day := 1 } + (date.day - 1) := by
  simp only [toDay]
  omega

/-- The number of a date that exists is the count of days from 1970. -/
theorem Date.toDay_eq_daysElapsed
    {date : Date}
    (valid : date.Valid) :
    date.toDay = date.daysElapsed := by
  have start : toDay { year := 1970, month := 1, day := 1 } = 0 := by decide
  have years :
      sumFrom yearLength 1970 (date.year - 1970).toNat -
          sumFrom yearLength date.year (1970 - date.year).toNat =
        toDay { year := date.year, month := 1, day := 1 } := by
    rcases Int.le_total 1970 date.year with later | earlier
    · rw [sum_yearLength later, Int.toNat_of_nonpos (by omega), sumFrom, start]
      omega
    · rw [sum_yearLength earlier, Int.toNat_of_nonpos (by omega), sumFrom,
        start]
      omega
  rw [daysElapsed, years, sum_monthLength _ (by decide) valid.1 valid.2.1,
    toDay_eq_firstOfMonth]
  omega

example :
    ({ year := 1969, month := 2, day := 28 } : Date).toDay = -307 ∧
      ({ year := 1969, month := 2, day := 28 } : Date).daysElapsed = -307 := by
  decide

/-! ## The order of dates -/

theorem monthLength_nonneg (year month : Int) : 0 ≤ monthLength year month := by
  have lengths := monthLength_cases year month
  omega

theorem toDay_month_mono
    {first last : Int}
    (year : Int)
    (least : 1 ≤ first)
    (order : first ≤ last)
    (most : last ≤ 12) :
    Date.toDay { year, month := first, day := 1 } ≤
      Date.toDay { year, month := last, day := 1 } := by
  have between : 0 ≤ sumFrom (monthLength year) first (last - first).toNat :=
    sumFrom_nonneg (monthLength_nonneg year) _
  rw [sum_monthLength year least order most] at between
  omega

theorem toDay_year_mono
    {first last : Int}
    (order : first ≤ last) :
    Date.toDay { year := first, month := 1, day := 1 } ≤
      Date.toDay { year := last, month := 1, day := 1 } := by
  have between : 0 ≤ sumFrom yearLength first (last - first).toNat :=
    sumFrom_nonneg (fun year => sumFrom_nonneg (monthLength_nonneg year) 12) _
  rw [sum_yearLength order] at between
  omega

/-- The last of a month is no later than the last of the year. -/
theorem toDay_month_end
    {month : Int}
    (year : Int)
    (least : 1 ≤ month)
    (most : month ≤ 12) :
    Date.toDay { year, month, day := 1 } + monthLength year month ≤
      Date.toDay { year := year + 1, month := 1, day := 1 } := by
  rw [Date.toDay_nextYear]
  rcases Int.lt_or_eq_of_le most with before | rfl
  · have next : 1 ≤ month + 1 := by omega
    have december := toDay_month_mono year next before (Int.le_refl 12)
    rw [← Date.toDay_nextMonth year least before]
    omega
  · exact Int.le_refl _

/-- A date before another has the smaller number. -/
theorem Date.toDay_lt
    {former latter : Date}
    (formerValid : former.Valid)
    (latterValid : latter.Valid)
    (before :
      former.year < latter.year ∨
        former.year = latter.year ∧
          (former.month < latter.month ∨
            former.month = latter.month ∧ former.day < latter.day)) :
    former.toDay < latter.toDay := by
  have formerDay := toDay_eq_firstOfMonth former
  have latterDay := toDay_eq_firstOfMonth latter
  have inMonth := formerValid.2.2.2
  have first := latterValid.2.2.1
  have january :=
    toDay_month_mono latter.year (Int.le_refl 1) latterValid.1 latterValid.2.1
  rcases before with year | ⟨year, month | ⟨month, day⟩⟩
  · have december := toDay_month_end former.year formerValid.1 formerValid.2.1
    have years := toDay_year_mono (Int.add_one_le_of_lt year)
    omega
  · have next := toDay_nextMonth former.year formerValid.1
      (Int.lt_of_lt_of_le month latterValid.2.1)
    have months := toDay_month_mono former.year (Int.le_add_one formerValid.1)
      (Int.add_one_le_of_lt month) latterValid.2.1
    rw [year] at formerDay next months inMonth
    omega
  · rw [year, month] at formerDay
    omega

theorem Date.toDay_injOn : Set.InjOn Date.toDay { date | date.Valid } := by
  intro former formerValid latter latterValid same
  have forward := toDay_lt formerValid latterValid
  have backward := toDay_lt latterValid formerValid
  rcases former with ⟨year, month, day⟩
  rcases latter with ⟨year', month', day'⟩
  rw [Date.mk.injEq]
  dsimp only at forward backward
  omega

/-! ## Readings of seconds -/

/-- A date that exists with a time of day. -/
structure Moment.Valid (moment : Moment) : Prop where
  date : moment.date.Valid
  hour : 0 ≤ moment.hour ∧ moment.hour < 24
  minute : 0 ≤ moment.minute ∧ moment.minute < 60
  second : 0 ≤ moment.second ∧ moment.second < 60

/-- The seconds from 1970-01-01T00:00:00Z to a date and time of day,
without leap seconds. -/
def Moment.secondsElapsed (moment : Moment) : Int :=
  moment.date.daysElapsed * 86400 + moment.hour * 3600 + moment.minute * 60 +
    moment.second

/-- A date and time of day that exists and to which a number
of seconds has passed. -/
structure Moment.Shows
    (moment : Moment)
    (second : Int) :
    Prop where
  valid : moment.Valid
  elapsed : moment.secondsElapsed = second

theorem Moment.shows_ofSecond (second : Int) :
    (Moment.ofSecond second).Shows second := by
  have onDate := Date.valid_ofDay (second / secondsPerDay)
  have days := Date.toDay_eq_daysElapsed onDate
  rw [Date.toDay_ofDay] at days
  constructor
  · refine ⟨onDate, ?_, ?_, ?_⟩
    all_goals
      simp only [ofSecond, secondsPerDay]
      omega
  · simp only [secondsElapsed, ofSecond, ← days]
    simp only [secondsPerDay]
    omega

theorem Moment.eq_of_secondsElapsed
    {former latter : Moment}
    (formerValid : former.Valid)
    (latterValid : latter.Valid)
    (same : former.secondsElapsed = latter.secondsElapsed) :
    former = latter := by
  rcases former with ⟨date, hour, minute, second⟩
  rcases latter with ⟨date', hour', minute', second'⟩
  rcases formerValid with ⟨onDate, hours, minutes, seconds⟩
  rcases latterValid with ⟨onDate', hours', minutes', seconds'⟩
  dsimp only at *
  simp only [secondsElapsed, ← Date.toDay_eq_daysElapsed onDate,
    ← Date.toDay_eq_daysElapsed onDate'] at same
  obtain rfl : date = date' := Date.toDay_injOn onDate onDate' (by omega)
  rw [Moment.mk.injEq]
  exact ⟨rfl, by omega, by omega, by omega⟩

/-- Every second has one reading. -/
theorem Moment.shows_iff
    {moment : Moment}
    {second : Int} :
    moment.Shows second ↔ moment = Moment.ofSecond second := by
  have computed := Moment.shows_ofSecond second
  constructor
  · intro shown
    exact eq_of_secondsElapsed shown.valid computed.valid
      (shown.elapsed.trans computed.elapsed.symm)
  · rintro rfl
    exact computed

end TabularSearch.Time
