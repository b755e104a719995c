import TabularSearch.Proofs.Text.Decimal
import TabularSearch.Proofs.Time.Order

/-!
# Buckets of dates

A bucket of a level on a date begins where one of the level's units begins, and
its column shows only the level's own component of this instant.  The finer
components are all least there, so the column tells two such buckets apart
exactly if they have the same coarser components.  A level by years has no
coarser component, and no year comes twice.
-/

namespace TabularSearch

open TabularSearch.Json
open TabularSearch.Text
open TabularSearch.Time

namespace Granularity

/-- The place of a component from the finest to the coarsest. -/
def rank : Granularity → Nat
  | .second => 0
  | .minute => 1
  | .hour => 2
  | .day => 3
  | .month => 4
  | .year => 5

/-- What a component begins with inside the next coarser one. -/
def least : Granularity → Int
  | .day | .month => 1
  | _ => 0

/-- The component of an instant in milliseconds. -/
def ofMillis
    (granularity : Granularity)
    (millis : Int) :
    Int :=
  granularity.ofMoment (Moment.ofSecond (millis / 1000))

/-- At a count of milliseconds a unit begins: nothing finer has passed of it. -/
structure Begins
    (granularity : Granularity)
    (millis : Int) :
    Prop where
  whole : millis % 1000 = 0
  finer :
    ∀ finer, rank finer < granularity.rank → finer.ofMillis millis = finer.least

theorem rank_injective : Function.Injective rank := by
  intro former latter same
  cases former <;> cases latter <;> first | rfl | cases same

theorem moment_eq
    {former latter : Moment}
    (same :
      ∀ component : Granularity,
      component.ofMoment former = component.ofMoment latter) :
    former = latter := by
  rcases former with ⟨⟨year, month, day⟩, hour, minute, second⟩
  rcases latter with ⟨⟨year', month', day'⟩, hour', minute', second'⟩
  obtain rfl : year = year' := same .year
  obtain rfl : month = month' := same .month
  obtain rfl : day = day' := same .day
  obtain rfl : hour = hour' := same .hour
  obtain rfl : minute = minute' := same .minute
  obtain rfl : second = second' := same .second
  rfl

/-- The beginning of a unit is known from its component and the coarser ones. -/
theorem Begins.eq_of_components
    {granularity : Granularity}
    {former latter : Int}
    (begins : granularity.Begins former)
    (again : granularity.Begins latter)
    (same : granularity.ofMillis former = granularity.ofMillis latter)
    (coarser :
      ∀ coarser : Granularity,
        granularity.rank < coarser.rank →
          coarser.ofMillis former = coarser.ofMillis latter) :
    former = latter := by
  -- What is finer is least in both.
  have components (component : Granularity) :
      component.ofMillis former = component.ofMillis latter := by
    rcases Nat.lt_trichotomy component.rank granularity.rank with
      finer | equal | coarse
    · rw [begins.finer component finer, again.finer component finer]
    · rw [rank_injective equal]
      exact same
    · exact coarser component coarse
  have seconds : former / 1000 = latter / 1000 :=
    Moment.ofSecond_injective (moment_eq components)
  have formerWhole := begins.whole
  have latterWhole := again.whole
  omega

/-- Two instants with the same date are on the same day. -/
theorem day_eq_of_components
    {former latter : Int}
    (year : Granularity.year.ofMillis former = Granularity.year.ofMillis latter)
    (month :
      Granularity.month.ofMillis former = Granularity.month.ofMillis latter)
    (day : Granularity.day.ofMillis former = Granularity.day.ofMillis latter) :
    former / 1000 / secondsPerDay = latter / 1000 / secondsPerDay := by
  apply Date.ofDay_injective
  simp only [ofMillis, ofMoment, Moment.ofSecond] at year month day
  rcases first : Date.ofDay (former / 1000 / secondsPerDay) with ⟨_, _, _⟩
  rcases second : Date.ofDay (latter / 1000 / secondsPerDay) with ⟨_, _, _⟩
  rw [first, second] at year month day
  rw [Date.mk.injEq]
  exact ⟨year, month, day⟩

/-- While no coarser component changes, a component grows with time. -/
theorem ofMillis_mono
    {granularity : Granularity}
    {former latter : Int}
    (order : former ≤ latter)
    (coarser :
      ∀ coarser : Granularity,
        granularity.rank < coarser.rank →
          coarser.ofMillis former = coarser.ofMillis latter) :
    granularity.ofMillis former ≤ granularity.ofMillis latter := by
  have seconds : former / 1000 ≤ latter / 1000 :=
    Int.ediv_le_ediv (by decide) order
  have days : former / 1000 / secondsPerDay ≤ latter / 1000 / secondsPerDay :=
    Int.ediv_le_ediv (by decide) seconds
  have dates := Date.ofDay_mono days
  cases granularity with
  | year =>
      simp only [ofMillis, ofMoment, Moment.ofSecond]
      omega
  | month =>
      have year := coarser .year (by decide)
      simp only [ofMillis, ofMoment, Moment.ofSecond] at year ⊢
      omega
  | day =>
      have year := coarser .year (by decide)
      have month := coarser .month (by decide)
      simp only [ofMillis, ofMoment, Moment.ofSecond] at year month ⊢
      omega
  | hour =>
      have day :=
        day_eq_of_components (coarser .year (by decide))
        (coarser .month (by decide)) (coarser .day (by decide))
      simp only [ofMillis, ofMoment, Moment.ofSecond, secondsPerDay] at day ⊢
      omega
  | minute =>
      have day :=
        day_eq_of_components (coarser .year (by decide))
        (coarser .month (by decide)) (coarser .day (by decide))
      have hour := coarser .hour (by decide)
      simp only [ofMillis, ofMoment, Moment.ofSecond, secondsPerDay]
        at day hour ⊢
      omega
  | second =>
      have day :=
        day_eq_of_components (coarser .year (by decide))
        (coarser .month (by decide)) (coarser .day (by decide))
      have hour := coarser .hour (by decide)
      have minute := coarser .minute (by decide)
      simp only [ofMillis, ofMoment, Moment.ofSecond, secondsPerDay]
        at day hour minute ⊢
      omega

/-- What fits 64 bits in milliseconds has components that are
binary numbers as they are. -/
theorem natAbs_ofMillis_lt
    (granularity : Granularity)
    {millis : Int}
    (fits : -0x8000000000000000 ≤ millis ∧ millis < 0x8000000000000000) :
    (granularity.ofMillis millis).natAbs < 0x20000000000000 := by
  have date := Date.bounds_ofDay (millis / 1000 / secondsPerDay)
  have year := Date.year_bounds_ofDay (millis / 1000 / secondsPerDay)
  simp only [eraDays, epochOffset, secondsPerDay] at date year
  simp only [ofMillis, Moment.ofSecond, secondsPerDay]
  cases granularity with
  | _ =>
      simp only [ofMoment]
      omega

theorem ofMillis_fits
    (granularity : Granularity)
    {millis : Int}
    (fits : -0x8000000000000000 ≤ millis ∧ millis < 0x8000000000000000) :
    -0x8000000000000000 ≤ granularity.ofMillis millis ∧
      granularity.ofMillis millis < 0x8000000000000000 := by
  have small := granularity.natAbs_ofMillis_lt fits
  omega

end Granularity

/-! ## The column of a date -/

/-- A bucket with an instant in milliseconds for its key, of which its
text is the component. -/
structure ShowsInstant
    (granularity : Granularity)
    (bucket : Members)
    (millis : Int) :
    Prop where
  key : (bucketKey bucket).asSigned? = some millis
  text :
    ∃ text, bucketKeyText? bucket = some text ∧
      Spells text (granularity.ofMillis millis)

/-- A bucket of a level on a date: its key is where it begins, in milliseconds,
and its text is the component of this instant. -/
structure DateBucket
    (granularity : Granularity)
    (bucket : Members)
    (millis : Int) :
    Prop
    extends ShowsInstant granularity bucket millis where
  begins : granularity.Begins millis

theorem asSigned?_eq_some_iff
    {value : Value}
    {number : Int} :
    value.asSigned? = some number ↔
      ∃ bounded, value = .number (.whole number bounded) ∧
        number < 0x8000000000000000 := by
  cases value with
  | number written =>
      cases written with
      | whole whole bounded =>
          simp only [Value.asSigned?, Number.toSigned?,
            Option.ite_none_right_eq_some, Option.some.injEq,
            Value.number.injEq, Number.whole.injEq]
          constructor
          · rintro ⟨small, rfl⟩
            exact ⟨bounded, rfl, small⟩
          · rintro ⟨-, rfl, small⟩
            exact ⟨small, rfl⟩
      | binary value => simp [Value.asSigned?, Number.toSigned?]
  | _ => simp [Value.asSigned?]

theorem asSigned?_intValue
    {value : Int}
    (fits : -0x8000000000000000 ≤ value ∧ value < 0x8000000000000000) :
    (intValue value).asSigned? = some value := by
  have bounded : -0x8000000000000000 ≤ value ∧ value < 0x10000000000000000 := by
    omega
  simp [intValue, Number.ofInt?, bounded, Value.asSigned?, Number.toSigned?,
    fits.2]

theorem intValue_inj
    {former latter : Int}
    (formerFits : -0x8000000000000000 ≤ former ∧ former < 0x8000000000000000)
    (latterFits : -0x8000000000000000 ≤ latter ∧ latter < 0x8000000000000000) :
    intValue former = intValue latter ↔ former = latter := by
  have formerBounded :
      -0x8000000000000000 ≤ former ∧ former < 0x10000000000000000 := by omega
  have latterBounded :
      -0x8000000000000000 ≤ latter ∧ latter < 0x10000000000000000 := by omega
  simp [intValue, Number.ofInt?, formerBounded, latterBounded]

section Shown

variable {granularity : Granularity} {bucket : Members} {millis : Int}

theorem ShowsInstant.fits (shows : ShowsInstant granularity bucket millis) :
    -0x8000000000000000 ≤ millis ∧ millis < 0x8000000000000000 := by
  rcases asSigned?_eq_some_iff.1 shows.key with ⟨bounded, -, small⟩
  exact ⟨bounded.1, small⟩

theorem ShowsInstant.groupKey_eq
    (shows : ShowsInstant granularity bucket millis)
    (field label : String) :
    groupKey bucket (.byTime field label granularity) =
      intValue (granularity.ofMillis millis) := by
  rcases shows.text with ⟨text, written, spelled⟩
  have read :=
    readSigned?_eq_some spelled (granularity.ofMillis_fits shows.fits)
  rw [groupKey, timeKey?, written, Option.bind_some, read]

end Shown

namespace DateBucket

variable {granularity : Granularity} {bucket sibling : Members}
  {millis other : Int} (dated : DateBucket granularity bucket millis)
  (also : DateBucket granularity sibling other)

include dated also

/-- The column does not tell two buckets apart exactly if they agree in the
component and differ in a coarser one. -/
theorem groupKey_eq_iff
    (differ : bucketKey bucket ≠ bucketKey sibling)
    (field label : String) :
    groupKey bucket (.byTime field label granularity) =
        groupKey sibling (.byTime field label granularity) ↔
      granularity.ofMillis millis = granularity.ofMillis other ∧
        ∃ coarser : Granularity,
          granularity.rank < coarser.rank ∧
            coarser.ofMillis millis ≠ coarser.ofMillis other := by
  rw [dated.groupKey_eq, also.groupKey_eq,
    intValue_inj (granularity.ofMillis_fits dated.fits)
      (granularity.ofMillis_fits also.fits)]
  constructor
  · intro same
    refine ⟨same, ?_⟩
    by_contra alike
    simp only [not_exists, not_and, ne_eq, not_not] at alike
    obtain rfl := dated.begins.eq_of_components also.begins same alike
    rcases asSigned?_eq_some_iff.1 dated.key with ⟨_, key, -⟩
    rcases asSigned?_eq_some_iff.1 also.key with ⟨_, otherKey, -⟩
    exact differ (key.trans otherKey.symm)
  · exact And.left

end DateBucket

end TabularSearch
