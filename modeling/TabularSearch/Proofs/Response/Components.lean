import TabularSearch.Proofs.Response.TimeKeys
import TabularSearch.Proofs.Time.Count

/-!
# Components of an instant

The components of a count of milliseconds make up the one date and time of day
that it shows, and counts beyond the range of dates have none
(`component?_recomposes`).  The column of a level on a date takes its number
from the text of a bucket's key, or computes it where the text is none.
Whenever the text is right, both ways lead to the same number
(`groupKey_byTime_agrees`).
-/

namespace TabularSearch

open TabularSearch.Json
open TabularSearch.Text
open TabularSearch.Time

/-- Milliseconds from 1970 within the years that dates may have. -/
def HasDate (millis : Int) : Prop :=
  -8334601228800000 ≤ millis ∧ millis ≤ 8210266876799999

/-- Whether a count of milliseconds has a date can be decided. -/
instance (millis : Int) : Decidable (HasDate millis) := by
  unfold HasDate
  infer_instance

theorem hasDate_iff {millis : Int} :
    HasDate millis ↔ InRange (millis / 1000) := by
  simp only [HasDate, InRange, leastSecond, greatestSecond]
  omega

namespace Granularity

theorem component?_of_hasDate
    {millis : Int}
    (dated : HasDate millis)
    (granularity : Granularity) :
    granularity.component? millis =
      some (granularity.ofMoment (Moment.ofSecond (millis / 1000))) :=
  if_pos (hasDate_iff.1 dated)

theorem component?_of_not_hasDate
    {millis : Int}
    (undated : ¬ HasDate millis)
    (granularity : Granularity) :
    granularity.component? millis = none :=
  if_neg (mt hasDate_iff.2 undated)

/-- In the range of dates the six components are the parts of the only date and
time of day that exists and has as many seconds from 1970 as there are whole
ones in the milliseconds.  Outside there are none. -/
theorem component?_recomposes (millis : Int) :
    (HasDate millis →
        ∃ moment : Moment,
          (∀ other : Moment, other.Shows (millis / 1000) ↔ other = moment) ∧
            year.component? millis = some moment.date.year ∧
            month.component? millis = some moment.date.month ∧
            day.component? millis = some moment.date.day ∧
            hour.component? millis = some moment.hour ∧
            minute.component? millis = some moment.minute ∧
            second.component? millis = some moment.second) ∧
      (¬ HasDate millis → ∀ granularity : Granularity,
        granularity.component? millis = none) := by
  constructor
  · intro dated
    have component := component?_of_hasDate dated
    exact ⟨Moment.ofSecond (millis / 1000), fun _ => Moment.shows_iff,
      component year,
      component month, component day, component hour, component minute,
      component second⟩
  · exact component?_of_not_hasDate

/-- The last millisecond before 1970 ends the year 1969; the first one after the
range of dates has no components. -/
theorem component?_recomposes_lastOf1969 :
    (HasDate (-1) ∧
        (Moment.Shows
            { date := { year := 1969, month := 12, day := 31 }
              hour := 23
              minute := 59
              second := 59 }
            (-1 / 1000) ∧
          year.component? (-1) = some 1969 ∧ month.component? (-1) = some 12 ∧
            day.component? (-1) = some 31 ∧ hour.component? (-1) = some 23 ∧
              minute.component? (-1) = some 59 ∧
                second.component? (-1) = some 59)) ∧
      ¬ HasDate 8210266876800000 ∧
        ∀ granularity : Granularity,
          granularity.component? 8210266876800000 = none := by
  have dated : HasDate (-1) := by decide
  have undated : ¬ HasDate 8210266876800000 := by decide
  obtain ⟨moment, only, components⟩ := (component?_recomposes (-1)).1 dated
  obtain rfl : Moment.ofSecond (-1 / 1000) = moment :=
    (only _).1 (Moment.shows_ofSecond _)
  exact ⟨⟨dated, (only _).2 rfl, components⟩, undated,
    (component?_recomposes 8210266876800000).2 undated⟩

end Granularity

/-! ## Text and milliseconds -/

/-- A bucket's key has a text, and the text is a whole number. -/
def KeyTextWrites
    (bucket : Members)
    (value : Int) :
    Prop :=
  ∃ text, bucketKeyText? bucket = some text ∧ Writes text value

/-- A bucket's key has no text, or one that is no whole number of 64 bits. -/
def KeyTextUnusable (bucket : Members) : Prop :=
  ∀ value, KeyTextWrites bucket value →
    ¬ (-0x8000000000000000 ≤ value ∧ value < 0x8000000000000000)

section KeyText

variable {bucket : Members}

theorem timeKey?_of_keyTextWrites
    {value : Int}
    (written : KeyTextWrites bucket value)
    (fits : -0x8000000000000000 ≤ value ∧ value < 0x8000000000000000)
    (granularity : Granularity) :
    timeKey? granularity bucket = some value := by
  rcases written with ⟨text, found, number⟩
  rw [timeKey?, found, Option.bind_some,
    readSigned?_eq_some_iff.2 ⟨number, fits⟩]

theorem timeKey?_of_keyTextUnusable
    (unusable : KeyTextUnusable bucket)
    (granularity : Granularity) :
    timeKey? granularity bucket =
      (bucketKey bucket).asSigned?.bind granularity.component? := by
  have unread : (bucketKeyText? bucket).bind readSigned? = none := by
    refine Option.eq_none_iff_forall_ne_some.2 fun value read => ?_
    obtain ⟨text, found, number⟩ := Option.bind_eq_some_iff.1 read
    obtain ⟨written, fits⟩ := readSigned?_eq_some_iff.1 number
    exact unusable value ⟨text, found, written⟩ fits
  rw [timeKey?, unread]

theorem keyTextUnusable_of_none (missing : bucketKeyText? bucket = none) :
    KeyTextUnusable bucket := by
  rintro value ⟨text, found, -⟩
  rw [missing] at found
  cases found

theorem keyTextUnusable_of_unread
    {text : String}
    (found : bucketKeyText? bucket = some text)
    (unread : readSigned? text = none) :
    KeyTextUnusable bucket := by
  rintro value ⟨other, same, written⟩ fits
  obtain rfl : text = other := Option.some.inj (found.symm.trans same)
  rw [readSigned?_eq_some_iff.2 ⟨written, fits⟩] at unread
  cases unread

end KeyText

theorem groupKey_byTime_eq
    {granularity : Granularity}
    {bucket : Members}
    {value : Int}
    (found : timeKey? granularity bucket = some value)
    (bounded : -0x8000000000000000 ≤ value ∧ value < 0x10000000000000000)
    (field label : String) :
    groupKey bucket (.byTime field label granularity) =
      .number (.whole value bounded) := by
  rw [groupKey, found]
  simp only [intValue, Number.ofInt?, dif_pos bounded]

/-- A bucket whose key is a count of milliseconds with a date has the same
number in its column, the component of the instant, whether its text is this
component, is missing or is no number.  Without a date and without such a
text the column is null. -/
theorem groupKey_byTime_agrees
    (granularity : Granularity)
    (field label : String) :
    (∀ millis : Int, HasDate millis →
        ∃ moment : Moment, moment.Shows (millis / 1000) ∧
          ∃ bounded, ∀ bucket : Members,
          (bucketKey bucket).asSigned? = some millis →
            KeyTextWrites bucket (granularity.ofMoment moment) ∨
                KeyTextUnusable bucket →
              groupKey bucket (.byTime field label granularity) =
                .number (.whole (granularity.ofMoment moment) bounded)) ∧
      ∀ bucket : Members,
        (∀ millis : Int, (bucketKey bucket).asSigned? = some millis →
          ¬ HasDate millis) →
          KeyTextUnusable bucket →
            groupKey bucket (.byTime field label granularity) = .null := by
  constructor
  · intro millis dated
    have fits : -0x8000000000000000 ≤ granularity.ofMillis millis ∧
        granularity.ofMillis millis < 0x8000000000000000 := by
      refine granularity.ofMillis_fits ?_
      rw [HasDate] at dated
      omega
    refine ⟨Moment.ofSecond (millis / 1000), Moment.shows_ofSecond _,
      ⟨fits.1, Int.lt_trans fits.2 (by decide)⟩, ?_⟩
    rintro bucket key (written | unusable)
    · exact groupKey_byTime_eq
        (timeKey?_of_keyTextWrites written fits granularity) _ field label
    · refine groupKey_byTime_eq ?_ _ field label
      rw [timeKey?_of_keyTextUnusable unusable, key, Option.bind_some,
        Granularity.component?_of_hasDate dated]
  · intro bucket undated unusable
    have nothing : timeKey? granularity bucket = none := by
      rw [timeKey?_of_keyTextUnusable unusable]
      refine Option.bind_eq_none_iff.2 fun millis key => ?_
      exact Granularity.component?_of_not_hasDate (undated millis key)
        granularity
    rw [groupKey, nothing]

/-- A bucket with a number of milliseconds for its key. -/
def timedBucket
    (millis : Int)
    (text : Option String) :
    Members :=
  ("key", intValue millis) :: text.toList.map fun text =>
    ("key_as_string", .string text)

/-- The year of the last millisecond before 1970 from a padded text, from no
text and from one that is no number; and none from the first millisecond after
the range of dates, with a number of more than 64 bits for its text. -/
theorem groupKey_byTime_agrees_lastOf1969 :
    (HasDate (-1) ∧
        ∃ bounded, ∀ text ∈ [some " 01969\t", none, some "late"],
          groupKey (timedBucket (-1) text) (.byTime "ts" "year" .year) =
            .number (.whole 1969 bounded)) ∧
      groupKey (timedBucket 8210266876800000 (some "9223372036854775808"))
          (.byTime "ts" "year" .year) =
        .null := by
  obtain ⟨agrees, nothing⟩ := groupKey_byTime_agrees .year "ts" "year"
  have dated : HasDate (-1) := by decide
  obtain ⟨moment, shows, bounded, same⟩ := agrees (-1) dated
  obtain rfl := Moment.shows_iff.1 shows
  have padded : KeyTextWrites (timedBucket (-1) (some " 01969\t")) 1969 :=
    ⟨_, rfl,
      (readSigned?_eq_some_iff.1
        (by decide : readSigned? " 01969\t" = some 1969)).1⟩
  refine ⟨⟨dated, bounded, ?_⟩, ?_⟩
  · intro text member
    simp only [List.mem_cons, List.not_mem_nil, or_false] at member
    rcases member with rfl | rfl | rfl
    · exact same _ rfl (Or.inl padded)
    · exact same _ rfl (Or.inr (keyTextUnusable_of_none rfl))
    · exact same _ rfl (Or.inr (keyTextUnusable_of_unread rfl (by decide)))
  · refine nothing _ (fun millis key => ?_)
      (keyTextUnusable_of_unread rfl (by decide))
    obtain rfl : 8210266876800000 = millis := Option.some.inj key
    decide

end TabularSearch
