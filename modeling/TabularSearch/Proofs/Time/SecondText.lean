import TabularSearch.Proofs.Time.Written

/-!
# The order of seconds and of their texts

Instants are sent as text to the second.  A leap second is a second of its own,
after the one that has its number.  In two texts the same parts stand at the
same places as long as the years have four digits, coarser parts come first and
zeros fill them up: the texts stand in the order of the seconds
(`Instant.secondText_lt`).  Years of any length give different texts for
different seconds, since a text is read back as the beginning of its second
(`Instant.secondText_eq_iff`).
-/

namespace TabularSearch.Time

open TabularSearch.Text

/-! ## Seconds -/

/-- Whether an instant lies in a leap second. -/
def Instant.IsLeap (instant : Instant) : Prop :=
  nanosPerSecond ≤ instant.nanos

/-- Two instants lie in one second; a leap second is another one than
the second before it. -/
def Instant.SameSecond (former latter : Instant) : Prop :=
  former.second = latter.second ∧ (former.IsLeap ↔ latter.IsLeap)

/-- The second of an instant is over when that of another begins. -/
def Instant.SecondBefore (former latter : Instant) : Prop :=
  former.second < latter.second ∨
    former.second = latter.second ∧ ¬ former.IsLeap ∧ latter.IsLeap

theorem Instant.second_cases (former latter : Instant) :
    former.SecondBefore latter ∨ former.SameSecond latter ∨
      latter.SecondBefore former := by
  rcases Int.lt_trichotomy former.second latter.second with
    earlier | same | later
  · exact Or.inl (Or.inl earlier)
  · by_cases formerLeap : former.IsLeap <;> by_cases latterLeap : latter.IsLeap
    all_goals simp [SecondBefore, SameSecond, same, formerLeap, latterLeap]
  · exact Or.inr (Or.inr (Or.inl later))

/-! ## The order of readings -/

/-- A later day has a later date. -/
theorem Date.ofDay_lt
    {former latter : Int}
    (before : former < latter) :
    (ofDay former).year < (ofDay latter).year ∨
      (ofDay former).year = (ofDay latter).year ∧
        ((ofDay former).month < (ofDay latter).month ∨
          (ofDay former).month = (ofDay latter).month ∧
            (ofDay former).day < (ofDay latter).day) := by
  have order := ofDay_mono (Int.le_of_lt before)
  have apart := ofDay_injective.ne (Int.ne_of_lt before)
  rcases first : ofDay former with ⟨year, month, day⟩
  rcases second : ofDay latter with ⟨year', month', day'⟩
  rw [first, second] at order apart
  rw [ne_eq, Date.mk.injEq] at apart
  dsimp only at order ⊢
  omega

/-- The parts of a reading, the coarsest first. -/
def Moment.parts (moment : Moment) : List Int :=
  [moment.date.year, moment.date.month, moment.date.day, moment.hour,
    moment.minute, moment.second]

theorem Instant.moment_eq_of_sameSecond
    {former latter : Instant}
    (same : former.SameSecond latter) :
    former.moment = latter.moment := by
  rcases same with ⟨second, leap⟩
  rw [IsLeap, IsLeap] at leap
  simp only [moment, second, leap]

/-- A later second has a later reading. -/
theorem Instant.parts_lt
    {former latter : Instant}
    (before : former.SecondBefore latter) :
    former.moment.parts < latter.moment.parts := by
  rcases former.moment_parts with ⟨date, hour, minute⟩
  rcases latter.moment_parts with ⟨date', hour', minute'⟩
  have second := former.second_moment
  have second' := latter.second_moment
  simp only [Moment.parts, List.cons_lt_cons_iff, List.not_lt_nil, and_false,
    or_false]
  rw [date, hour, minute, second, date', hour', minute', second']
  rcases before with earlier | ⟨same, ordinary, leap⟩
  · have days : former.second / secondsPerDay ≤ latter.second / secondsPerDay :=
      Int.ediv_le_ediv (by decide) (Int.le_of_lt earlier)
    rcases Int.lt_or_eq_of_le days with day | day
    · have dates := Date.ofDay_lt day
      omega
    · -- On one day the time of day decides, and a leap second ends a minute.
      have ends := former.leap_at_end
      rw [day]
      refine Or.inr ⟨rfl, Or.inr ⟨rfl, Or.inr ⟨rfl, ?_⟩⟩⟩
      simp only [secondsPerDay] at day ⊢
      split <;> split <;> omega
  · have last := latter.leap_at_end leap
    rw [IsLeap] at ordinary leap
    rw [same, if_neg ordinary, if_pos leap]
    omega

/-! ## The order of texts -/

/-- Of two rows of digits of one length, with a number in front of each, the
one with the smaller value has the smaller number in front, or the same one
and the smaller digits. -/
theorem lt_or_append_lt_of_ofDigitChars_lt
    {former latter : List Char}
    (length : former.length = latter.length)
    (formerDigits : ∀ digit ∈ former, digit.isDigit = true)
    (latterDigits : ∀ digit ∈ latter, digit.isDigit = true)
    {start other : Nat}
    (less : Nat.ofDigitChars 10 former start < Nat.ofDigitChars 10 latter other)
    (rest others : List Char) :
    start < other ∨ start = other ∧ former ++ rest < latter ++ others := by
  induction former generalizing latter start other with
  | nil =>
      obtain rfl : latter = [] := List.eq_nil_of_length_eq_zero length.symm
      exact Or.inl less
  | cons first former step =>
      cases latter with
      | nil => cases length
      | cons head latter =>
          have firstDigit :=
            toNat_bounds_of_isDigit (formerDigits first List.mem_cons_self)
          have headDigit :=
            toNat_bounds_of_isDigit (latterDigits head List.mem_cons_self)
          have zero : '0'.toNat = 48 := rfl
          rw [Nat.ofDigitChars_cons, Nat.ofDigitChars_cons, zero] at less
          rw [List.cons_append, List.cons_append, List.cons_lt_cons_iff,
            Char.lt_def, UInt32.lt_iff_toNat_lt]
          have order := step (Nat.succ.inj length)
            (fun _ member => formerDigits _ (List.mem_cons_of_mem _ member))
            (fun _ member => latterDigits _ (List.mem_cons_of_mem _ member))
              less
          rcases order with smaller | ⟨equal, tails⟩
          · -- A digit makes a number differ in what was there before, or
            -- else in this digit.
            change start < other ∨ start = other ∧
              (first.toNat < head.toNat ∨
                first = head ∧ former ++ rest < latter ++ others)
            omega
          · have same : first = head := Char.toNat_inj.1 (by omega)
            exact Or.inr ⟨by omega, Or.inr ⟨same, tails⟩⟩

/-- A smaller number is written by smaller digits in the same width. -/
theorem paddedDigits_append_lt
    {width former latter : Nat}
    (positive : 0 < width)
    (small : latter < 10 ^ width)
    (less : former < latter)
    (rest others : List Char) :
    paddedDigits width former ++ rest <
      paddedDigits width latter ++ others := by
  have value (number : Nat) :
      Nat.ofDigitChars 10 (paddedDigits width number) 0 = number :=
    (decimalValue_eq _).symm.trans decimalValue_paddedDigits
  have length :
      (paddedDigits width former).length =
        (paddedDigits width latter).length := by
    rw [length_paddedDigits positive (Nat.lt_trans less small),
      length_paddedDigits positive small]
  have digits (number : Nat) :
      ∀ digit ∈ paddedDigits width number, digit.isDigit = true :=
    fun _ => isDigit_of_mem_paddedDigits
  have values :
      Nat.ofDigitChars 10 (paddedDigits width former) 0 <
        Nat.ofDigitChars 10 (paddedDigits width latter) 0 := by
    rwa [value, value]
  have order :=
    lt_or_append_lt_of_ofDigitChars_lt length (digits former) (digits latter)
    values rest others
  exact (order.resolve_left (Nat.lt_irrefl 0)).2

section Parts

variable {former latter : Int} {rest others : List Char}

theorem twoDigits_append_lt
    (bounds : 0 ≤ former ∧ 0 ≤ latter ∧ latter < 100)
    (mark : Char)
    (before : former < latter ∨ former = latter ∧ rest < others) :
    twoDigits former ++ mark :: rest < twoDigits latter ++ mark :: others := by
  rcases before with less | ⟨rfl, behind⟩
  · exact paddedDigits_append_lt (by decide) (by omega) (by omega) _ _
  · exact List.append_left_lt (List.cons_lt_cons_iff.2 (Or.inr ⟨rfl, behind⟩))

theorem yearText_append_lt
    (bounds : 0 ≤ former ∧ 0 ≤ latter ∧ latter ≤ 9999)
    (mark : Char)
    (before : former < latter ∨ former = latter ∧ rest < others) :
    yearText former ++ mark :: rest < yearText latter ++ mark :: others := by
  rcases before with less | ⟨rfl, behind⟩
  · rw [yearText, yearText, if_pos (by omega), if_pos (by omega)]
    exact paddedDigits_append_lt (by decide) (by omega) (by omega) _ _
  · exact List.append_left_lt (List.cons_lt_cons_iff.2 (Or.inr ⟨rfl, behind⟩))

end Parts

/-- The parts of a reading have two digits, but for the year. -/
theorem Instant.moment_twoDigits (instant : Instant) :
    (0 ≤ instant.moment.date.month ∧ instant.moment.date.month < 100) ∧
      (0 ≤ instant.moment.date.day ∧ instant.moment.date.day < 100) ∧
      (0 ≤ instant.moment.hour ∧ instant.moment.hour < 100) ∧
      (0 ≤ instant.moment.minute ∧ instant.moment.minute < 100) ∧
      0 ≤ instant.moment.second ∧ instant.moment.second < 100 := by
  have date := Date.bounds_ofDay (instant.second / secondsPerDay)
  rcases instant.moment_bounds with ⟨-, -, hours, minutes, seconds⟩
  rw [← instant.moment_parts.1] at date
  omega

/-- Years without a sign. -/
def Instant.PlainYear (instant : Instant) : Prop :=
  0 ≤ instant.moment.date.year ∧ instant.moment.date.year ≤ 9999

theorem Instant.secondText_lt
    {former latter : Instant}
    (formerYear : former.PlainYear)
    (latterYear : latter.PlainYear)
    (before : former.SecondBefore latter) :
    former.secondText < latter.secondText := by
  have order := parts_lt before
  obtain ⟨month, day, hour, minute, second⟩ := former.moment_twoDigits
  obtain ⟨month', day', hour', minute', second'⟩ := latter.moment_twoDigits
  simp only [Moment.parts, List.cons_lt_cons_iff, List.not_lt_nil, and_false,
    or_false] at order
  rw [String.lt_iff, secondText, secondText, String.toList_ofList,
    String.toList_ofList]
  simp only [Moment.text, List.append_assoc, List.cons_append]
  refine yearText_append_lt ⟨formerYear.1, latterYear.1, latterYear.2⟩ '-'
    (order.imp_right (And.imp_right fun order => ?_))
  refine twoDigits_append_lt ⟨month.1, month'.1, month'.2⟩ '-'
    (order.imp_right (And.imp_right fun order => ?_))
  refine twoDigits_append_lt ⟨day.1, day'.1, day'.2⟩ 'T'
    (order.imp_right (And.imp_right fun order => ?_))
  refine twoDigits_append_lt ⟨hour.1, hour'.1, hour'.2⟩ ':'
    (order.imp_right (And.imp_right fun order => ?_))
  refine twoDigits_append_lt ⟨minute.1, minute'.1, minute'.2⟩ ':'
    (order.imp_right (And.imp_right fun order => ?_))
  exact twoDigits_append_lt ⟨second.1, second'.1, second'.2⟩ 'Z' (Or.inl order)

/-! ## Texts that agree -/

/-- The beginning of an instant's second. -/
def Instant.secondStart (instant : Instant) : Instant :=
  { instant with
    nanos := if nanosPerSecond ≤ instant.nanos then nanosPerSecond else 0
    nanos_lt := by split <;> decide
    leap_at_end := by
      split
      · rename_i leap
        exact fun _ => instant.leap_at_end leap
      · exact fun none => absurd none (by decide) }

theorem Instant.sameSecond_secondStart (instant : Instant) :
    instant.secondStart.SameSecond instant := by
  refine ⟨rfl, ?_⟩
  rw [IsLeap, IsLeap, secondStart]
  dsimp only
  split
  · rename_i leap
    exact iff_of_true (Nat.le_refl _) leap
  · rename_i ordinary
    exact iff_of_false (by decide) ordinary

/-- The text of a second is the whole text of its beginning. -/
theorem Instant.text_secondStart (instant : Instant) :
    instant.secondStart.text = instant.secondText := by
  have whole : instant.secondStart.fraction = 0 := by
    rw [fraction, secondStart]
    dsimp only
    split <;> rfl
  rw [text, secondText, moment_eq_of_sameSecond instant.sameSecond_secondStart,
    whole, fractionText, if_pos rfl, List.append_nil]

/-- Instants have the same text to the second exactly if they
lie in one second. -/
theorem Instant.secondText_eq_iff {former latter : Instant} :
    former.secondText = latter.secondText ↔ former.SameSecond latter := by
  constructor
  · intro same
    rw [← text_secondStart, ← text_secondStart] at same
    have starts : former.secondStart = latter.secondStart := by
      have read := congrArg Instant.read? same
      rw [read?_text, read?_text] at read
      exact Option.some.inj read
    have start := former.sameSecond_secondStart
    have start' := latter.sameSecond_secondStart
    rw [starts] at start
    exact ⟨start.1.symm.trans start'.1, start.2.symm.trans start'.2⟩
  · intro same
    rw [secondText, secondText, moment_eq_of_sameSecond same]

/-- While the years have four digits, texts stand in the order
of their seconds. -/
theorem Instant.secondText_lt_iff
    {former latter : Instant}
    (formerYear : former.PlainYear)
    (latterYear : latter.PlainYear) :
    former.secondText < latter.secondText ↔ former.SecondBefore latter := by
  constructor
  · intro less
    rcases former.second_cases latter with before | same | after
    · exact before
    · rw [secondText_eq_iff.2 same] at less
      exact absurd less (String.lt_irrefl _)
    · exact absurd less
        (String.lt_asymm (secondText_lt latterYear formerYear after))
  · exact secondText_lt formerYear latterYear

end TabularSearch.Time
