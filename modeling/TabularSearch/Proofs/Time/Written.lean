import Mathlib.Algebra.Group.Nat.Defs
import TabularSearch.Proofs.Text.Decimal
import TabularSearch.Proofs.Time.Valid
import TabularSearch.Time.Rfc3339

/-!
# Dates that are read back

The text of an instant has every part in full and in order: a year of at
least four digits, which a sign announces where it may have more, pairs
of digits, and as much of a fraction as is exact.  Each part is read as
it was written, whatever follows it, and the parts make up the instant
again, a leap second included.
-/

namespace TabularSearch.Time

open TabularSearch.Text

/-! ## Digits -/

/-- Nothing goes on with a digit. -/
def EndsDigits (rest : List Char) : Prop :=
  ∀ first ∈ rest.head?, first.isDigit = false

theorem takeWhile_take
    {rest : List Char}
    (ends : EndsDigits rest)
    (most : Nat) :
    (rest.take most).takeWhile Char.isDigit = [] := by
  cases rest with
  | nil => simp
  | cons first others =>
      cases most with
      | zero => rfl
      | succ most =>
          rw [List.take_succ_cons, List.takeWhile_cons, ends first rfl]
          rfl

/-- Digits are read up to their end or to the greatest number of them. -/
theorem digitsUpTo?_append
    {most : Nat}
    {digits rest : List Char}
    (decimal : ∀ digit ∈ digits, digit.isDigit = true)
    (inhabited : digits ≠ [])
    (short : digits.length ≤ most)
    (ends : digits.length = most ∨ EndsDigits rest) :
    digitsUpTo? most (digits ++ rest) = some (digits, rest) := by
  have behind :
      (rest.take (most - digits.length)).takeWhile Char.isDigit = [] := by
    rcases ends with full | ends
    · rw [full, Nat.sub_self, List.take_zero, List.takeWhile_nil]
    · exact takeWhile_take ends _
  have read : ((digits ++ rest).take most).takeWhile Char.isDigit = digits := by
    rw [List.take_append, List.take_of_length_le short,
      List.takeWhile_append_of_pos decimal, behind, List.append_nil]
  rw [digitsUpTo?, read, List.drop_left]
  cases digits with
  | nil => exact absurd rfl inhabited
  | cons first others => rfl

section Padded

variable {width value : Nat}

theorem isDigit_of_mem_paddedDigits
    {digit : Char}
    (member : digit ∈ paddedDigits width value) :
    digit.isDigit = true :=
  isDigit_of_mem_zeros member

theorem paddedDigits_ne_nil : paddedDigits width value ≠ [] :=
  List.append_ne_nil_of_right_ne_nil _ Nat.toDigits_ne_nil

theorem decimalValue_paddedDigits :
    decimalValue (paddedDigits width value) = value :=
  decimalValue_zeros _ _

theorem length_paddedDigits
    (positive : 0 < width)
    (small : value < 10 ^ width) :
    (paddedDigits width value).length = width := by
  have fits : (decimalDigits value).length ≤ width :=
    (Nat.length_toDigits_le_iff (by decide) positive).2 small
  rw [paddedDigits, List.length_append, List.length_replicate]
  omega

theorem trimStart_paddedDigits (rest : List Char) :
    trimStart (paddedDigits width value ++ rest) =
      paddedDigits width value ++ rest :=
  trimStart_eq_self
    (fun _ member => isBlank_of_isDigit (isDigit_of_mem_paddedDigits member))
    rest paddedDigits_ne_nil

end Padded

/-! ## Parts of a date -/

theorem readPart?_twoDigits
    {value : Int}
    (bounds : 0 ≤ value ∧ value < 100)
    (rest : List Char) :
    readPart? (twoDigits value ++ rest) = some (value, rest) := by
  have full : (paddedDigits 2 value.natAbs).length = 2 :=
    length_paddedDigits (by decide) (by omega)
  have read : digitsUpTo? 2 (paddedDigits 2 value.natAbs ++ rest) =
      some (paddedDigits 2 value.natAbs, rest) :=
    digitsUpTo?_append (fun _ => isDigit_of_mem_paddedDigits)
      paddedDigits_ne_nil (Nat.le_of_eq full) (Or.inl full)
  rw [readPart?, twoDigits, trimStart_paddedDigits, read]
  simp only [Option.map_some, decimalValue_paddedDigits,
    Int.natAbs_of_nonneg bounds.1]

theorem readMark?_cons
    {mark : Char}
    (inked : isBlank mark = false)
    {rest : List Char}
    (solid : trimStart rest = rest) :
    readMark? mark (mark :: rest) = some rest := by
  have kept : trimStart (mark :: rest) = mark :: rest :=
    List.dropWhile_cons_of_neg (by rw [inked]; exact Bool.false_ne_true)
  rw [readMark?, kept]
  simp only [if_pos, solid]

theorem trimStart_twoDigits (value : Int) (rest : List Char) :
    trimStart (twoDigits value ++ rest) = twoDigits value ++ rest :=
  trimStart_paddedDigits rest

/-- Digits behind a sign are read up to the next mark, however
many there are. -/
theorem digitsUpTo?_length
    (value : Nat)
    (rest : List Char) :
    digitsUpTo? (paddedDigits 4 value ++ '-' :: rest).length
        (paddedDigits 4 value ++ '-' :: rest) =
      some (paddedDigits 4 value, '-' :: rest) := by
  refine digitsUpTo?_append (fun _ => isDigit_of_mem_paddedDigits)
    paddedDigits_ne_nil ?_ ?_
  · rw [List.length_append]
    exact Nat.le_add_right _ _
  · refine Or.inr fun first head => ?_
    obtain rfl : '-' = first := Option.some.inj head
    rfl

/-- A digit in front is no sign, so at most four digits are the year. -/
theorem readYear?_of_digits
    {digits : List Char}
    (decimal : ∀ digit ∈ digits, digit.isDigit = true)
    (inhabited : digits ≠ [])
    (rest : List Char) :
    readYear? (digits ++ rest) =
      (digitsUpTo? 4 (digits ++ rest)).map fun (digits, rest) =>
        ((decimalValue digits : Int), rest) := by
  rw [readYear?,
    trimStart_eq_self (fun _ member => isBlank_of_isDigit (decimal _ member))
      rest inhabited]
  cases digits with
  | nil => exact absurd rfl inhabited
  | cons first others =>
      have digit := decimal first List.mem_cons_self
      have unsigned : first ≠ '-' ∧ first ≠ '+' := by
        constructor
        · rintro rfl
          cases digit
        · rintro rfl
          cases digit
      simp [unsigned]

/-- A year without a sign has four digits, and one with a sign
goes on to the next mark. -/
theorem readYear?_yearText
    (year : Int)
    (rest : List Char) :
    readYear? (yearText year ++ '-' :: rest) = some (year, '-' :: rest) := by
  rw [yearText]
  split
  · rename_i plain
    have full : (paddedDigits 4 year.natAbs).length = 4 :=
      length_paddedDigits (by decide) (by omega)
    have read : digitsUpTo? 4 (paddedDigits 4 year.natAbs ++ '-' :: rest) =
        some (paddedDigits 4 year.natAbs, '-' :: rest) :=
      digitsUpTo?_append (fun _ => isDigit_of_mem_paddedDigits)
        paddedDigits_ne_nil (Nat.le_of_eq full) (Or.inl full)
    rw [readYear?_of_digits (fun _ => isDigit_of_mem_paddedDigits)
      paddedDigits_ne_nil, read]
    simp only [Option.map_some, decimalValue_paddedDigits,
      Int.natAbs_of_nonneg plain.1]
  · rename_i signed
    by_cases negative : year < 0
    · have kept :
          trimStart ('-' :: (paddedDigits 4 year.natAbs ++ '-' :: rest)) =
          '-' :: (paddedDigits 4 year.natAbs ++ '-' :: rest) := rfl
      have same : -(year.natAbs : Int) = year := by omega
      rw [if_pos negative, List.cons_append, readYear?, kept]
      simp only [digitsUpTo?_length, Option.map_some, decimalValue_paddedDigits,
        same]
    · have kept :
          trimStart ('+' :: (paddedDigits 4 year.natAbs ++ '-' :: rest)) =
          '+' :: (paddedDigits 4 year.natAbs ++ '-' :: rest) := rfl
      have same : (year.natAbs : Int) = year := by omega
      rw [if_neg negative, List.cons_append, readYear?, kept]
      simp only [digitsUpTo?_length, Option.map_some, decimalValue_paddedDigits,
        same]

/-- Digits behind a point count from the left. -/
theorem readFraction?_paddedDigits
    {width value : Nat}
    (positive : 0 < width)
    (short : width ≤ 9)
    (small : value < 10 ^ width) :
    readFraction? ('.' :: paddedDigits width value ++ ['Z']) =
      some (value * Nat.pow 10 (9 - width), ['Z']) := by
  have full := length_paddedDigits positive small
  have ends : EndsDigits ['Z'] := by
    intro first head
    obtain rfl : 'Z' = first := Option.some.inj head
    rfl
  have read : digitsUpTo? 9 (paddedDigits width value ++ ['Z']) =
      some (paddedDigits width value, ['Z']) :=
    digitsUpTo?_append (fun _ => isDigit_of_mem_paddedDigits)
      paddedDigits_ne_nil (Nat.le_trans (Nat.le_of_eq full) short) (Or.inr ends)
  rw [List.cons_append, readFraction?, read]
  simp only [Option.map_some, decimalValue_paddedDigits, full]
  rfl

/-- A fraction is read to the nanosecond in each of its lengths. -/
theorem readFraction?_fractionText
    {nanos : Nat}
    (small : nanos < nanosPerSecond) :
    readFraction? (fractionText nanos ++ ['Z']) = some (nanos, ['Z']) := by
  rw [nanosPerSecond] at small
  rw [fractionText]
  split
  · rename_i zero
    rw [zero]
    rfl
  · split
    · rename_i millis
      rw [readFraction?_paddedDigits (by decide) (by decide) (by omega)]
      have whole : nanos / 1000000 * Nat.pow 10 (9 - 3) = nanos :=
        Nat.div_mul_cancel (Nat.dvd_of_mod_eq_zero millis)
      rw [whole]
    · split
      · rename_i micros
        rw [readFraction?_paddedDigits (by decide) (by decide) (by omega)]
        have whole : nanos / 1000 * Nat.pow 10 (9 - 6) = nanos :=
          Nat.div_mul_cancel (Nat.dvd_of_mod_eq_zero micros)
        rw [whole]
      · rw [readFraction?_paddedDigits (by decide) (by decide) (by omega)]
        have whole : nanos * Nat.pow 10 (9 - 9) = nanos := Nat.mul_one nanos
        rw [whole]

/-! ## Whole dates -/

/-- A leap second changes nothing of the reading but its second. -/
theorem Instant.moment_parts (instant : Instant) :
    instant.moment.date = Date.ofDay (instant.second / secondsPerDay) ∧
      instant.moment.hour = instant.second % secondsPerDay / 3600 ∧
        instant.moment.minute = instant.second % secondsPerDay / 60 % 60 := by
  rw [moment]
  split <;> exact ⟨rfl, rfl, rfl⟩

/-- The reading shows a leap second as the second 60, and no other second so. -/
theorem Instant.second_moment (instant : Instant) :
    instant.moment.second =
      if nanosPerSecond ≤ instant.nanos then 60 else instant.second % 60 := by
  have ofMinute :
      instant.second % secondsPerDay % 60 = instant.second % 60 := by
    simp only [secondsPerDay]
    omega
  rw [moment]
  split
  · rename_i leap
    have last := instant.leap_at_end leap
    simp only [Moment.ofSecond, ofMinute, last]
    rfl
  · exact ofMinute

theorem Instant.moment_bounds (instant : Instant) :
    (leastYear ≤ instant.moment.date.year ∧
      instant.moment.date.year ≤ greatestYear) ∧
      instant.moment.date.Valid ∧
      (0 ≤ instant.moment.hour ∧ instant.moment.hour < 24) ∧
      (0 ≤ instant.moment.minute ∧ instant.moment.minute < 60) ∧
      0 ≤ instant.moment.second ∧ instant.moment.second ≤ 60 := by
  rcases instant.moment_parts with ⟨date, hour, minute⟩
  rw [date, hour, minute, second_moment]
  refine ⟨Date.year_bounds instant.inRange, Date.valid_ofDay _, ?_⟩
  simp only [secondsPerDay]
  split <;> omega

/-- Of the second 60 the second before it is taken, with a
second more of nanoseconds. -/
theorem Instant.nanos_eq (instant : Instant) :
    (if instant.moment.second = 60 then nanosPerSecond + instant.fraction
      else instant.fraction) =
      instant.nanos := by
  have less := instant.nanos_lt
  rw [second_moment, fraction]
  by_cases leap : nanosPerSecond ≤ instant.nanos
  · rw [if_pos leap, if_pos rfl]
    rw [nanosPerSecond] at leap less ⊢
    omega
  · have ordinary : instant.second % 60 ≠ 60 := by omega
    rw [if_neg leap, if_neg ordinary, Nat.mod_eq_of_lt (Nat.not_le.1 leap)]

theorem Instant.second_eq (instant : Instant) :
    instant.moment.date.toDay * secondsPerDay + instant.moment.hour * 3600 +
          instant.moment.minute * 60 +
        (if instant.moment.second = 60 then 59 else instant.moment.second) - 0 =
      instant.second := by
  have shown :
      (if instant.moment.second = 60 then 59 else instant.moment.second) =
      instant.second % 60 := by
    have last := instant.leap_at_end
    rw [second_moment]
    by_cases leap : nanosPerSecond ≤ instant.nanos
    · rw [if_pos leap, if_pos rfl, last leap]
    · have ordinary : instant.second % 60 ≠ 60 := by omega
      rw [if_neg leap, if_neg ordinary]
  rcases instant.moment_parts with ⟨date, hour, minute⟩
  rw [shown, date, hour, minute, Date.toDay_ofDay]
  simp only [secondsPerDay]
  omega

theorem instantOf?_moment (instant : Instant) :
    instantOf? instant.moment instant.fraction 0 = some instant := by
  have bounds := instant.moment_bounds
  simp only [instantOf?, instant.second_eq, instant.nanos_eq]
  rw [dif_pos
    ⟨bounds.1.1, bounds.1.2, bounds.2.1, bounds.2.2.1.2, bounds.2.2.2.1.2,
      bounds.2.2.2.2.2, by decide, instant.inRange, instant.nanos_lt,
      instant.leap_at_end⟩]

/-- An instant is read back from its text. -/
theorem Instant.read?_text (instant : Instant) :
    Instant.read? instant.text = some instant := by
  rcases instant.moment_bounds with ⟨-, -, hours, minutes, seconds⟩
  have date := Date.bounds_ofDay (instant.second / secondsPerDay)
  rw [← instant.moment_parts.1] at date
  have month :
      0 ≤ instant.moment.date.month ∧
        instant.moment.date.month < 100 := by omega
  have day : 0 ≤ instant.moment.date.day ∧ instant.moment.date.day < 100 := by
    omega
  have hour : 0 ≤ instant.moment.hour ∧ instant.moment.hour < 100 := by omega
  have minute : 0 ≤ instant.moment.minute ∧ instant.moment.minute < 100 := by
    omega
  have second : 0 ≤ instant.moment.second ∧ instant.moment.second < 100 := by
    omega
  have small : instant.fraction < nanosPerSecond := Nat.mod_lt _ (by decide)
  have zone : readOffset? (trimStart ['Z']) = some (0, []) := rfl
  have dash (rest : List Char) (solid : trimStart rest = rest) :
      readMark? '-' ('-' :: rest) = some rest :=
    readMark?_cons rfl solid
  have colon (rest : List Char) (solid : trimStart rest = rest) :
      readMark? ':' (':' :: rest) = some rest :=
    readMark?_cons rfl solid
  rw [Instant.read?, Instant.text, String.toList_ofList, Moment.text]
  simp only [List.append_assoc, List.cons_append, Option.bind_eq_bind,
    Option.bind_some, readYear?_yearText, dash, colon, trimStart_twoDigits,
    readPart?_twoDigits, month, day, hour, minute, second, and_self,
    readFraction?_fractionText small, zone]
  exact (if_pos rfl).trans (instantOf?_moment instant)

end TabularSearch.Time
