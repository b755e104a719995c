import Mathlib.Data.List.TakeDrop
import Mathlib.Data.List.TakeWhile
import TabularSearch.Response.Flatten

/-!
# Whole numbers that are read back

A whole number is spelled by its decimal digits, after a minus sign where it is
negative.  Zeros may stand in front of the digits and white space around all of
it.  Such a text is read as the number, if this fits 64 bits.  The only other
texts that are read have a plus sign, or a minus sign before zero
(`readSigned?_eq_some_iff`).
-/

namespace TabularSearch.Text

/-- The digits of a whole number, with zeros in front. -/
def spelling
    (zeros : Nat)
    (value : Int) :
    List Char :=
  (if value < 0 then ['-'] else []) ++
    (List.replicate zeros '0' ++ decimalDigits value.natAbs)

/-- A text is a spelling of a number with nothing but white space around. -/
def Spells
    (text : String)
    (value : Int) :
    Prop :=
  ∃ (front back : List Char) (zeros : Nat),
    text.toList = front ++ spelling zeros value ++ back ∧
      (∀ character ∈ front, isBlank character = true) ∧
        ∀ character ∈ back, isBlank character = true

/-! ## White space around -/

theorem trimStart_append
    {front : List Char}
    (before : ∀ character ∈ front, isBlank character = true)
    (characters : List Char) :
    trimStart (front ++ characters) = trimStart characters :=
  List.dropWhile_append_of_pos before

theorem trimStart_eq_self
    {kept : List Char}
    (solid : ∀ character ∈ kept, isBlank character = false)
    (rest : List Char)
    (inhabited : kept ≠ []) :
    trimStart (kept ++ rest) = kept ++ rest := by
  cases kept with
  | nil => exact absurd rfl inhabited
  | cons first others =>
      have inked : ¬ isBlank first = true := by
        rw [solid first List.mem_cons_self]
        exact Bool.false_ne_true
      exact List.dropWhile_cons_of_neg inked

theorem trim_eq
    {front back kept : List Char}
    (before : ∀ character ∈ front, isBlank character = true)
    (after : ∀ character ∈ back, isBlank character = true)
    (solid : ∀ character ∈ kept, isBlank character = false)
    (inhabited : kept ≠ []) :
    trim (front ++ kept ++ back) = kept := by
  have behind : ∀ character ∈ back.reverse, isBlank character = true :=
    fun character member => after character (List.mem_reverse.1 member)
  have within : ∀ character ∈ kept.reverse, isBlank character = false :=
    fun character member => solid character (List.mem_reverse.1 member)
  have last : kept.reverse ≠ [] := List.reverse_ne_nil_iff.2 inhabited
  have ended := trimStart_eq_self within [] last
  rw [List.append_nil] at ended
  rw [trim, List.append_assoc, trimStart_append before,
    trimStart_eq_self solid back inhabited, trimEnd, List.reverse_append,
    trimStart_append behind, ended, List.reverse_reverse]

/-! ## Digits -/

theorem decimalValue_eq (digits : List Char) :
    decimalValue digits = Nat.ofDigitChars 10 digits 0 := by
  rw [decimalValue, Nat.ofDigitChars_eq_foldl]
  simp only [Nat.mul_comm]
  rfl

theorem isDigit_of_mem_zeros
    {zeros value : Nat}
    {character : Char}
    (member : character ∈ List.replicate zeros '0' ++ decimalDigits value) :
    character.isDigit = true := by
  rcases List.mem_append.1 member with zero | digit
  · rw [(List.mem_replicate.1 zero).2]
    rfl
  · exact Nat.isDigit_of_mem_toDigits (by decide) (by decide) digit

theorem decimalValue_zeros
    (zeros value : Nat) :
    decimalValue (List.replicate zeros '0' ++ decimalDigits value) = value := by
  rw [decimalValue_eq, Nat.ofDigitChars_append, Nat.ofDigitChars_replicate_zero,
    Nat.mul_zero, decimalDigits,
    Nat.ofDigitChars_toDigits (by decide) (by decide)]

theorem signedInt?_of_digits
    {digits : List Char}
    (decimal : ∀ character ∈ digits, character.isDigit = true) :
    signedInt? digits = (decimalNat? digits).map Int.ofNat := by
  cases digits with
  | nil => rfl
  | cons first rest =>
      have digit := decimal first List.mem_cons_self
      have unsigned : first ≠ '-' ∧ first ≠ '+' := by
        constructor
        · rintro rfl
          cases digit
        · rintro rfl
          cases digit
      simp [signedInt?, unsignedNat?, unsigned]

theorem toNat_bounds_of_isDigit
    {character : Char}
    (decimal : character.isDigit = true) :
    48 ≤ character.toNat ∧ character.toNat ≤ 57 := by
  simpa [Char.isDigit, UInt32.le_iff_toNat_le] using decimal

theorem isBlank_of_isDigit
    {character : Char}
    (decimal : character.isDigit = true) :
    isBlank character = false := by
  have range := toNat_bounds_of_isDigit decimal
  simp only [isBlank, Bool.or_eq_false_iff, Bool.and_eq_false_iff,
    decide_eq_false_iff_not, beq_eq_false_iff_ne]
  omega

/-! ## Everything that is read -/

/-- A whole number in decimal: digits, with a sign in front or without one. -/
inductive Numeral : List Char → Int → Prop where
  | unsigned
      {digits : List Char}
      (inhabited : digits ≠ [])
      (decimal : ∀ digit ∈ digits, digit.isDigit = true) :
      Numeral digits (Nat.ofDigitChars 10 digits 0)
  | plus
      {digits : List Char}
      (inhabited : digits ≠ [])
      (decimal : ∀ digit ∈ digits, digit.isDigit = true) :
      Numeral ('+' :: digits) (Nat.ofDigitChars 10 digits 0)
  | minus
      {digits : List Char}
      (inhabited : digits ≠ [])
      (decimal : ∀ digit ∈ digits, digit.isDigit = true) :
      Numeral ('-' :: digits) (-(Nat.ofDigitChars 10 digits 0 : Nat))

/-- A text is a whole number in decimal with nothing but white space around. -/
def Writes
    (text : String)
    (value : Int) :
    Prop :=
  ∃ front numeral back : List Char,
    text.toList = front ++ numeral ++ back ∧ Numeral numeral value ∧
      (∀ character ∈ front, isBlank character = true) ∧
        ∀ character ∈ back, isBlank character = true

theorem numeral_spelling
    (zeros : Nat)
    (value : Int) :
    Numeral (spelling zeros value) value := by
  have inhabited :
      List.replicate zeros '0' ++ decimalDigits value.natAbs ≠ [] :=
    List.append_ne_nil_of_right_ne_nil _ Nat.toDigits_ne_nil
  have decimal :
      ∀ digit ∈ List.replicate zeros '0' ++ decimalDigits value.natAbs,
      digit.isDigit = true :=
    fun _ => isDigit_of_mem_zeros
  have size := decimalValue_zeros zeros value.natAbs
  rw [decimalValue_eq] at size
  rw [spelling]
  by_cases negative : value < 0
  · have numeral := Numeral.minus inhabited decimal
    have same : -(value.natAbs : Int) = value := by omega
    rw [size, same] at numeral
    rwa [if_pos negative]
  · have numeral := Numeral.unsigned inhabited decimal
    rw [size, Int.natAbs_of_nonneg (by omega)] at numeral
    rwa [if_neg negative]

/-- A spelling is one way to write a number. -/
theorem Spells.writes
    {text : String}
    {value : Int}
    (spelled : Spells text value) :
    Writes text value := by
  rcases spelled with ⟨front, back, zeros, characters, before, after⟩
  exact ⟨front, _, back, characters, numeral_spelling zeros value, before,
    after⟩

theorem decimalNat?_eq_some_iff
    {characters : List Char}
    {value : Nat} :
    decimalNat? characters = some value ↔
      (characters ≠ [] ∧ ∀ digit ∈ characters, digit.isDigit = true) ∧
        Nat.ofDigitChars 10 characters 0 = value := by
  rw [decimalNat?, Option.ite_none_right_eq_some, Option.some.injEq,
    decimalValue_eq, List.all_eq_true]

theorem signedInt?_eq_some_iff
    {characters : List Char}
    {value : Int} :
    signedInt? characters = some value ↔ Numeral characters value := by
  constructor
  · intro read
    rw [signedInt?.eq_def] at read
    split at read
    · obtain ⟨_, negated, rfl⟩ := Option.map_eq_some_iff.1 read
      obtain ⟨size, digits, ⟨⟩⟩ := Option.bind_eq_some_iff.1 negated
      obtain ⟨⟨inhabited, decimal⟩, rfl⟩ := decimalNat?_eq_some_iff.1 digits
      exact .minus inhabited decimal
    · obtain ⟨size, digits, rfl⟩ := Option.map_eq_some_iff.1 read
      rw [unsignedNat?.eq_def] at digits
      split at digits
      · obtain ⟨⟨inhabited, decimal⟩, rfl⟩ := decimalNat?_eq_some_iff.1 digits
        exact .plus inhabited decimal
      · obtain ⟨⟨inhabited, decimal⟩, rfl⟩ := decimalNat?_eq_some_iff.1 digits
        exact .unsigned inhabited decimal
  · intro numeral
    cases numeral with
    | unsigned inhabited decimal =>
        rw [signedInt?_of_digits decimal,
          decimalNat?_eq_some_iff.2 ⟨⟨inhabited, decimal⟩, rfl⟩]
        rfl
    | plus inhabited decimal =>
        rw [signedInt?, unsignedNat?,
          decimalNat?_eq_some_iff.2 ⟨⟨inhabited, decimal⟩, rfl⟩]
        · rfl
        · simp
    | minus inhabited decimal =>
        rw [signedInt?, decimalNat?_eq_some_iff.2 ⟨⟨inhabited, decimal⟩, rfl⟩]
        rfl

theorem Numeral.ne_nil
    {characters : List Char}
    {value : Int}
    (numeral : Numeral characters value) :
    characters ≠ [] := by
  cases numeral with
  | unsigned inhabited => exact inhabited
  | plus | minus => exact List.cons_ne_nil _ _

theorem Numeral.isBlank_of_mem
    {characters : List Char}
    {value : Int}
    (numeral : Numeral characters value)
    {character : Char}
    (member : character ∈ characters) :
    isBlank character = false := by
  cases numeral with
  | unsigned _ decimal => exact isBlank_of_isDigit (decimal _ member)
  | plus _ decimal | minus _ decimal =>
      rcases List.mem_cons.1 member with rfl | digit
      · rfl
      · exact isBlank_of_isDigit (decimal _ digit)

/-- What is removed from the ends of a text is white space. -/
theorem exists_trim (characters : List Char) :
    ∃ front back : List Char,
      characters = front ++ trim characters ++ back ∧
        (∀ character ∈ front, isBlank character = true) ∧
          ∀ character ∈ back, isBlank character = true := by
  have blank (text : List Char) :
      ∀ character ∈ text.takeWhile isBlank, isBlank character = true :=
    fun _ => List.mem_takeWhile_imp
  refine ⟨characters.takeWhile isBlank,
    ((trimStart characters).reverse.takeWhile isBlank).reverse, ?_,
    blank characters,
    fun character member => blank _ character (List.mem_reverse.1 member)⟩
  rw [trim, trimEnd, List.append_assoc, ← List.reverse_append, trimStart,
    trimStart, List.takeWhile_append_dropWhile, List.reverse_reverse,
    List.takeWhile_append_dropWhile]

end TabularSearch.Text

namespace TabularSearch

open TabularSearch.Text

/-- Exactly the whole numbers of 64 bits are read. -/
theorem readSigned?_eq_some_iff
    {text : String}
    {value : Int} :
    readSigned? text = some value ↔
      Writes text value ∧ -0x8000000000000000 ≤ value ∧
        value < 0x8000000000000000 := by
  rw [readSigned?, Option.filter_eq_some_iff, signedInt?_eq_some_iff,
    Bool.and_eq_true, decide_eq_true_eq, decide_eq_true_eq]
  refine and_congr_left fun _ => ?_
  constructor
  · intro numeral
    obtain ⟨front, back, characters, before, after⟩ := exists_trim text.toList
    exact ⟨front, _, back, characters, numeral, before, after⟩
  · rintro ⟨front, characters, back, whole, numeral, before, after⟩
    rw [whole,
      trim_eq before after (fun _ => numeral.isBlank_of_mem) numeral.ne_nil]
    exact numeral

/-- A text that spells a number of 64 bits is read as this number. -/
theorem readSigned?_eq_some
    {text : String}
    {value : Int}
    (spelled : Spells text value)
    (fits : -0x8000000000000000 ≤ value ∧ value < 0x8000000000000000) :
    readSigned? text = some value :=
  readSigned?_eq_some_iff.2 ⟨spelled.writes, fits⟩

end TabularSearch
