import TabularSearch.Url.Encode

/-!
# Percent encoding is undone by decoding

A text encoded with a set that has the percent sign decodes to the bytes of
the text.  Apart from the codes themselves, only characters outside the set
occur in what is encoded.
-/

namespace TabularSearch.Url

open TabularSearch.Text

/-- The UTF-8 bytes of a text. -/
def utf8Bytes (text : String) : List UInt8 :=
  text.toList.flatMap String.utf8EncodeChar

theorem utf8Bytes_inj
    {left right : String}
    (same : utf8Bytes left = utf8Bytes right) :
    left = right := by
  have bytes (text : String) :
      (utf8Bytes text).toByteArray = text.toByteArray := by
    conv =>
      rhs; rw [← String.ofList_toList (s := text), String.toByteArray_ofList]
    rfl
  rw [← String.toByteArray_inj, ← bytes left, ← bytes right, same]

/-! ## Digits -/

theorem hexValue?_upperHexDigit :
    ∀ value < 16, hexValue? (upperHexDigit value) = some value := by
  decide

/-- The characters of which encoded bytes are made. -/
def isCode (character : Char) : Bool :=
  character == '%' || (hexValue? character).isSome

theorem isCode_of_mem_encodeByte
    {byte : UInt8}
    {character : Char}
    (found : character ∈ encodeByte byte) :
    isCode character = true := by
  have bound := byte.toNat_lt
  have high := hexValue?_upperHexDigit (byte.toNat / 16) (by omega)
  have low := hexValue?_upperHexDigit (byte.toNat % 16) (by omega)
  simp only [encodeByte, List.mem_cons, List.not_mem_nil, or_false] at found
  rcases found with rfl | rfl | rfl
  · rfl
  · simp [isCode, high]
  · simp [isCode, low]

/-! ## Decoding -/

theorem decodeBytes_of_ne_percent
    {character : Char}
    (plain : character ≠ '%')
    (rest : List Char) :
    decodeBytes (character :: rest) =
      String.utf8EncodeChar character ++ decodeBytes rest := by
  rw [decodeBytes]
  rintro high low others rfl
  exact absurd rfl plain

theorem decodeBytes_encodeByte
    (byte : UInt8)
    (rest : List Char) :
    decodeBytes (encodeByte byte ++ rest) = byte :: decodeBytes rest := by
  have bound := byte.toNat_lt
  have high := hexValue?_upperHexDigit (byte.toNat / 16) (by omega)
  have low := hexValue?_upperHexDigit (byte.toNat % 16) (by omega)
  have whole : byte.toNat / 16 * 16 + byte.toNat % 16 = byte.toNat := by omega
  rw [encodeByte, List.cons_append, List.cons_append, List.cons_append,
    List.nil_append, decodeBytes, high, low]
  simp only [whole, UInt8.ofNat_toNat]

theorem decodeBytes_encodeBytes
    (bytes : List UInt8)
    (rest : List Char) :
    decodeBytes (bytes.flatMap encodeByte ++ rest) =
      bytes ++ decodeBytes rest := by
  induction bytes with
  | nil => rfl
  | cons byte others step =>
      rw [List.flatMap_cons, List.append_assoc, decodeBytes_encodeByte, step,
        List.cons_append]

section Encoding

variable {inSet : Char → Bool}

theorem decodeBytes_encodeChar
    (percent : inSet '%' = true)
    (character : Char)
    (rest : List Char) :
    decodeBytes (encodeChar inSet character ++ rest) =
      String.utf8EncodeChar character ++ decodeBytes rest := by
  rw [encodeChar]
  split
  next => exact decodeBytes_encodeBytes _ rest
  next outside =>
    have plain : character ≠ '%' := by
      rintro rfl
      exact outside percent
    exact decodeBytes_of_ne_percent plain rest

/-- What is encoded decodes to the bytes of the text. -/
theorem decodeBytes_encode
    (percent : inSet '%' = true)
    (text : List Char) :
    decodeBytes (encode inSet text) = text.flatMap String.utf8EncodeChar := by
  induction text with
  | nil => rfl
  | cons character rest step =>
      rw [encode, List.flatMap_cons, decodeBytes_encodeChar percent,
        List.flatMap_cons]
      exact congrArg _ step

/-- An encoded text is made of codes and of characters outside the set. -/
theorem mem_encode
    {character : Char}
    {text : List Char}
    (found : character ∈ encode inSet text) :
    isCode character = true ∨ character ∈ text ∧ inSet character = false := by
  obtain ⟨source, among, written⟩ := List.mem_flatMap.1 found
  rw [encodeChar] at written
  split at written
  next =>
    obtain ⟨byte, -, coded⟩ := List.mem_flatMap.1 written
    exact .inl (isCode_of_mem_encodeByte coded)
  next outside =>
    rw [List.mem_singleton] at written
    exact .inr ⟨written ▸ among, written ▸ Bool.eq_false_iff.2 outside⟩

theorem not_mem_encode
    {character : Char}
    (apart : isCode character = false)
    {text : List Char}
    (absent : character ∈ text → inSet character = true) :
    character ∉ encode inSet text := by
  intro found
  rcases mem_encode found with coded | ⟨among, outside⟩
  · exact Bool.noConfusion (apart.symm.trans coded)
  · exact Bool.noConfusion (outside.symm.trans (absent among))

end Encoding

end TabularSearch.Url
