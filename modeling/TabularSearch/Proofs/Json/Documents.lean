import TabularSearch.Json.Decode
import TabularSearch.Proofs.Outcome

/-!
# Documents of values

The document of a value has nothing torn or flawed in it, so it can always be
taken in whole.  Lists of documents are read element by element as they were
written, and the members of an object one after the other.
-/

namespace TabularSearch.Json

namespace Document

mutual

theorem isSome_toValue?_ofValue :
    ∀ value : Value, (ofValue value).toValue?.isSome = true
  | .null | .bool _ | .number _ | .string _ => rfl
  | .array elements => by
    rw [ofValue, toValue?, Option.isSome_map]
    exact isSome_toElements?_ofElements elements
  | .object members => by
    rw [ofValue, toValue?, Option.isSome_map]
    exact isSome_toMembers?_ofMembers [] members

theorem isSome_toElements?_ofElements :
    ∀ elements : List Value, (toElements? (ofElements elements)).isSome = true
  | [] => rfl
  | element :: rest => by
    obtain ⟨value, whole⟩ :=
      Option.isSome_iff_exists.1 (isSome_toValue?_ofValue element)
    obtain ⟨values, others⟩ :=
      Option.isSome_iff_exists.1 (isSome_toElements?_ofElements rest)
    rw [ofElements, toElements?, whole, others]
    rfl

theorem isSome_toMembers?_ofMembers :
    ∀ (read : Members) (members : Members),
      (toMembers? read (ofMembers members)).isSome = true
  | read, [] => rfl
  | read, (name, value) :: rest => by
    obtain ⟨found, whole⟩ :=
      Option.isSome_iff_exists.1 (isSome_toValue?_ofValue value)
    rw [ofMembers, toMembers?, whole]
    exact isSome_toMembers?_ofMembers _ rest

end

theorem isNone_toValue?_ofValue (value : Value) :
    (ofValue value).toValue?.isNone = false := by
  rw [← Option.not_isSome, isSome_toValue?_ofValue, Bool.not_true]

theorem ofMembers_append (front back : Members) :
    ofMembers (front ++ back) = ofMembers front ++ ofMembers back := by
  induction front with
  | nil => rfl
  | cons member rest step =>
      rcases member with ⟨name, value⟩
      rw [List.cons_append, ofMembers, ofMembers, step, List.cons_append]

end Document

/-! ## Readers -/

section Steps

variable {Item : Type}

@[simp]
theorem required_some (item : Item) : required (some item) = .ok item :=
  rfl

/-- An empty place takes what is read. -/
@[simp]
theorem fill_none (read : Document → Except Fault Item) (document : Document) :
    fill none read document = (read document).map some := by
  rw [fill]
  cases read document <;> rfl

@[simp]
theorem readString_string (text : String) :
    readString (.string text) = .ok text :=
  rfl

@[simp]
theorem readBool_bool (truth : Bool) : readBool (.bool truth) = .ok truth :=
  rfl

end Steps

/-- Elements that are read one by one as they should be are read so together. -/
theorem readElements_ofElements
    {Item Other : Type}
    {read : Document → Except Fault Other}
    {write : Item → Value}
    (result : Item → Other)
    (items : List Item)
    (each : ∀ item ∈ items, read (.ofValue (write item)) = .ok (result item)) :
    readElements read (Document.ofElements (items.map write)) =
      .ok (items.map result) := by
  induction items with
  | nil => rfl
  | cons item rest step =>
      rw [List.forall_mem_cons] at each
      rw [List.map_cons, Document.ofElements, readElements, each.1,
        List.map_cons]
      simp only [step each.2]

theorem readList_ofValue
    {Item Other : Type}
    {read : Document → Except Fault Other}
    {write : Item → Value}
    (result : Item → Other)
    (items : List Item)
    (each : ∀ item ∈ items, read (.ofValue (write item)) = .ok (result item)) :
    readList read (.ofValue (.array (items.map write))) =
      .ok (items.map result) := by
  rw [Document.ofValue, readList, readElements_ofElements result items each]
  rfl

/-- What is written as anything but null is there. -/
theorem readOption_ofValue
    {Item : Type}
    {read : Document → Except Fault Item}
    {value : Value}
    {item : Item}
    (written : value ≠ .null)
    (found : read (.ofValue value) = .ok item) :
    readOption read (.ofValue value) = .ok (some item) := by
  cases value with
  | null => exact absurd rfl written
  | _ => exact congrArg (Except.map some) found

theorem readWord_ofValue (word : UInt64) :
    readWord (.ofValue (.ofWord word)) = .ok word := by
  have found : (Number.ofNat word.toNat word.toNat_lt).toWord? = some word := by
    simp [Number.ofNat, Number.toWord?]
  rw [Value.ofWord, Document.ofValue, readWord, found]

section Members

variable {State : Type} {step : State → String → Document → Except Fault State}
  {state next : State} {name : String} {value : Value}

theorem readMembers_cons
    (read : step state name (.ofValue value) = .ok next)
    (rest : List (Option String × Document)) :
    readMembers step state ((some name, .ofValue value) :: rest) =
      readMembers step next rest := by
  rw [readMembers, read]

end Members

end TabularSearch.Json
