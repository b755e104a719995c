import Mathlib.Data.List.Forall2
import TabularSearch.Proofs.Names
import TabularSearch.Rows.Export

/-!
# Comma separated values read back

Comma separated values are read character by character.  A reader stands
at the start of a field, in a bare one, in a quoted one or behind a quote
in a quoted one, which closes the field unless another quote follows.  It
is strict: bare fields hold no quotes and no line ends, the last record
is ended like the others, and as readers do not agree on what an empty
line is, there must be none.

Reading records that have been written gives these records, whatever is in their
fields.  Rows that are exported are therefore read back as a header with all
their columns and a record for each row with what is shown of its values.
-/

namespace TabularSearch.Csv

/-! ## Reading -/

/-- Where a reader stands in a record. -/
inductive Place where
  | fresh
  | bare
  | quoted
  | closing

/-- What has been read: the records that are ended, and of the record and the
field that are not what there is so far; the last comes first. -/
structure Reading where
  place : Place
  field : List Char
  fields : List (List Char)
  records : List (List (List Char))

namespace Reading

/-- Between two records. -/
def ofRecords (records : List (List (List Char))) : Reading :=
  { place := .fresh, field := [], fields := [], records }

/-- One more character of a field. -/
def add
    (reading : Reading)
    (place : Place)
    (character : Char) :
    Reading :=
  { reading with place, field := character :: reading.field }

/-- The field so far is all of it. -/
def endField (reading : Reading) : Reading :=
  { reading with
    place := .fresh
    field := []
    fields := reading.field.reverse :: reading.fields }

/-- The field so far is all of it, and the last one of its record. -/
def endRecord (reading : Reading) : Reading :=
  ofRecords (reading.endField.fields.reverse :: reading.records)

/-- One character more, unless it cannot stand there. -/
def step (reading : Reading) (character : Char) : Option Reading :=
  match reading.place, character with
  | .quoted, '"' => some { reading with place := .closing }
  | .quoted, character => some (reading.add .quoted character)
  | .closing, '"' => some (reading.add .quoted '"')
  | .fresh, '"' => some { reading with place := .quoted }
  | .fresh, '\n' =>
    if reading.fields.isEmpty then none else some reading.endRecord
  | _, '\n' => some reading.endRecord
  | _, ',' => some reading.endField
  | .closing, _ => none
  | _, '"' => none
  | _, '\r' => none
  | _, character => some (reading.add .bare character)

end Reading

/-- The records of a text. -/
def read? (text : List Char) : Option (List (List (List Char))) :=
  match text.foldlM Reading.step (.ofRecords []) with
  | some { place := .fresh, field := [], fields := [], records } =>
    some records.reverse
  | _ => none

/-! ## Fields -/

open Reading

section Reading

variable {reading next : Reading}

theorem read_cons
    {character : Char}
    (taken : reading.step character = some next)
    (rest : List Char) :
    (character :: rest).foldlM step reading = rest.foldlM step next := by
  rw [List.foldlM_cons, taken]
  rfl

theorem read_append
    {front : List Char}
    (taken : front.foldlM step reading = some next)
    (rest : List Char) :
    (front ++ rest).foldlM step reading = rest.foldlM step next := by
  rw [List.foldlM_append, taken]
  rfl

end Reading

section Fields

variable
    {field begun : List Char}
    {fields : List (List Char)}
    {records : List (List (List Char))}

theorem step_quoted
    {character : Char}
    (noQuote : character ≠ '"') :
    step ⟨.quoted, begun, fields, records⟩ character =
      some ⟨.quoted, character :: begun, fields, records⟩ := by
  unfold step
  simp [add]

theorem step_plain
    {reading : Reading}
    (unquoted : reading.place = .fresh ∨ reading.place = .bare)
    {character : Char}
    (plain : needsQuotes character = false) :
    reading.step character = some (reading.add .bare character) := by
  simp only [needsQuotes, Bool.or_eq_false_iff, beq_eq_false_iff_ne] at plain
  unfold step
  rcases unquoted with fresh | bare
  · simp [fresh, plain]
  · simp [bare, plain]

/-- Doubled quotes are single ones of the field. -/
theorem read_doubleQuotes :
    (doubleQuotes field).foldlM step ⟨.quoted, begun, fields, records⟩ =
      some ⟨.quoted, field.reverse ++ begun, fields, records⟩ := by
  induction field generalizing begun with
  | nil => rfl
  | cons character field further =>
      rw [doubleQuotes, List.flatMap_cons, ← doubleQuotes, List.foldlM_append,
        List.reverse_cons, List.append_assoc, List.singleton_append]
      split
      · rename_i quote
        rw [quote]
        exact further
      · rename_i noQuote
        rw [List.foldlM_cons, step_quoted noQuote]
        exact further

theorem read_quoted :
    ('"' :: (doubleQuotes field ++ ['"'])).foldlM step
        ⟨.fresh, [], fields, records⟩ =
      some ⟨.closing, field.reverse, fields, records⟩ := by
  have opened :
      step ⟨.fresh, [], fields, records⟩ '"' =
        some ⟨.quoted, [], fields, records⟩ :=
    rfl
  rw [read_cons opened, read_append read_doubleQuotes, List.append_nil]
  rfl

theorem read_bare
    {reading : Reading}
    (bare : reading.place = .bare)
    (plain : ∀ character ∈ field, needsQuotes character = false) :
    field.foldlM step reading =
      some { reading with field := field.reverse ++ reading.field } := by
  induction field generalizing reading with
  | nil => rfl
  | cons character field further =>
      rw [List.forall_mem_cons] at plain
      rw [read_cons (step_plain (Or.inr bare) plain.1), further rfl plain.2,
        List.reverse_cons, List.append_assoc, add, bare]
      rfl

/-- A field that has been written is ended by a comma, and by a line end unless
the record is an empty line. -/
theorem read_fieldText :
    ∃ reading,
      (fieldText field).foldlM step ⟨.fresh, [], fields, records⟩ =
          some reading ∧
        reading.step ',' = some ⟨.fresh, [], field :: fields, records⟩ ∧
          (fieldText field ≠ [] ∨ fields ≠ [] →
            reading.step '\n' =
              some (ofRecords ((fields.reverse ++ [field]) :: records))) := by
  by_cases special : field.any needsQuotes = true
  · rw [fieldText, if_pos special]
    refine ⟨_, read_quoted, ?_, fun _ => ?_⟩
    · simp [step, endField]
    · simp [step, endRecord, endField]
  · rw [fieldText, if_neg special]
    cases field with
    | nil =>
        refine ⟨⟨.fresh, [], fields, records⟩, rfl, rfl, fun visible => ?_⟩
        have begun : fields ≠ [] :=
          visible.resolve_left fun nonempty => nonempty rfl
        simp [step, begun, endRecord, endField]
    | cons first rest =>
        have plain :
            ∀ character ∈ first :: rest, needsQuotes character = false := by
          simpa using special
        rw [List.forall_mem_cons] at plain
        rw [read_cons (step_plain (Or.inl rfl) plain.1), read_bare rfl plain.2,
          add]
        refine ⟨_, rfl, ?_, fun _ => ?_⟩
        · simp [step, endField]
        · simp [step, endRecord, endField]

end Fields

/-! ## Records -/

section Records

variable {records : List (List (List Char))}

/-- The fields of a record are read to its end, behind those read before. -/
theorem read_joinFields
    {first : List Char}
    {rest fields : List (List Char)}
    (visible : joinFields (first :: rest) ≠ [] ∨ fields ≠ [])
    (tail : List Char) :
    (joinFields (first :: rest) ++ '\n' :: tail).foldlM step
        ⟨.fresh, [], fields, records⟩ =
      tail.foldlM step
        (ofRecords ((fields.reverse ++ first :: rest) :: records)) := by
  induction rest generalizing first fields with
  | nil =>
      obtain ⟨reading, field, -, line⟩ := @read_fieldText first fields records
      rw [joinFields, read_append field, read_cons (line visible)]
  | cons second rest further =>
      obtain ⟨reading, field, comma, -⟩ := @read_fieldText first fields records
      have split : joinFields (first :: second :: rest) ++ '\n' :: tail =
          fieldText first ++ ',' ::
            (joinFields (second :: rest) ++ '\n' :: tail) := by
        simp [joinFields]
      rw [split, read_append field, read_cons comma,
        further (Or.inr (List.cons_ne_nil _ _)), List.reverse_cons,
        List.append_assoc]
      rfl

theorem fieldText_eq_nil_iff {field : List Char} :
    fieldText field = [] ↔ field = [] := by
  unfold fieldText
  split
  · rename_i special
    refine iff_of_false (List.cons_ne_nil _ _) ?_
    rintro rfl
    cases special
  · exact Iff.rfl

theorem joinFields_eq_nil_iff
    {first : List Char}
    {rest : List (List Char)} :
    joinFields (first :: rest) = [] ↔ first = [] ∧ rest = [] := by
  cases rest with
  | nil => simp [joinFields, fieldText_eq_nil_iff]
  | cons second rest => simp [joinFields]

/-- A record with fields is read back from its line. -/
theorem read_recordText
    {record : List (List Char)}
    (filled : record ≠ [])
    (tail : List Char) :
    (recordText record ++ tail).foldlM step (ofRecords records) =
      tail.foldlM step (ofRecords (record :: records)) := by
  obtain ⟨first, rest, rfl⟩ := List.exists_cons_of_ne_nil filled
  by_cases invisible : joinFields (first :: rest) = []
  · obtain ⟨rfl, rfl⟩ := joinFields_eq_nil_iff.1 invisible
    rfl
  · have line : recordText (first :: rest) ++ tail =
        joinFields (first :: rest) ++ '\n' :: tail := by
      simp [recordText, invisible]
    rw [line]
    exact read_joinFields (Or.inl invisible) tail

theorem read_recordsText
    {written : List (List (List Char))}
    (filled : ∀ record ∈ written, record ≠ []) :
    (recordsText written).foldlM step (ofRecords records) =
      some (ofRecords (written.reverse ++ records)) := by
  induction written generalizing records with
  | nil => rfl
  | cons record written further =>
      rw [List.forall_mem_cons] at filled
      rw [recordsText, List.flatMap_cons, ← recordsText,
        read_recordText filled.1, further filled.2, List.reverse_cons,
        List.append_assoc]
      rfl

/-- Records with fields are read back from their lines. -/
theorem read?_recordsText
    {written : List (List (List Char))}
    (filled : ∀ record ∈ written, record ≠ []) :
    read? (recordsText written) = some written := by
  rw [read?, read_recordsText filled, ofRecords]
  simp

end Records

end TabularSearch.Csv

namespace TabularSearch

open TabularSearch.Json

/-! ## Columns -/

theorem columnsOf_eq_addNames (rows : List Row) :
    columnsOf rows = addNames [] (rows.flatMap Row.columns) := by
  have gathered : ∀ seen,
      rows.foldl (fun seen row => addNames seen row.columns) seen =
        addNames seen (rows.flatMap Row.columns) := by
    induction rows with
    | nil => exact fun _ => rfl
    | cons row rows step =>
        intro seen
        rw [List.foldl_cons, step, List.flatMap_cons, addNames_append]
  exact gathered []

theorem nodup_columnsOf (rows : List Row) : (columnsOf rows).Nodup := by
  rw [columnsOf_eq_addNames]
  exact nodup_addNames List.nodup_nil _

theorem mem_columnsOf_iff
    {rows : List Row}
    {column : String} :
    column ∈ columnsOf rows ↔ ∃ row ∈ rows, column ∈ row.columns := by
  rw [columnsOf_eq_addNames, mem_addNames, List.mem_flatMap,
    or_iff_right List.not_mem_nil]

/-- Columns stand in the order in which they first come. -/
theorem pairwise_columnsOf (rows : List Row) :
    (columnsOf rows).Pairwise fun former latter =>
      (rows.flatMap Row.columns).idxOf former <
        (rows.flatMap Row.columns).idxOf latter := by
  rw [columnsOf_eq_addNames]
  exact pairwise_addNames _

theorem columnsOf_ne_nil
    {rows : List Row}
    (shown : ∃ row ∈ rows, row.columns ≠ []) :
    columnsOf rows ≠ [] := by
  obtain ⟨row, member, nonempty⟩ := shown
  obtain ⟨column, within⟩ := List.exists_mem_of_ne_nil _ nonempty
  exact List.ne_nil_of_mem (mem_columnsOf_iff.2 ⟨row, member, within⟩)

/-! ## Cells -/

/-- What a cell shows of a value that may be missing. -/
inductive CellShown : Option Value → List Char → Prop where
  | missing : CellShown none []
  | null : CellShown (some .null) []
  | string (text : String) : CellShown (some (.string text)) text.toList
  | json
      {value : Value}
      (present : value ≠ .null)
      (untextual : ∀ text, value ≠ .string text) :
      CellShown (some value) value.text

theorem cellShown_cellText (cell : Option Value) :
    CellShown cell (cellText cell) := by
  unfold cellText
  split
  · exact .missing
  · exact .null
  · exact .string _
  · rename_i value present untextual
    exact .json present untextual

/-! ## Rows -/

/--
Where some row has a column, exporting rows succeeds, and the text is read back
as a header with the columns and one record for each row, with a cell for each
column that shows the row's value there.  The columns are those of any row, each
once and in the order in which they first come.
-/
theorem toCsv_readBack
    {rows : List Row}
    (shown : ∃ row ∈ rows, row.columns ≠ []) :
    Csv.write? (recordsOf rows) = some (toCsv rows).toList ∧
      (∃ records,
        Csv.read? (toCsv rows).toList =
            some ((columnsOf rows).map String.toList :: records) ∧
          List.Forall₂
            (fun row record =>
              List.Forall₂ (fun column cell => CellShown (row.get? column) cell)
                (columnsOf rows) record)
            rows records) ∧
      (columnsOf rows).Nodup ∧
      (∀ column, column ∈ columnsOf rows ↔ ∃ row ∈ rows, column ∈ row.columns) ∧
      (columnsOf rows).Pairwise fun former latter =>
        (rows.flatMap Row.columns).idxOf former <
          (rows.flatMap Row.columns).idxOf latter := by
  have filled : ∀ record ∈ recordsOf rows, record ≠ [] := by
    have nonempty : columnsOf rows ≠ [] := columnsOf_ne_nil shown
    simp [recordsOf, nonempty]
  have text : (toCsv rows).toList = Csv.recordsText (recordsOf rows) := by
    simp [toCsv, write?_recordsOf]
  rw [text]
  refine ⟨write?_recordsOf rows, ⟨_, Csv.read?_recordsText filled, ?_⟩,
    nodup_columnsOf rows, fun _ => mem_columnsOf_iff, pairwise_columnsOf rows⟩
  refine List.forall₂_map_right_iff.2 (List.forall₂_same.2 fun row _ => ?_)
  refine List.forall₂_map_right_iff.2 (List.forall₂_same.2 fun column _ => ?_)
  exact cellShown_cellText (row.get? column)

/-- Rows without a common column, and with a comma and a line
end in their texts. -/
def raggedRows : List Row :=
  [.ofList [("host", .string "web, 2")], .ofList [("last\nmean", .null)]]

theorem toCsv_readBack_raggedRows :
    (∃ row ∈ raggedRows, row.columns ≠ []) ∧
      ∃ first second,
        Csv.read? (toCsv raggedRows).toList =
            some [["host".toList, "last\nmean".toList], first, second] ∧
          ∃ cell ∈ first, CellShown (some (.string "web, 2")) cell := by
  have shown : ∃ row ∈ raggedRows, row.columns ≠ [] :=
    ⟨_, List.mem_cons_self, by decide⟩
  obtain ⟨-, ⟨records, read, cells⟩, -⟩ := toCsv_readBack shown
  obtain _ | ⟨first, _ | ⟨second, _ | _⟩⟩ := cells
  have columns : columnsOf raggedRows = ["host", "last\nmean"] := by decide
  rw [columns] at read first
  obtain _ | ⟨host, _⟩ := first
  exact ⟨shown, _, _, read, _, List.mem_cons_self, host⟩

end TabularSearch
