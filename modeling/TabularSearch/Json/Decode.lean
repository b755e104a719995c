import TabularSearch.Json.Document

/-!
# Reading shapes from documents

Records are read from objects, member by member in the order of the text, or
from arrays that list their fields in declared order.  A field may come once;
unknown members are skipped, however large their numbers or deep their nesting.
The first fault in the order of the text is the one that counts.

A document is read in one of two ways.  A direct reading follows the text; a
held reading follows a part that was first taken in whole, as is done where a
tag has to be found before the fields are understood.  Held parts have no faults
of text left, and are a little more generous with names.
-/

namespace TabularSearch.Json

/-- Whether a document is read as its text goes by, or was
taken in whole before. -/
inductive Reading where
  | direct
  | held
  deriving DecidableEq

/-- The fault of a part that stands where nothing more was expected. -/
def Reading.excess : Reading → Fault
  | .direct => .text
  | .held => .shape

/-- A document passed over. -/
def skip (document : Document) : Except Fault Unit :=
  if document.isWellFormed then .ok () else .error .text

/-- A text. -/
def readString : Document → Except Fault String
  | .string text => .ok text
  | other => .error other.fault

/-- A truth value. -/
def readBool : Document → Except Fault Bool
  | .bool truth => .ok truth
  | other => .error other.fault

/-- An unsigned whole number of 64 bits. -/
def readWord : Document → Except Fault UInt64
  | .number written =>
    match written.toWord? with
    | some word => .ok word
    | none => .error .shape
  | other => .error other.fault

/-- Null, or something else. -/
def readOption
    {Item : Type}
    (read : Document → Except Fault Item) :
    Document → Except Fault (Option Item)
  | .null => .ok none
  | document => (read document).map some

/-- The elements read in order. -/
def readElements
    {Item : Type}
    (read : Document → Except Fault Item) :
    List Document → Except Fault (List Item)
  | [] => .ok []
  | element :: rest =>
    match read element with
    | .error fault => .error fault
    | .ok item =>
      match readElements read rest with
      | .error fault => .error fault
      | .ok items => .ok (item :: items)

/-- An array whose elements are read one by one. -/
def readList
    {Item : Type}
    (read : Document → Except Fault Item) :
    Document → Except Fault (List Item)
  | .array elements closed =>
    match readElements read elements with
    | .error fault => .error fault
    | .ok items => if closed then .ok items else .error .text
  | other => .error other.fault

/-- A free object. -/
def readObject : Document → Except Fault Members
  | .object members closed =>
    match (Document.object members closed).toValue? with
    | some (.object members) => .ok members
    | _ => .error .text
  | other => .error other.fault

/-- One word of a table, as a string or as the name of an
object with nothing in it. -/
def readWordOf
    {Item : Type}
    (reading : Reading)
    (table : String → Option Item) :
    Document → Except Fault Item
  | .string text => lookUp text
  | .object ((some name, inner) :: rest) closed =>
    match lookUp name with
    | .error fault => .error fault
    | .ok item =>
      match reading, inner, rest with
      | .direct, .null, [] => if closed then .ok item else .error .text
      | .direct, .null, _ :: _ => .error .text
      | .direct, other, _ => .error other.fault
      | .held, .null, [] => .ok item
      | .held, .object [] true, [] => .ok item
      | .held, _, _ => .error .shape
  | _ => .error reading.excess
where
  /-- The item that a word stands for. -/
  lookUp (word : String) : Except Fault Item :=
    match table word with
    | some item => .ok item
    | none => .error .shape

/-- The members read in order, each by its name into the state. -/
def readMembers
    {State : Type}
    (step : State → String → Document → Except Fault State)
    (state : State) :
    List (Option String × Document) → Except Fault State
  | [] => .ok state
  | (none, _) :: _ => .error .text
  | (some name, document) :: rest =>
    match step state name document with
    | .error fault => .error fault
    | .ok state => readMembers step state rest

/-- The parts of a record, from an object or from an array in
the order of the names. -/
def readRecord
    {State : Type}
    (reading : Reading)
    (names : List String)
    (step : State → String → Document → Except Fault State)
    (initial : State) :
    Document → Except Fault State
  | .object members closed =>
    match readMembers step initial members with
    | .error fault => .error fault
    | .ok state => if closed then .ok state else .error .text
  | .array elements closed =>
    match readMembers step initial ((names.map some).zip elements) with
    | .error fault => .error fault
    | .ok state =>
      if closed && decide (elements.length ≤ names.length) then .ok state
      else .error reading.excess
  | other => .error other.fault

/-- A field read into its empty place; a filled place is a fault. -/
def fill
    {Item : Type}
    (place : Option Item)
    (read : Document → Except Fault Item)
    (document : Document) :
    Except Fault (Option Item) :=
  match place with
  | some _ => .error .shape
  | none =>
    match read document with
    | .error fault => .error fault
    | .ok item => .ok (some item)

/-- A field that has to be there. -/
def required
    {Item : Type} :
    Option Item → Except Fault Item
  | some item => .ok item
  | none => .error .shape

end TabularSearch.Json
