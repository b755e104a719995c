import TabularSearch.Json.Value

/-!
# JSON documents

A document is what a text says before anybody asks for its meaning: members
stand as they are written, repetitions included; a part that no value can be
made of, such as a number out of range, is kept as long as nobody asks for it;
and a text that stops being JSON is a document that is torn at that place.  A
reader of documents can therefore tell which comes first, a fault of the text
or a fault of the shape.
-/

namespace TabularSearch.Json

/-- JSON as far as its text goes, with what is flawed in it. -/
inductive Document where
  | null
  | bool (value : Bool)
  | number (value : Number)
  | string (text : String)
  /-- The elements in order; an array that is not closed goes no further. -/
  | array (elements : List Document) (closed : Bool)
  /-- The members in order; a name that cannot be read is none. -/
  | object (members : List (Option String × Document)) (closed : Bool)
  /-- Well formed, but too large, too deep or not Unicode. -/
  | flawed
  /-- Here the text stops being JSON. -/
  | torn
  deriving Inhabited

/-- Why a document is refused: its text is no JSON, or the
value has the wrong shape. -/
inductive Fault where
  | text
  | shape
  deriving DecidableEq

namespace Document

mutual

/-- The document of a value. -/
def ofValue : Value → Document
  | .null => .null
  | .bool truth => .bool truth
  | .number written => .number written
  | .string text => .string text
  | .array elements => .array (ofElements elements) true
  | .object members => .object (ofMembers members) true

/-- The documents of several values. -/
def ofElements : List Value → List Document
  | [] => []
  | element :: rest => ofValue element :: ofElements rest

/-- The members of an object as parts of a document. -/
def ofMembers : List (String × Value) → List (Option String × Document)
  | [] => []
  | (name, value) :: rest => (some name, ofValue value) :: ofMembers rest

end

mutual

/-- The value of a document; of a repeated name the last
value, at the first place. -/
def toValue? : Document → Option Value
  | .null => some .null
  | .bool truth => some (.bool truth)
  | .number written => some (.number written)
  | .string text => some (.string text)
  | .array elements true => (toElements? elements).map .array
  | .object members true => (toMembers? [] members).map .object
  | .array _ false | .object _ false | .flawed | .torn => none

/-- The values of several documents, if all are whole. -/
def toElements? : List Document → Option (List Value)
  | [] => some []
  | element :: rest =>
    match toValue? element, toElements? rest with
    | some value, some values => some (value :: values)
    | _, _ => none

/-- The members of a document put after those already read. -/
def toMembers? (read : Members) :
    List (Option String × Document) → Option Members
  | [] => some read
  | (some name, document) :: rest =>
    match toValue? document with
    | some value => toMembers? (putEntry name value read) rest
    | none => none
  | (none, _) :: _ => none

end

mutual

/-- Whether nothing in the document is torn, so that it can be skipped. -/
def isWellFormed : Document → Bool
  | .array elements closed => allWellFormed elements && closed
  | .object members closed => membersWellFormed members && closed
  | .torn => false
  | _ => true

/-- Whether all elements are well formed. -/
def allWellFormed : List Document → Bool
  | [] => true
  | element :: rest => isWellFormed element && allWellFormed rest

/-- Whether all members are well formed. -/
def membersWellFormed : List (Option String × Document) → Bool
  | [] => true
  | (_, value) :: rest => isWellFormed value && membersWellFormed rest

end

/-- The fault of a document that is not what was asked for: that of its text
where the text at its very start is at fault, that of its shape otherwise. -/
def fault : Document → Fault
  | .torn | .flawed => .text
  | _ => .shape

end Document

end TabularSearch.Json
