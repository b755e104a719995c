import TabularSearch.Binary64.Basic
import TabularSearch.Entries

/-!
# JSON values

A number is either a whole number of 64 bits, signed or unsigned, kept exactly,
or a finite binary floating point number.  An object keeps its members in order.
-/

namespace TabularSearch.Json

/-- Numbers as they are written: whole numbers that fit 64 bits stay whole. -/
inductive Number where
  | whole (value : Int)
    (bounded : -0x8000000000000000 ≤ value ∧ value < 0x10000000000000000)
  | binary (value : Binary64)
  deriving DecidableEq

/-- A JSON value; the members of an object keep their order. -/
inductive Value where
  | null
  | bool (value : Bool)
  | number (value : Number)
  | string (value : String)
  | array (elements : List Value)
  | object (members : List (String × Value))
  deriving Inhabited

/-- The members of an object, in order. -/
abbrev Members := List (String × Value)

namespace Number

/-- The number nearest to a JSON number. -/
def toBinary64 : Number → Binary64
  | .whole value bounded =>
    Binary64.ofWord (value < 0) value.natAbs (by omega)
  | .binary value => value

/-- A natural number of at most 64 bits. -/
def ofNat
    (value : Nat)
    (small : value < 0x10000000000000000) :
    Number :=
  .whole value (by omega)

/-- A whole number that fits 64 bits, signed or unsigned. -/
def ofInt? (value : Int) : Option Number :=
  if bounded : -0x8000000000000000 ≤ value ∧ value < 0x10000000000000000 then
    some (.whole value bounded)
  else none

/-- The value of a whole number of 64 bits without a sign. -/
def toWord? : Number → Option UInt64
  | .whole value _ =>
    if 0 ≤ value then some (UInt64.ofNat value.toNat) else none
  | .binary _ => none

/-- The value of a whole number of 64 bits with a sign. -/
def toSigned? : Number → Option Int
  | .whole value _ => if value < 0x8000000000000000 then some value else none
  | .binary _ => none

end Number

namespace Value

/-- The member of an object. -/
def get?
    (value : Value)
    (name : String) :
    Option Value :=
  match value with
  | .object members => itemAt? name members
  | _ => none

/-- The elements of an array. -/
def asArray? : Value → Option (List Value)
  | .array elements => some elements
  | _ => none

/-- The members of an object. -/
def asObject? : Value → Option Members
  | .object members => some members
  | _ => none

/-- The text of a string. -/
def asString? : Value → Option String
  | .string text => some text
  | _ => none

/-- The truth value. -/
def asBool? : Value → Option Bool
  | .bool truth => some truth
  | _ => none

/-- A whole number of 64 bits without a sign. -/
def asWord? : Value → Option UInt64
  | .number written => written.toWord?
  | _ => none

/-- A whole number of 64 bits with a sign. -/
def asSigned? : Value → Option Int
  | .number written => written.toSigned?
  | _ => none

/-- Whether a value is null. -/
def isNull : Value → Bool
  | .null => true
  | _ => false

end Value

/-- The JSON number for an unsigned whole number. -/
def Value.ofWord (word : UInt64) : Value :=
  .number (.ofNat word.toNat word.toNat_lt)

theorem ofWord_inj {left right : UInt64} :
    Value.ofWord left = Value.ofWord right ↔ left = right := by
  constructor
  · intro same
    simp only [Value.ofWord, Number.ofNat, Value.number.injEq,
      Number.whole.injEq] at same
    exact UInt64.toNat_inj.1 (by omega)
  · intro same
    rw [same]

end TabularSearch.Json
