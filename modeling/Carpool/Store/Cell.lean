import Carpool.Store.Numeric

/-!
# Stored values

What a column can hold.  A column declared as text holds text; one declared as
a number holds a number where the value can be seen as one, and otherwise the
text itself.
-/

namespace Carpool

namespace Store

/-- A value in a column declared as a number. -/
inductive Cell
  | integer (value : Int)
  | real (value : Binary64)
  | text (value : String)
  deriving DecidableEq

inductive CellKind
  | null
  | integer
  | real
  | text
  deriving DecidableEq

def CellKind.name : CellKind → String
  | .null => "Null"
  | .integer => "Integer"
  | .real => "Real"
  | .text => "Text"

def Cell.kind : Cell → CellKind
  | .integer _ => .integer
  | .real _ => .real
  | .text _ => .text

/-- A value offered to a column of any type; none stands for null. -/
inductive Value
  | null
  | integer (value : Int)
  | text (value : String)
  deriving DecidableEq

namespace Value

def integerText (value : Int) : String :=
  (if value < 0 then "-" else "")
    ++ String.ofList (Nat.toDigits 10 value.natAbs)

/-- The value as a text column keeps it. -/
def asText : Value → Option String
  | .null => none
  | .integer value => some (integerText value)
  | .text value => some value

/-- The least and greatest integers of sixty-four bits. -/
def isWord64 (value : Int) : Bool :=
  -0x8000000000000000 ≤ value && value < 0x8000000000000000

/-- The whole number that a finite double is, if it is one. -/
def wholeNumber? (value : Binary64) : Option Int :=
  let units := value.units
  if units % Nat.pow 2 1074 = 0 then
    let whole : Int := units / Nat.pow 2 1074
    some (if value.negative then -whole else whole)
  else none

/-- A double that an integer column keeps as the integer it equals.  The least
integer of sixty-four bits is not among them. -/
def integerOfReal? (value : Binary64) : Option Int :=
  if value.isFinite then
    (wholeNumber? value).filter fun whole =>
      isWord64 whole && whole != -0x8000000000000000
  else none

/-- A number in a text, as an integer column keeps it: as an integer where
nothing is lost by that. -/
def numberOfText (text : String) : Cell :=
  match Numeric.ofText? text with
  | none => .text text
  | some numeric =>
      match numeric.int?.filter isWord64 with
      | some whole => .integer whole
      | none =>
          let value := numeric.toBinary64
          match integerOfReal? value with
          | some whole => .integer whole
          | none => .real value

/-- The value as an integer column keeps it. -/
def asInteger : Value → Option Cell
  | .null => none
  | .integer value => some (.integer value)
  | .text value => some (numberOfText value)

/-- The value as a column of doubles keeps it. -/
def asReal : Value → Option Cell
  | .null => none
  | .integer value => some (.real (Binary64.ofInt value))
  | .text value =>
      match Numeric.ofText? value with
      | some numeric => some (.real numeric.toBinary64.withoutNegativeZero)
      | none => some (.text value)

end Value

end Store

end Carpool
