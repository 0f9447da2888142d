import Carpool.Json.Document
import Carpool.Number.Decimal

/-!
# How the reading of a value ends

A value that is read only to be looked at may be faulty without spoiling the
record it stands in: when its fault comes with the last of its octets, the
reader stands behind the value and can go on.  When there is more of the value
after the fault, the reader is left in the middle of it and is lost.
-/

namespace Carpool

namespace Json

/-- How the reading of a value ends. -/
inductive Ending
  /-- The value is read. -/
  | sound
  /-- The value is faulty, and the reader stands behind it. -/
  | passed
  /-- The value is faulty, and the reader stands inside it. -/
  | lost
  deriving DecidableEq

namespace Ending

/-- The ending for a number.  One beyond the largest double is met as such when
all of it has been read, unless its exponent is too large: the digits of an
exponent are given up at the first that brings it over the limit. -/
def ofNumeral (numeral : Numeral) : Ending :=
  match numeral.double? with
  | some _ => .sound
  | none =>
      if (numeral.exponent.getD 0).natAbs / 10 ≤ Numeral.exponentLimit then
        .passed
      else .lost

/-- The ending for the pieces of a string, as far as code units are concerned.
After the first half of a pair one more octet is taken before it is missed,
and at the end of the string that is the closing quote. -/
def ofPieces : Spelling → Ending
  | [] => .sound
  | .octet _ :: rest => ofPieces rest
  | .unit high :: rest =>
      if Spelling.isHighHalf high then
        match rest with
        | [] => .passed
        | .unit low :: rest =>
            if Spelling.isLowHalf low then ofPieces rest else .lost
        | .octet _ :: _ => .lost
      else if Spelling.isLowHalf high then .lost
      else ofPieces rest

/-- The ending for a string.  Its octets are looked at when all of them have
been read. -/
def ofSpelling (spelling : Spelling) : Ending :=
  match ofPieces spelling with
  | .sound => if spelling.text?.isSome then .sound else .passed
  | ending => ending

/-- The ending for a list or record, from those of its values.  After a fault
the reader expects it to close. -/
def ofParts : List Ending → Ending
  | [] => .sound
  | .sound :: rest => ofParts rest
  | [last] => last
  | _ :: _ :: _ => .lost

/-- The ending for a value.  Lists and records must not be nested deeper than so
many levels, and the keys in them must have a text. -/
def ofDocument : (depth : Nat) → Document → Ending
  | _, .null | _, .boolean _ => .sound
  | _, .number numeral => ofNumeral numeral
  | _, .text spelling => ofSpelling spelling
  | depth + 1, .list items true => ofParts (items.map (ofDocument depth))
  | depth + 1, .record members true =>
      ofParts (members.map fun (key, value) =>
        if key.text?.isSome then ofDocument depth value else .lost)
  | _, _ => .lost

end Ending

end Json

end Carpool
