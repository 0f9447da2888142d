import Carpool.Json.Spelling
import Carpool.Number.Numeral

/-!
# Tokens

The words and marks of a JSON text.  Where a text stops being one, a last token
says so; what comes after that spot is not looked at.
-/

namespace Carpool

namespace Json

/-- A word or mark of a document. -/
inductive Token
  | null
  | boolean (value : Bool)
  | number (numeral : Numeral)
  | text (spelling : Spelling)
  | openList
  | closeList
  | openRecord
  | closeRecord
  | comma
  | colon
  /-- Here no token can be read. -/
  | fault
  deriving DecidableEq

/-- White space between tokens. -/
def isSpace (octet : UInt8) : Bool :=
  octet == 32 || octet == 9 || octet == 10 || octet == 13

def isDigit (octet : UInt8) : Bool :=
  48 ≤ octet && octet ≤ 57

def digitValue (octet : UInt8) : Fin 10 :=
  ⟨(octet.toNat - 48) % 10, Nat.mod_lt _ (by decide)⟩

def digitsValue (digits : Octets) : Nat :=
  digits.foldl (fun value digit => value * 10 + (digitValue digit).val) 0

namespace Token

/-- The whole digits of a numeral: a zero alone, or digits that start with
another. -/
def readWhole? (octets : Octets) : Option (Nat × Octets) :=
  let digits := octets.takeWhile isDigit
  let rest := octets.dropWhile isDigit
  match digits with
  | [] => none
  | first :: more =>
      if first = 48 ∧ more ≠ [] then none
      else some (digitsValue digits, rest)

/-- The digits after a point, if there is a point. -/
def readFraction? (octets : Octets) : Option (List (Fin 10) × Octets) :=
  match octets with
  | 46 :: rest =>
      let digits := rest.takeWhile isDigit
      if digits.isEmpty then none
      else some (digits.map digitValue, rest.dropWhile isDigit)
  | _ => some ([], octets)

/-- A sign that may stand before the digits of an exponent. -/
def readSign (octets : Octets) : Bool × Octets :=
  match octets with
  | 43 :: rest => (false, rest)
  | 45 :: rest => (true, rest)
  | _ => (false, octets)

def readExponent? (octets : Octets) : Option (Option Int × Octets) :=
  match octets with
  | mark :: rest =>
      if mark = 101 ∨ mark = 69 then
        let (negative, rest) := readSign rest
        let digits := rest.takeWhile isDigit
        if digits.isEmpty then none
        else
          let value : Int := digitsValue digits
          some (some (if negative then -value else value),
            rest.dropWhile isDigit)
      else some (none, octets)
  | [] => some (none, [])

def readUnsigned? (negative : Bool) (octets : Octets) :
    Option (Numeral × Octets) := do
  let (whole, rest) ← readWhole? octets
  let (fraction, rest) ← readFraction? rest
  let (exponent, rest) ← readExponent? rest
  return (⟨negative, whole, fraction, exponent⟩, rest)

def readNumeral? (octets : Octets) : Option (Numeral × Octets) :=
  match octets with
  | 45 :: rest => readUnsigned? true rest
  | _ => readUnsigned? false octets

/-- What follows the given octets, if they come first. -/
def dropWord? : (word : Octets) → Octets → Option Octets
  | [], rest => some rest
  | _ :: _, [] => none
  | expected :: word, first :: rest =>
      if first = expected then dropWord? word rest else none

/-- The rest of a word whose first letter has been read. -/
def readWord? (token : Token) (word rest : Octets) :
    Option (Token × Octets) :=
  (dropWord? word rest).map fun rest => (token, rest)

/-- The token that starts with the given octet. -/
def read? (first : UInt8) (rest : Octets) : Option (Token × Octets) :=
  if first = 34 then
    (Spelling.read? rest).map fun (spelling, rest) => (.text spelling, rest)
  else if first = 123 then some (.openRecord, rest)
  else if first = 125 then some (.closeRecord, rest)
  else if first = 91 then some (.openList, rest)
  else if first = 93 then some (.closeList, rest)
  else if first = 44 then some (.comma, rest)
  else if first = 58 then some (.colon, rest)
  else if first = 110 then readWord? .null [117, 108, 108] rest
  else if first = 116 then readWord? (.boolean true) [114, 117, 101] rest
  else if first = 102 then
    readWord? (.boolean false) [97, 108, 115, 101] rest
  else
    (readNumeral? (first :: rest)).map fun (numeral, rest) =>
      (.number numeral, rest)

end Token

/-- The tokens of a text, at most `fuel` of them. -/
def tokensWithin : (fuel : Nat) → Octets → List Token
  | 0, _ => []
  | fuel + 1, octets =>
      match octets.dropWhile isSpace with
      | [] => []
      | first :: rest =>
          match Token.read? first rest with
          | some (token, rest) => token :: tokensWithin fuel rest
          | none => [.fault]

/-- The tokens of a text.  Each takes at least one octet. -/
def tokens (octets : Octets) : List Token :=
  tokensWithin octets.length octets

end Json

end Carpool
