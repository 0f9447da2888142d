import Carpool.Number.Binary64
import Carpool.Octets

/-!
# Numerals

Decimal numerals as documents spell them: a sign, whole digits, digits after
the point, and an exponent.  A numeral remembers how it was spelled, because
`1`, `1.0` and `1e0` are not interchangeable where a whole number is wanted.
-/

namespace Carpool

/-- A decimal numeral.  Without digits after the point no point is written. -/
structure Numeral where
  negative : Bool
  whole : Nat
  fraction : List (Fin 10)
  exponent : Option Int
  deriving DecidableEq

namespace Numeral

def ofInt (value : Int) : Numeral where
  negative := value < 0
  whole := value.natAbs
  fraction := []
  exponent := none

/-- The whole number a numeral spells, if it is spelled as one.  Minus zero is
not a whole number. -/
def int? (numeral : Numeral) : Option Int :=
  match numeral.fraction, numeral.exponent with
  | [], none =>
      if numeral.negative then
        if numeral.whole = 0 then none else some (-numeral.whole)
      else some numeral.whole
  | _, _ => none

def digitOctet (digit : Fin 10) : UInt8 :=
  UInt8.ofNat (48 + digit.val)

def natOctets (value : Nat) : Octets :=
  (Nat.toDigits 10 value).map Octets.ofAscii

def print (numeral : Numeral) : Octets :=
  let sign := if numeral.negative then [45] else []
  let point :=
    if numeral.fraction.isEmpty then []
    else 46 :: numeral.fraction.map digitOctet
  let scale :=
    match numeral.exponent with
    | none => []
    | some exponent =>
        101 :: ((if exponent < 0 then [45] else [])
          ++ natOctets exponent.natAbs)
  sign ++ natOctets numeral.whole ++ point ++ scale

end Numeral

end Carpool
