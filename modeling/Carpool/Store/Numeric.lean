import Carpool.Json.Token
import Carpool.Number.Extended

/-!
# Numbers in texts

The numbers that columns find in texts.  They are spelled more loosely than in
documents: with blanks around them, with a plus sign, with leading zeros, and
with the digits missing on one side of the point.

The double of such a number is worked out from a significand and a power of
ten.  The significand takes digits until it comes near to sixty-four bits; the
digits that are left over only count.
-/

namespace Carpool

namespace Store

/-- A number as a text spells it. -/
structure Numeric where
  negative : Bool
  whole : List (Fin 10)
  /-- The digits after the point, if there is a point. -/
  fraction : Option (List (Fin 10))
  exponent : Option Int
  deriving DecidableEq

namespace Numeric

/-- The octets that stand around a number in a text without spoiling it. -/
def isPadding (octet : UInt8) : Bool :=
  octet == 32 || (9 ≤ octet && octet ≤ 13)

/-- The digits after a point, if there is a point; there may be none. -/
def readFraction (octets : Octets) : Option (List (Fin 10)) × Octets :=
  match octets with
  | 46 :: rest =>
      (some ((rest.takeWhile Json.isDigit).map Json.digitValue),
        rest.dropWhile Json.isDigit)
  | _ => (none, octets)

def readUnsigned? (negative : Bool) (octets : Octets) :
    Option (Numeric × Octets) := do
  let whole := (octets.takeWhile Json.isDigit).map Json.digitValue
  let (fraction, rest) := readFraction (octets.dropWhile Json.isDigit)
  if whole.isEmpty && (fraction.getD []).isEmpty then none
  else
    let (exponent, rest) ← Json.Token.readExponent? rest
    return (⟨negative, whole, fraction, exponent⟩, rest)

/-- The number that a text is, apart from padding. -/
def ofText? (text : String) : Option Numeric := do
  let (negative, octets) :=
    Json.Token.readSign ((Octets.ofText text).dropWhile isPadding)
  let (numeric, rest) ← readUnsigned? negative octets
  if rest.all isPadding then some numeric else none

def digitsValue (digits : List (Fin 10)) : Nat :=
  digits.foldl (fun value digit => value * 10 + digit.val) 0

/-- The numeral that spells the same number in a document. -/
def numeral (numeric : Numeric) : Numeral where
  negative := numeric.negative
  whole := digitsValue numeric.whole
  fraction := numeric.fraction.getD []
  exponent := numeric.exponent

/-- The whole number, if it is spelled without a point and an exponent. -/
def int? (numeric : Numeric) : Option Int :=
  match numeric.fraction, numeric.exponent with
  | none, none =>
      let value : Int := digitsValue numeric.whole
      some (if numeric.negative then -value else value)
  | _, _ => none

/-- A significand of this size takes no further digit. -/
def significandLimit : Nat := (Nat.pow 2 64 - 10) / 10

/-- Take digits into a significand until it is large enough.  The result is the
significand and the number of digits that are left over. -/
def gather : (significand : Nat) → List (Fin 10) → Nat × Nat
  | significand, [] => (significand, 0)
  | significand, digit :: rest =>
      if significand < significandLimit then
        gather (significand * 10 + digit.val) rest
      else (significand, (digit :: rest).length)

/-- The exponent as it is used.  One of six digits and more is cut to ten
thousand, which decides the double on its own in any text of moderate
length. -/
def usedExponent (numeric : Numeric) : Int :=
  let exponent := numeric.exponent.getD 0
  let size : Int := if exponent.natAbs < 100000 then exponent.natAbs else 10000
  if exponent < 0 then -size else size

def decimal (numeric : Numeric) : Nat × Int :=
  let (leading, wholeLeft) := gather 0 numeric.whole
  let fraction := numeric.fraction.getD []
  let (significand, fractionLeft) := gather leading fraction
  (significand,
    numeric.usedExponent + wholeLeft - (fraction.length - fractionLeft))

/-- Bring the power of ten nearer to one, as far as the significand stays exact
and does not outgrow sixty-four bits; `fuel` bounds the steps. -/
def balance : (fuel : Nat) → (significand : Nat) → (exponent : Int) → Nat × Int
  | 0, significand, exponent => (significand, exponent)
  | fuel + 1, significand, exponent =>
      if 0 < exponent ∧ significand < (Nat.pow 2 64 - 1) / 10 then
        balance fuel (significand * 10) (exponent - 1)
      else if exponent < 0 ∧ significand % 10 = 0 then
        balance fuel (significand / 10) (exponent + 1)
      else (significand, exponent)

def toBinary64 (numeric : Numeric) : Binary64 :=
  let (significand, exponent) := numeric.decimal
  if significand = 0 then Binary64.ofMagnitude numeric.negative 0
  else
    -- each step moves one decimal place of at most twenty
    let (significand, exponent) := balance 20 significand exponent
    if exponent = 0 then Binary64.nearest numeric.negative significand 1
    else (Extended.ofDecimal significand exponent).toBinary64 numeric.negative

end Numeric

end Store

end Carpool
