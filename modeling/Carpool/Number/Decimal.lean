import Carpool.Number.Numeral

/-!
# The double that a numeral stands for

Two readings of a numeral as a double.  The exact one rounds the number once.
The quick one, used for documents, keeps the leading digits that fit in
sixty-four bits, rounds them, and then scales by a rounded power of ten; it can
miss the nearest double by a little, and it has no value for a numeral beyond
the largest double.
-/

namespace Carpool

namespace Numeral

/-- The largest significand that fits in sixty-four bits. -/
def significandLimit : Nat := Nat.pow 2 64 - 1

/-- The largest exponent that is read; larger ones are cut off. -/
def exponentLimit : Nat := Nat.pow 2 31 - 1

/-- Drop final digits, at most `fuel` of them, until the rest fits.  The result
is the rest and the number of digits dropped. -/
def fitWhole : (fuel : Nat) → (value dropped : Nat) → Nat × Nat
  | 0, value, dropped => (value, dropped)
  | fuel + 1, value, dropped =>
      if value ≤ significandLimit then (value, dropped)
      else fitWhole fuel (value / 10) (dropped + 1)

/-- Take digits into the significand while it fits.  The result is the
significand and the number of digits taken. -/
def fitFraction (significand taken : Nat) : List (Fin 10) → Nat × Nat
  | [] => (significand, taken)
  | digit :: rest =>
      let next := significand * 10 + digit.val
      if next ≤ significandLimit then fitFraction next (taken + 1) rest
      else (significand, taken)

/-- The double nearest to a power of ten. -/
def powerOfTen (exponent : Nat) : Binary64 :=
  Binary64.nearest false (Nat.pow 10 exponent) 1

/-- Divide by a power of ten in steps that stay within the doubles. -/
def scaleDown : (fuel : Nat) → Binary64 → (exponent : Nat) → Binary64
  | 0, value, _ => value
  | fuel + 1, value, exponent =>
      if exponent ≤ 308 then value.dividedBy (powerOfTen exponent)
      else if value.isZero then value
      else
        scaleDown fuel (value.dividedBy (powerOfTen 308)) (exponent - 308)

/-- A significand times a power of ten, or nothing beyond the largest
double. -/
def scale (significand : Nat) (exponent : Int) : Option Binary64 :=
  let value := Binary64.ofInt significand
  if exponent < 0 then some (scaleDown 8 value exponent.natAbs)
  else if exponent ≤ 308 then
    let scaled := value.times (powerOfTen exponent.natAbs)
    if scaled.isFinite then some scaled else none
  else if value.isZero then some value
  else none

def quick? (numeral : Numeral) : Option Binary64 :=
  let (fitted, dropped) :=
    fitWhole (Nat.toDigits 10 numeral.whole).length numeral.whole 0
  let (significand, taken) := fitFraction fitted 0 numeral.fraction
  let start : Int := dropped - taken
  let magnitude :=
    match numeral.exponent with
    | none => scale significand start
    | some exponent =>
        if exponent.natAbs ≤ exponentLimit then
          scale significand (start + exponent)
        else if 0 ≤ exponent ∧ significand ≠ 0 then none
        else some Binary64.zero
  magnitude.map fun value =>
    if numeral.negative then value.negate else value

/-- The double for a numeral in a document: whole numbers within sixty-four
bits are converted as such, all others read quickly. -/
def double? (numeral : Numeral) : Option Binary64 :=
  match numeral.int? with
  | some value =>
      if -0x8000000000000000 ≤ value ∧ value < 0x10000000000000000 then
        some (Binary64.ofInt value)
      else numeral.quick?
  | none => numeral.quick?

/-- All digits of a numeral as one whole number, without the point. -/
def digits (numeral : Numeral) : Nat :=
  numeral.fraction.foldl (fun value digit => value * 10 + digit.val)
    numeral.whole

/-- Exponents beyond this decide the exact reading on their own: in a numeral
of fewer digits the number is zero or infinite as a double. -/
def exactLimit (numeral : Numeral) : Nat :=
  1000 + (Nat.toDigits 10 numeral.whole).length + numeral.fraction.length

/-- The exact reading of a numeral: the nearest double. -/
def nearest (numeral : Numeral) : Binary64 :=
  let digits := numeral.digits
  let exponent := numeral.exponent.getD 0 - numeral.fraction.length
  if digits = 0 then Binary64.ofMagnitude numeral.negative 0
  else if exponent.natAbs ≤ numeral.exactLimit then
    if exponent < 0 then
      Binary64.nearest numeral.negative digits (Nat.pow 10 exponent.natAbs)
    else
      Binary64.nearest numeral.negative (digits * Nat.pow 10 exponent.natAbs) 1
  else if exponent < 0 then Binary64.ofMagnitude numeral.negative 0
  else Binary64.infinity numeral.negative

end Numeral

end Carpool
