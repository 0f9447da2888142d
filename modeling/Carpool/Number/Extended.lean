import Carpool.Number.Binary64

/-!
# Sixty-four significant bits

Positive numbers in a binary format with sixty-four significant bits, eleven
more than a double has, and no limit to their exponents.  A decimal is worked
out in it as a significand that is multiplied by powers of ten, each product
rounded, and only the last result is rounded to a double.  It is therefore
almost always, though not quite always, the nearest double of the decimal.
-/

namespace Carpool

/-- A positive number: a significand times a power of two. -/
structure Extended where
  significand : Nat
  exponent : Int
  deriving DecidableEq

namespace Extended

/-- A whole number times a power of two, rounded to sixty-four significant
bits. -/
def rounded (significand : Nat) (exponent : Int) : Extended :=
  let excess := significand.log2 - 63
  ⟨Binary64.roundHalfEven significand (Nat.pow 2 excess), exponent + excess⟩

def times (left right : Extended) : Extended :=
  rounded (left.significand * right.significand)
    (left.exponent + right.exponent)

/-- The number nearest to a power of ten. -/
def powerOfTen (exponent : Nat) : Extended :=
  rounded (Nat.pow 10 exponent) 0

/-- The number nearest to the inverse of a power of ten. -/
def inversePowerOfTen (exponent : Nat) : Extended :=
  let bits : Nat := Nat.log2 (Nat.pow 10 exponent) + 64
  ⟨Binary64.roundHalfEven (Nat.pow 2 bits) (Nat.pow 10 exponent), -(bits : Int)⟩

/-- Multiply by the same factor again and again. -/
def timesRepeated (factor : Extended) : (count : Nat) → Extended → Extended
  | 0, value => value
  | count + 1, value => timesRepeated factor count (value.times factor)

/-- Multiply by a power of ten whose exponent is given without its sign: by the
hundredth powers in it first, then by the tenth, then by the single ones. -/
def timesPowers (power : Nat → Extended) (exponent : Nat) (value : Extended) :
    Extended :=
  timesRepeated (power 1) (exponent % 10) <|
    timesRepeated (power 10) (exponent % 100 / 10) <|
      timesRepeated (power 100) (exponent / 100) value

def ofDecimal (significand : Nat) (exponent : Int) : Extended :=
  let power := if exponent < 0 then inversePowerOfTen else powerOfTen
  timesPowers power exponent.natAbs (rounded significand 0)

def largestDouble : Nat := (Nat.pow 2 53 - 1) * Nat.pow 2 971

/-- The double nearest to a number.  All numbers above the largest double
become infinity, however near they are to it. -/
def toBinary64 (negative : Bool) (value : Extended) : Binary64 :=
  let numerator :=
    if value.exponent < 0 then value.significand
    else value.significand * Nat.pow 2 value.exponent.natAbs
  let denominator :=
    if value.exponent < 0 then Nat.pow 2 value.exponent.natAbs else 1
  if largestDouble * denominator < numerator then Binary64.infinity negative
  else Binary64.nearest negative numerator denominator

end Extended

end Carpool
