/-!
# Doubles

Numbers in the 64-bit binary interchange format, kept as their sign and their
other sixty-three bits.  Every finite one is a whole multiple of the least
positive one, and all arithmetic here is done on those multiples.
-/

namespace Carpool

/-- A double: its sign and the 63 bits of exponent and fraction. -/
structure Binary64 where
  negative : Bool
  magnitude : Nat
  magnitude_lt : magnitude < Nat.pow 2 63
  deriving DecidableEq

namespace Binary64

/-- The magnitude of an infinity; what lies above it is not a number. -/
def infinityMagnitude : Nat := 0x7FF * Nat.pow 2 52

theorem infinityMagnitude_lt : infinityMagnitude < Nat.pow 2 63 := by decide

/-- The double with a sign and a magnitude up to infinity. -/
def ofMagnitude (negative : Bool) (magnitude : Nat) : Binary64 where
  negative := negative
  magnitude := min magnitude infinityMagnitude
  magnitude_lt :=
    Nat.lt_of_le_of_lt (Nat.min_le_right _ _) infinityMagnitude_lt

def zero : Binary64 := ofMagnitude false 0

def infinity (negative : Bool) : Binary64 :=
  ofMagnitude negative infinityMagnitude

def notANumber : Binary64 where
  negative := false
  magnitude := 0x7FF8 * Nat.pow 2 48
  magnitude_lt := by decide

/-- The value is a number and no infinity. -/
def isFinite (value : Binary64) : Bool :=
  value.magnitude < infinityMagnitude

def isNaN (value : Binary64) : Bool :=
  infinityMagnitude < value.magnitude

def isZero (value : Binary64) : Bool :=
  value.magnitude == 0

def isBelowZero (value : Binary64) : Bool :=
  value.negative && !value.isZero && !value.isNaN

/-- Equality of numbers: both zeros are equal, and what is not a number equals
nothing. -/
def sameNumber (left right : Binary64) : Bool :=
  !left.isNaN && !right.isNaN
    && (left == right || (left.isZero && right.isZero))

def negate (value : Binary64) : Binary64 :=
  { value with negative := !value.negative }

/-- Zero loses its sign; every other value stays. -/
def withoutNegativeZero (value : Binary64) : Binary64 :=
  if value.isZero then zero else value

def bits (value : Binary64) : Nat :=
  (if value.negative then Nat.pow 2 63 else 0) + value.magnitude

/-- How many least positive doubles make up the absolute value of a finite
one. -/
def units (value : Binary64) : Nat :=
  if value.magnitude < Nat.pow 2 52 then value.magnitude
  else
    (Nat.pow 2 52 + value.magnitude % Nat.pow 2 52)
      * Nat.pow 2 (value.magnitude / Nat.pow 2 52 - 1)

/-- A quotient rounded to the nearest whole number, a half to the even one. -/
def roundHalfEven (numerator denominator : Nat) : Nat :=
  let quotient := numerator / denominator
  let twiceRest := 2 * (numerator % denominator)
  if twiceRest < denominator then quotient
  else if denominator < twiceRest then quotient + 1
  else quotient + quotient % 2

/-- The magnitude nearest to a quotient of units.  Fifty-three bits are kept;
beyond the largest finite magnitude the result is that of infinity. -/
def nearestUnits (numerator denominator : Nat) : Nat :=
  let shift := (numerator / denominator).log2 - 52
  min (shift * Nat.pow 2 52 + roundHalfEven numerator (denominator * Nat.pow 2 shift))
    infinityMagnitude

def nearest (negative : Bool) (numerator denominator : Nat) : Binary64 :=
  ofMagnitude negative (nearestUnits (numerator * Nat.pow 2 1074) denominator)

def ofInt (value : Int) : Binary64 :=
  nearest (value < 0) value.natAbs 1

def times (left right : Binary64) : Binary64 :=
  ofMagnitude (left.negative != right.negative)
    (nearestUnits (left.units * right.units) (Nat.pow 2 1074))

/-- The quotient of two finite doubles, the second of them not zero, rounded. -/
def dividedBy (left right : Binary64) : Binary64 :=
  ofMagnitude (left.negative != right.negative)
    (nearestUnits (left.units * Nat.pow 2 1074) right.units)

end Binary64

end Carpool
