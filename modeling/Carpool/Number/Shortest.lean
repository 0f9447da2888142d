import Carpool.Number.Decimal

/-!
# The shortest numeral of a double

A finite double is written with the fewest digits whose nearest double it is;
among those the digits nearest to it are taken.  Numerals of moderate size are
positional and always show a point, the others show an exponent.
-/

namespace Carpool

namespace Binary64

/-- A decimal: significant digits times a power of ten. -/
structure Decimal where
  digits : Nat
  exponent : Int
  deriving DecidableEq

/-- The magnitude of the double nearest to a decimal. -/
def Decimal.magnitude (decimal : Decimal) : Nat :=
  if decimal.exponent < 0 then
    nearestUnits (decimal.digits * Nat.pow 2 1074)
      (Nat.pow 10 decimal.exponent.natAbs)
  else
    nearestUnits (decimal.digits * Nat.pow 10 decimal.exponent.natAbs * Nat.pow 2 1074) 1

/-- The two neighbours of a double on the grid of multiples of a power of ten,
the nearer one first; of two equally near the even one is first. -/
def neighbours (value : Binary64) (exponent : Int) : List Decimal :=
  let numerator :=
    if exponent < 0 then value.units * Nat.pow 10 exponent.natAbs else value.units
  let denominator :=
    if exponent < 0 then Nat.pow 2 1074 else Nat.pow 2 1074 * Nat.pow 10 exponent.natAbs
  let below := numerator / denominator
  if roundHalfEven numerator denominator = below then
    [⟨below, exponent⟩, ⟨below + 1, exponent⟩]
  else [⟨below + 1, exponent⟩, ⟨below, exponent⟩]

/-- The first neighbour, on ever finer grids, whose nearest double is the given
one. -/
def searchShortest (value : Binary64) : (fuel : Nat) → Int → Option Decimal
  | 0, _ => none
  | fuel + 1, exponent =>
      match (value.neighbours exponent).find? fun decimal =>
          decimal.magnitude == value.magnitude with
      | some decimal => some decimal
      | none => searchShortest value fuel (exponent - 1)

/-- A power of ten above a finite double, as an exponent. -/
def exponentAbove (value : Binary64) : Int :=
  let whole := value.units / Nat.pow 2 1074
  if whole = 0 then
    -- the double is below one: count the tens it takes to reach one
    let inverse := Nat.pow 2 1074 / value.units
    2 - ((Nat.toDigits 10 inverse).length : Int)
  else ((Nat.toDigits 10 whole).length : Int)

/-- The shortest decimal of a finite double other than zero. -/
def shortest (value : Binary64) : Decimal :=
  (searchShortest value 24 value.exponentAbove).getD ⟨0, 0⟩

def digitList (digits : Nat) : List (Fin 10) :=
  (Nat.toDigits 10 digits).map fun character =>
    Fin.ofNat 10 (character.toNat - 48)

/-- The numeral for significant digits with the given sign.  With the point
after `place` digits, it is positional when `-5 < place ≤ 16`. -/
def layOut (negative : Bool) (digits : Nat) (exponent : Int) : Numeral :=
  let figures := digitList digits
  let place : Int := figures.length + exponent
  if 0 ≤ exponent ∧ place ≤ 16 then
    ⟨negative, digits * Nat.pow 10 exponent.natAbs, [0], none⟩
  else if 0 < place ∧ place ≤ 16 then
    let scale := exponent.natAbs
    ⟨negative, digits / Nat.pow 10 scale, figures.drop place.natAbs, none⟩
  else if -5 < place ∧ place ≤ 0 then
    ⟨negative, 0, List.replicate place.natAbs 0 ++ figures, none⟩
  else
    ⟨negative, digits / Nat.pow 10 (figures.length - 1), figures.drop 1,
      some (place - 1)⟩

def numeral (value : Binary64) : Numeral :=
  if value.isZero then ⟨value.negative, 0, [0], none⟩
  else
    let decimal := value.shortest
    layOut value.negative decimal.digits decimal.exponent

end Binary64

end Carpool
