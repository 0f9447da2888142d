import Carpool.Text.Blank

/-!
# Scanning written times

The steps that both readers of times take: numbers of so many digits, single
characters, fractions of a second, and offsets from Greenwich.
-/

namespace Carpool

namespace TimeScan

/-- What a step has read, and the characters after it. -/
abbrev Scan (α : Type) := List Char → Option (α × List Char)

def digitsValue (digits : List Char) : Nat :=
  digits.foldl (fun value digit => value * 10 + (digit.toNat - 48)) 0

/-- A number of at least `least` and at most `most` digits; of those as many are
taken as are there. -/
def number (least most : Nat) : Scan Nat := fun characters =>
  let digits := (characters.take most).takeWhile Char.isDigit
  if least ≤ digits.length ∧ digits ≠ [] then
    some (digitsValue digits, characters.drop digits.length)
  else none

def longNumber : Scan Nat := fun characters =>
  number 1 characters.length characters

def oneOf (choices : List Char) : Scan Unit
  | [] => none
  | first :: rest => if first ∈ choices then some ((), rest) else none

def skipBlank (characters : List Char) : List Char :=
  characters.dropWhile Text.isBlank

/-- The first nine digits of a fraction as nanoseconds; further digits are
dropped. -/
def nanoseconds : Scan Nat := fun characters =>
  let digits := characters.takeWhile Char.isDigit
  if digits.isEmpty then none
  else
    let kept := digits.take 9
    some (digitsValue kept * Nat.pow 10 (9 - kept.length),
      characters.drop digits.length)

/-- A fraction of a second, if a point comes next. -/
def fraction : Scan Nat
  | '.' :: rest => nanoseconds rest
  | characters => some (0, characters)

/-- The sign of an offset; whether it is a minus. -/
def sign : Scan Bool
  | '+' :: rest => some (false, rest)
  | '-' :: rest => some (true, rest)
  | '\u2212' :: rest => some (true, rest)
  | _ => none

/-- The letter for no offset. -/
def isZulu : List Char → Bool
  | 'Z' :: _ | 'z' :: _ => true
  | _ => false

/-- An offset in minutes: a sign, two digits of hours, a separator, and two
digits of minutes below sixty. -/
def signedOffset (separator : Scan Unit) : Scan Int := fun characters => do
  let (negative, rest) ← sign characters
  let (hours, rest) ← number 2 2 rest
  let (_, rest) ← separator rest
  let (minutes, rest) ← number 2 2 rest
  if minutes < 60 then
    let total : Int := hours * 60 + minutes
    some (if negative then -total else total, rest)
  else none

end TimeScan

end Carpool
