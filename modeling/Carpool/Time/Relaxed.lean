import Carpool.Json.Form
import Carpool.Time.Print
import Carpool.Time.Scan

/-!
# Reading submitted times

Relaxed RFC 3339, as callers may send it.  Numbers may lack leading zeros, the
year may have a sign and then any number of digits, and white space may stand
before every number and every mark but the one between date and time.
-/

namespace Carpool

namespace Instant

open TimeScan

def spacedNumber (most : Nat) : Scan Nat := fun characters =>
  number 1 most (skipBlank characters)

def spacedMark (mark : Char) : Scan Unit := fun characters =>
  oneOf [mark] (skipBlank characters)

/-- A year: a sign and digits, or up to four digits. -/
def scanYear : Scan Int := fun characters =>
  match skipBlank characters with
  | '-' :: rest => (longNumber rest).map fun (year, rest) => (-(year : Int), rest)
  | '+' :: rest => (longNumber rest).map fun (year, rest) => ((year : Int), rest)
  | rest => (number 1 4 rest).map fun (year, rest) => ((year : Int), rest)

def scanRelaxed : Scan WallTime := fun characters => do
  let (year, rest) ← scanYear characters
  let (_, rest) ← spacedMark '-' rest
  let (month, rest) ← spacedNumber 2 rest
  let (_, rest) ← spacedMark '-' rest
  let (day, rest) ← spacedNumber 2 rest
  let (_, rest) ← oneOf ['T', 't', ' '] rest
  let (hour, rest) ← spacedNumber 2 rest
  let (_, rest) ← spacedMark ':' rest
  let (minute, rest) ← spacedNumber 2 rest
  let (_, rest) ← spacedMark ':' rest
  let (second, rest) ← spacedNumber 2 rest
  let (nanosecond, rest) ← fraction rest
  return (⟨⟨year, month, day⟩, hour, minute, second, nanosecond⟩, rest)

/-- Colons and white space between the hours and minutes of an offset. -/
def looseSeparator : Scan Unit := fun characters =>
  some ((), characters.dropWhile fun character =>
    character == ':' || Text.isBlank character)

/-- The letters `UTC` in any case come first. -/
def startsWithUtc (characters : List Char) : Bool :=
  (characters.take 3).map Char.toUpper == ['U', 'T', 'C']

/-- The offset after the time: letters, or hours and minutes. -/
def scanRelaxedOffset : Scan Int := fun characters =>
  let characters := skipBlank characters
  if startsWithUtc characters then some (0, characters.drop 3)
  else if isZulu characters then some (0, characters.drop 1)
  else signedOffset looseSeparator characters

def ofChars? (characters : List Char) : Option Instant := do
  let (time, rest) ← scanRelaxed characters
  let (offset, rest) ← scanRelaxedOffset rest
  if skipBlank rest = [] ∧ offset.natAbs < 1440 then time.toInstant? offset
  else none

def ofText? (text : String) : Option Instant :=
  ofChars? text.toList

def form : Json.Form Instant :=
  .spelled ofText? text

end Instant

end Carpool
