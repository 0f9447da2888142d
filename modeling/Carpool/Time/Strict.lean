import Carpool.Time.Instant
import Carpool.Time.Scan

/-!
# Reading stored times

Strict RFC 3339: every number has its full width, and nothing stands around the
time.
-/

namespace Carpool

namespace Instant

open TimeScan

/-- The date and the time of day, with every number at its full width. -/
def scanStrict : Scan WallTime := fun characters => do
  let (year, rest) ← number 4 4 characters
  let (_, rest) ← oneOf ['-'] rest
  let (month, rest) ← number 2 2 rest
  let (_, rest) ← oneOf ['-'] rest
  let (day, rest) ← number 2 2 rest
  let (_, rest) ← oneOf ['T', 't', ' '] rest
  let (hour, rest) ← number 2 2 rest
  let (_, rest) ← oneOf [':'] rest
  let (minute, rest) ← number 2 2 rest
  let (_, rest) ← oneOf [':'] rest
  let (second, rest) ← number 2 2 rest
  let (nanosecond, rest) ← fraction rest
  return (⟨⟨year, month, day⟩, hour, minute, second, nanosecond⟩, rest)

/-- The offset after the time: a letter, or hours and minutes. -/
def scanStrictOffset : Scan Int := fun characters =>
  if isZulu characters then some (0, characters.drop 1)
  else signedOffset (oneOf [':']) characters

def ofStoredChars? (characters : List Char) : Option Instant := do
  let (time, rest) ← scanStrict characters
  let (offset, rest) ← scanStrictOffset rest
  if rest = [] ∧ offset.natAbs < 1440 then time.toInstant? offset else none

def ofStoredText? (text : String) : Option Instant :=
  ofStoredChars? text.toList

end Instant

end Carpool
