import Carpool.Time.Instant

/-!
# Written times

Times are written as RFC 3339 in UTC, ending in `Z`.  Records show as many
digits of the second as they need in groups of three; stored times always show
six, so that for years of four digits the order of the texts is the order of
the times.
-/

namespace Carpool

namespace Instant

/-- The last decimal digits of a number, most significant first. -/
def padded : (width : Nat) → Nat → List Char
  | 0, _ => []
  | width + 1, value =>
      padded width (value / 10) ++ [Char.ofNat (48 + value % 10)]

/-- A year: four digits, and outside the years 0 to 9999 a sign and at least
four digits. -/
def printYear (year : Int) : List Char :=
  if 0 ≤ year ∧ year ≤ 9999 then padded 4 year.toNat
  else
    let digits := Nat.toDigits 10 year.natAbs
    (if year < 0 then '-' else '+')
      :: (List.replicate (4 - digits.length) '0' ++ digits)

def printDate (date : Date) : List Char :=
  printYear date.year ++ '-' :: (padded 2 date.month
    ++ '-' :: padded 2 date.day)

def printSeconds (time : WallTime) : List Char :=
  printDate time.date ++ 'T' :: (padded 2 time.hour
    ++ ':' :: (padded 2 time.minute ++ ':' :: padded 2 time.second))

/-- The fraction of a second that records show. -/
def printFraction (nanosecond : Nat) : List Char :=
  if nanosecond = 0 then []
  else if nanosecond % 1000000 = 0 then
    '.' :: padded 3 (nanosecond / 1000000)
  else if nanosecond % 1000 = 0 then '.' :: padded 6 (nanosecond / 1000)
  else '.' :: padded 9 nanosecond

def text (instant : Instant) : String :=
  let time := instant.wallTime
  String.ofList (printSeconds time ++ printFraction time.nanosecond ++ ['Z'])

def storedChars (instant : Instant) : List Char :=
  let time := instant.wallTime
  printSeconds time ++ '.' :: (padded 6 (time.nanosecond / 1000) ++ ['Z'])

/-- The time as it is stored: to the microsecond. -/
def storedText (instant : Instant) : String :=
  String.ofList instant.storedChars

end Instant

end Carpool
