/-!
# Dates

The Gregorian calendar, extended to all years, and the count of days from
1 January 1970 in both directions.
-/

namespace Carpool

structure Date where
  year : Int
  month : Nat
  day : Nat
  deriving DecidableEq

namespace Date

def isLeapYear (year : Int) : Bool :=
  year % 4 == 0 && (year % 100 != 0 || year % 400 == 0)

def daysInMonth (year : Int) (month : Nat) : Nat :=
  match month with
  | 2 => if isLeapYear year then 29 else 28
  | 4 | 6 | 9 | 11 => 30
  | _ => 31

def exists? (date : Date) : Bool :=
  1 ≤ date.month && date.month ≤ 12 && 1 ≤ date.day
    && date.day ≤ daysInMonth date.year date.month

/-- The days between 1 March and the first of a month, for years that begin in
March; `month` counts from zero for March. -/
def daysBeforeMonth (month : Nat) : Nat :=
  (153 * month + 2) / 5

/-- The days from 1 January 1970 to a date. -/
def toDays (date : Date) : Int :=
  let marchYear : Int := if date.month ≤ 2 then date.year - 1 else date.year
  let month := (date.month + 9) % 12
  let cycle := marchYear / 400
  let yearOfCycle := marchYear % 400
  let dayOfYear : Int := daysBeforeMonth month + date.day - 1
  cycle * 146097 + yearOfCycle * 365 + yearOfCycle / 4 - yearOfCycle / 100
    + dayOfYear - 719468

/-- The date that lies some days after 1 January 1970. -/
def ofDays (days : Int) : Date :=
  let shifted := days + 719468
  let cycle := shifted / 146097
  let dayOfCycle := (shifted % 146097).toNat
  let yearOfCycle :=
    (dayOfCycle - dayOfCycle / 1460 + dayOfCycle / 36524
      - dayOfCycle / 146096) / 365
  let dayOfYear :=
    dayOfCycle
      - (365 * yearOfCycle + yearOfCycle / 4 - yearOfCycle / 100)
  let marchMonth := (5 * dayOfYear + 2) / 153
  let month := if marchMonth < 10 then marchMonth + 3 else marchMonth - 9
  let year := cycle * 400 + yearOfCycle
  { year := if month ≤ 2 then year + 1 else year
    month
    day := dayOfYear - daysBeforeMonth marchMonth + 1 }

end Date

end Carpool
