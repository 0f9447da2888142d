import Carpool.Time.Date

/-!
# Instants

Points in time, in UTC: whole seconds from the start of 1970 and nanoseconds
within the second.  During a leap second the nanoseconds run on past a whole
second at the end of a minute.  Only instants of the years -262143 to 262142
can be represented.
-/

namespace Carpool

def Instant.firstSecond : Int := -8334601228800

def Instant.lastSecond : Int := 8210266876799

/-- A point in time. -/
structure Instant where
  second : Int
  nanosecond : Nat
  first_le : Instant.firstSecond ≤ second
  le_last : second ≤ Instant.lastSecond
  nanosecond_lt : nanosecond < 2000000000
  leap_ends_minute : 1000000000 ≤ nanosecond → second % 60 = 59
  deriving DecidableEq

namespace Instant

/-- The instant with this second and nanosecond, if it can be represented. -/
def make? (second : Int) (nanosecond : Nat) : Option Instant :=
  if h : firstSecond ≤ second ∧ second ≤ lastSecond
      ∧ nanosecond < 2000000000
      ∧ (1000000000 ≤ nanosecond → second % 60 = 59) then
    some ⟨second, nanosecond, h.1, h.2.1, h.2.2.1, h.2.2.2⟩
  else none

def epoch : Instant where
  second := 0
  nanosecond := 0
  first_le := by decide
  le_last := by decide
  nanosecond_lt := by decide
  leap_ends_minute := by decide

def isBefore (left right : Instant) : Bool :=
  left.second < right.second
    || (left.second == right.second && left.nanosecond < right.nanosecond)

/-- The last multiple of some nanoseconds, counted within the second, that is
not after an instant. -/
def truncate (instant : Instant) (step : Nat) : Instant where
  second := instant.second
  nanosecond := instant.nanosecond - instant.nanosecond % step
  first_le := instant.first_le
  le_last := instant.le_last
  nanosecond_lt := Nat.lt_of_le_of_lt (Nat.sub_le _ _) instant.nanosecond_lt
  leap_ends_minute leap :=
    instant.leap_ends_minute (Nat.le_trans leap (Nat.sub_le _ _))

def toSecond (instant : Instant) : Instant :=
  instant.truncate 1000000000

/-- An instant to the microsecond. -/
def toMicrosecond (instant : Instant) : Instant :=
  instant.truncate 1000

def date (instant : Instant) : Date :=
  Date.ofDays (instant.second / 86400)

def secondOfDay (instant : Instant) : Nat :=
  (instant.second % 86400).toNat

end Instant

/-- A date and a time of day as a clock on some wall shows them.  The second may
be the sixtieth. -/
structure WallTime where
  date : Date
  hour : Nat
  minute : Nat
  second : Nat
  nanosecond : Nat
  deriving DecidableEq

namespace WallTime

/-- The date is in the calendar and the clock can show the time. -/
def exists? (time : WallTime) : Bool :=
  time.date.exists? && time.hour < 24 && time.minute < 60
    && time.second ≤ 60 && time.nanosecond < 1000000000

/-- The seconds from the start of 1970, without regard to the place of the
wall. -/
def toSecond (time : WallTime) : Int :=
  time.date.toDays * 86400 + time.hour * 3600 + time.minute * 60
    + min time.second 59

/-- The instant at which a wall some minutes east of Greenwich shows a time.
The wall's own date must be among those that can be represented too. -/
def toInstant? (time : WallTime) (minutesEast : Int) : Option Instant :=
  if time.exists? ∧ Instant.firstSecond ≤ time.toSecond
      ∧ time.toSecond ≤ Instant.lastSecond then
    Instant.make? (time.toSecond - minutesEast * 60)
      (time.nanosecond + if time.second = 60 then 1000000000 else 0)
  else none

end WallTime

/-- What a clock in Greenwich shows at an instant. -/
def Instant.wallTime (instant : Instant) : WallTime :=
  let second := instant.secondOfDay
  { date := instant.date
    hour := second / 3600
    minute := second / 60 % 60
    second := second % 60 + instant.nanosecond / 1000000000
    nanosecond := instant.nanosecond % 1000000000 }

end Carpool
