import Carpool.Time.Date
import Mathlib.Tactic.ByContra
import Mathlib.Tactic.IntervalCases

/-!
# The calendar in both directions

Counting the days up to the date of a day gives that day back, and the date of
a day is always in the calendar.  Years begin in March here, so the leap day is
the last of a year and the days of a cycle of four hundred years split into
years by two monotone counts.
-/

namespace Carpool

namespace Date

/-- The year, within a cycle of four hundred years, of a day of the cycle. -/
def yearWithin (dayOfCycle : Nat) : Nat :=
  (dayOfCycle - dayOfCycle / 1460 + dayOfCycle / 36524 - dayOfCycle / 146096)
    / 365

/-- The days of a cycle before one of its years. -/
def daysBeforeYear (year : Nat) : Nat :=
  365 * year + year / 4 - year / 100 + year / 400

/-- The month, counted from March, of a day of the year. -/
def monthWithin (dayOfYear : Nat) : Nat :=
  (5 * dayOfYear + 2) / 153

theorem yearWithin_mono {first second : Nat} (ordered : first ≤ second) :
    yearWithin first ≤ yearWithin second := by
  induction ordered with
  | refl => exact Nat.le_refl _
  | @step day _ ih =>
      have next : yearWithin day ≤ yearWithin (day + 1) := by
        unfold yearWithin
        apply Nat.div_le_div_right
        omega
      exact Nat.le_trans ih next

/-- The first and the last day of each year belong to it. -/
theorem yearWithin_ends : ∀ year < 400,
    yearWithin (daysBeforeYear year) = year
      ∧ yearWithin (daysBeforeYear (year + 1) - 1) = year := by
  decide +kernel

theorem yearWithin_lt {day : Nat} (inCycle : day < 146097) :
    yearWithin day < 400 := by
  unfold yearWithin
  omega

theorem daysBeforeYear_le {day : Nat} (inCycle : day < 146097) :
    daysBeforeYear (yearWithin day) ≤ day := by
  by_contra before
  obtain ⟨year, isYear⟩ : ∃ year, yearWithin day = year + 1 := by
    apply Nat.exists_eq_succ_of_ne_zero
    intro first
    simp [first, daysBeforeYear] at before
  have inside := yearWithin_lt inCycle
  have lastDay := (yearWithin_ends year (by omega)).2
  have earlier : yearWithin day ≤ yearWithin (daysBeforeYear (year + 1) - 1) := by
    apply yearWithin_mono
    rw [isYear] at before
    omega
  omega

theorem lt_daysBeforeYear_succ {day : Nat} (inCycle : day < 146097) :
    day < daysBeforeYear (yearWithin day + 1) := by
  by_contra after
  have inside := yearWithin_lt inCycle
  have notLast : yearWithin day + 1 < 400 := by
    by_contra last
    have isLast : yearWithin day + 1 = 400 := by omega
    have cycleEnd : daysBeforeYear 400 = 146097 := by decide
    rw [isLast, cycleEnd] at after
    omega
  have firstDay := (yearWithin_ends (yearWithin day + 1) notLast).1
  have later := yearWithin_mono (Nat.le_of_not_lt after)
  omega

/-- A year has a leap day at its end exactly when the calendar year in which it
ends is a leap year. -/
theorem daysBeforeYear_succ {year : Nat} (inCycle : year < 400) (cycle : Int) :
    daysBeforeYear (year + 1)
      = daysBeforeYear year + (if isLeapYear (cycle * 400 + year + 1) then 366 else 365) := by
  have leap : isLeapYear (cycle * 400 + year + 1)
      = decide ((year + 1) % 4 = 0 ∧ ((year + 1) % 100 ≠ 0 ∨ (year + 1) % 400 = 0)) := by
    rw [isLeapYear, Bool.eq_iff_iff]
    simp only [Bool.and_eq_true, Bool.or_eq_true, beq_iff_eq, bne_iff_ne, decide_eq_true_eq]
    omega
  rw [leap]
  unfold daysBeforeYear
  by_cases leapYear : (year + 1) % 4 = 0 ∧ ((year + 1) % 100 ≠ 0 ∨ (year + 1) % 400 = 0)
  · rw [if_pos (decide_eq_true leapYear)]
    omega
  · rw [if_neg (by simpa using leapYear)]
    omega

theorem monthWithin_lt {dayOfYear : Nat} (inYear : dayOfYear < 366) :
    monthWithin dayOfYear < 12 := by
  unfold monthWithin
  omega

theorem daysBeforeMonth_le (dayOfYear : Nat) :
    daysBeforeMonth (monthWithin dayOfYear) ≤ dayOfYear := by
  unfold daysBeforeMonth monthWithin
  omega

/-- The number in the calendar of a month counted from March. -/
def monthNumber (month : Nat) : Nat :=
  if month < 10 then month + 3 else month - 9

/-- A day of a year that begins in March lies in its month, if the leap day is
one of the calendar year in which the year ends. -/
theorem dayOfMonth_le {dayOfYear : Nat} {year : Int} (inYear : dayOfYear < 366)
    (leap : dayOfYear = 365 → isLeapYear year = true) :
    dayOfYear - daysBeforeMonth (monthWithin dayOfYear) + 1
      ≤ daysInMonth year (monthNumber (monthWithin dayOfYear)) := by
  have monthLt := monthWithin_lt inYear
  have range : 153 * monthWithin dayOfYear ≤ 5 * dayOfYear + 2
      ∧ 5 * dayOfYear + 2 < 153 * monthWithin dayOfYear + 153 := by
    unfold monthWithin
    omega
  generalize monthWithin dayOfYear = month at monthLt range
  by_cases leapDay : dayOfYear = 365
  · obtain rfl : month = 11 := by omega
    simp [daysInMonth, monthNumber, daysBeforeMonth, leap leapDay, leapDay]
  · have february : 28 ≤ daysInMonth year 2 := by
      by_cases leapYear : isLeapYear year <;> simp [daysInMonth, leapYear]
    interval_cases month <;>
      simp [daysInMonth, monthNumber, daysBeforeMonth] at february ⊢ <;> omega

/-- The date of a day of a cycle. -/
def ofParts (cycle : Int) (year dayOfYear : Nat) : Date where
  year :=
    if monthWithin dayOfYear < 10 then cycle * 400 + year
    else cycle * 400 + year + 1
  month := monthNumber (monthWithin dayOfYear)
  day := dayOfYear - daysBeforeMonth (monthWithin dayOfYear) + 1

theorem monthNumber_le_two {month : Nat} (monthLt : month < 12) :
    monthNumber month ≤ 2 ↔ ¬ month < 10 := by
  unfold monthNumber
  split <;> omega

/-- The parts of a day: the cycle, the year within it, and the day of that
year, which begins in March. -/
theorem exists_parts (days : Int) :
    ∃ (cycle : Int) (year dayOfYear : Nat),
      days + 719468 = cycle * 146097 + daysBeforeYear year + dayOfYear
        ∧ year < 400
        ∧ dayOfYear < 366
        ∧ (dayOfYear = 365 → isLeapYear (cycle * 400 + year + 1) = true)
        ∧ ofDays days = ofParts cycle year dayOfYear := by
  have inCycle : ((days + 719468) % 146097).toNat < 146097 := by omega
  generalize isDay : ((days + 719468) % 146097).toNat = day at inCycle
  have above := daysBeforeYear_le inCycle
  have below := lt_daysBeforeYear_succ inCycle
  have yearLt := yearWithin_lt inCycle
  have size := daysBeforeYear_succ yearLt ((days + 719468) / 146097)
  have inYear : day - daysBeforeYear (yearWithin day) < 366 := by
    split at size <;> omega
  have monthLt := monthWithin_lt inYear
  refine ⟨(days + 719468) / 146097, yearWithin day,
    day - daysBeforeYear (yearWithin day), ?_, yearLt, inYear, ?_, ?_⟩
  · omega
  · intro leapDay
    by_contra notLeap
    rw [if_neg notLeap] at size
    omega
  · have formula : 365 * yearWithin day + yearWithin day / 4 - yearWithin day / 100
        = daysBeforeYear (yearWithin day) := by
      unfold daysBeforeYear
      omega
    have unfolded : ofDays days =
        { year :=
            if monthNumber (monthWithin (day - (365 * yearWithin day
                + yearWithin day / 4 - yearWithin day / 100))) ≤ 2
            then (days + 719468) / 146097 * 400 + (yearWithin day : Int) + 1
            else (days + 719468) / 146097 * 400 + (yearWithin day : Int)
          month := monthNumber (monthWithin (day - (365 * yearWithin day
            + yearWithin day / 4 - yearWithin day / 100)))
          day := day - (365 * yearWithin day + yearWithin day / 4
              - yearWithin day / 100)
            - daysBeforeMonth (monthWithin (day - (365 * yearWithin day
              + yearWithin day / 4 - yearWithin day / 100))) + 1 } := by
      rw [← isDay]
      rfl
    rw [unfolded, formula, ofParts]
    simp only [monthNumber_le_two monthLt, ite_not]

theorem exists?_ofDays (days : Int) : (ofDays days).exists? = true := by
  obtain ⟨cycle, year, dayOfYear, _, _, inYear, leap, isDate⟩ := exists_parts days
  have monthLt := monthWithin_lt inYear
  have leapYear : dayOfYear = 365 →
      isLeapYear (ofParts cycle year dayOfYear).year = true := by
    rintro rfl
    exact leap rfl
  have dayLe := dayOfMonth_le inYear leapYear
  have monthFrom : 1 ≤ monthNumber (monthWithin dayOfYear)
      ∧ monthNumber (monthWithin dayOfYear) ≤ 12 := by
    unfold monthNumber
    split <;> omega
  rw [isDate]
  change (decide _ && decide _ && decide _ && decide _) = true
  simp only [Bool.and_eq_true, decide_eq_true_eq]
  exact ⟨⟨⟨monthFrom.1, monthFrom.2⟩, Nat.le_add_left _ _⟩, dayLe⟩

theorem toDays_ofParts {cycle : Int} {year dayOfYear : Nat} (yearLt : year < 400)
    (inYear : dayOfYear < 366) :
    (ofParts cycle year dayOfYear).toDays
      = cycle * 146097 + daysBeforeYear year + dayOfYear - 719468 := by
  have monthLt := monthWithin_lt inYear
  have monthStart := daysBeforeMonth_le dayOfYear
  have marchMonth : (monthNumber (monthWithin dayOfYear) + 9) % 12 = monthWithin dayOfYear := by
    unfold monthNumber
    split <;> omega
  have marchYear : (if monthNumber (monthWithin dayOfYear) ≤ 2
      then (ofParts cycle year dayOfYear).year - 1
      else (ofParts cycle year dayOfYear).year) = cycle * 400 + year := by
    simp only [monthNumber_le_two monthLt, ite_not, ofParts]
    split <;> omega
  simp only [toDays]
  rw [show (ofParts cycle year dayOfYear).month = monthNumber (monthWithin dayOfYear) from rfl,
    marchYear, marchMonth]
  simp only [ofParts, daysBeforeYear]
  omega

theorem toDays_ofDays (days : Int) : (ofDays days).toDays = days := by
  obtain ⟨cycle, year, dayOfYear, total, yearLt, inYear, _, isDate⟩ := exists_parts days
  rw [isDate, toDays_ofParts yearLt inYear]
  omega

end Date

end Carpool
