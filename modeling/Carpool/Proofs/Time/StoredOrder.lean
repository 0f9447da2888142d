import Carpool.Proofs.Time.StoredText

/-!
# The order of stored times

In the years 0 to 9999 all stored times are of one length, and their texts stand
in the order of the times.  Every number of a text has its fixed width, so the
first number that differs decides, and the calendar counts days in the order of
years, months and days.
-/

namespace Carpool

/-! ## The order of dates -/

namespace Date

/-- A date stands before another in the calendar. -/
def Precedes (first second : Date) : Prop :=
  first.year < second.year ∨ first.year = second.year ∧
    (first.month < second.month ∨ first.month = second.month ∧ first.day < second.day)

theorem daysBeforeYear_mono {first second : Nat} (ordered : first ≤ second) :
    daysBeforeYear first ≤ daysBeforeYear second := by
  induction ordered with
  | refl => exact Nat.le_refl _
  | @step year _ ih =>
      have next : daysBeforeYear year ≤ daysBeforeYear (year + 1) := by
        unfold daysBeforeYear
        omega
      exact Nat.le_trans ih next

theorem dayOfYear_lt {cycle : Int} {year dayOfYear : Nat} (yearLt : year < 400)
    (inYear : dayOfYear < 366)
    (leap : dayOfYear = 365 → isLeapYear (cycle * 400 + year + 1) = true) :
    daysBeforeYear year + dayOfYear < daysBeforeYear (year + 1) := by
  have size := daysBeforeYear_succ yearLt cycle
  by_cases last : dayOfYear = 365
  · rw [if_pos (leap last)] at size
    omega
  · split at size <;> omega

/-- Of two dates, that one comes first whose year, from March on, is the earlier
one, and within the year that of the earlier day. -/
theorem ofParts_precedes {cycle nextCycle : Int} {year nextYear day nextDay : Nat}
    (dayLt : day < 366) (nextDayLt : nextDay < 366)
    (earlier : cycle * 400 + year < nextCycle * 400 + nextYear ∨
      cycle * 400 + year = nextCycle * 400 + nextYear ∧ day < nextDay) :
    (ofParts cycle year day).Precedes (ofParts nextCycle nextYear nextDay) := by
  have monthLt := monthWithin_lt dayLt
  have nextMonthLt := monthWithin_lt nextDayLt
  have start := daysBeforeMonth_le day
  have nextStart := daysBeforeMonth_le nextDay
  have ordered : day < nextDay → monthWithin day ≤ monthWithin nextDay := by
    unfold monthWithin
    omega
  have sameStart : monthWithin day = monthWithin nextDay →
      daysBeforeMonth (monthWithin day) = daysBeforeMonth (monthWithin nextDay) :=
    congrArg daysBeforeMonth
  simp only [Precedes, ofParts, monthNumber]
  generalize daysBeforeMonth (monthWithin day) = before at *
  generalize daysBeforeMonth (monthWithin nextDay) = nextBefore at *
  split <;> split <;> omega

theorem ofDays_precedes {first second : Int} (earlier : first < second) :
    (ofDays first).Precedes (ofDays second) := by
  obtain ⟨cycle, year, day, total, yearLt, dayLt, leap, isDate⟩ := exists_parts first
  obtain ⟨nextCycle, nextYear, nextDay, nextTotal, nextYearLt, nextDayLt, nextLeap, nextIsDate⟩ :=
    exists_parts second
  rw [isDate, nextIsDate]
  refine ofParts_precedes dayLt nextDayLt ?_
  have inside := dayOfYear_lt yearLt dayLt leap
  have nextInside := dayOfYear_lt nextYearLt nextDayLt nextLeap
  have cycleEnd : daysBeforeYear 400 = 146097 := by decide
  have yearEnd : daysBeforeYear (year + 1) ≤ daysBeforeYear 400 := daysBeforeYear_mono yearLt
  have nextYearEnd : daysBeforeYear (nextYear + 1) ≤ daysBeforeYear 400 :=
    daysBeforeYear_mono nextYearLt
  have cycles : cycle ≤ nextCycle := by omega
  rcases Int.lt_or_eq_of_le cycles with cycleLt | rfl
  · omega
  · rcases Nat.lt_trichotomy year nextYear with yearLess | rfl | yearMore
    · omega
    · omega
    · have started : daysBeforeYear (nextYear + 1) ≤ daysBeforeYear year :=
        daysBeforeYear_mono yearMore
      omega

end Date

/-! ## The order of digits -/

/-- Of two texts that begin with parts of one length, the first parts decide. -/
theorem Text.append_lt_append {first second : List Char} (rest more : List Char)
    (sameLength : first.length = second.length) (less : first < second) :
    first ++ rest < second ++ more := by
  induction first generalizing second with
  | nil =>
      obtain rfl : second = [] := List.eq_nil_of_length_eq_zero sameLength.symm
      exact absurd less (List.lt_irrefl _)
  | cons head first ih =>
      cases second with
      | nil => cases sameLength
      | cons other second =>
          rw [List.cons_append, List.cons_append, List.cons_lt_cons_iff]
          rcases List.cons_lt_cons_iff.mp less with headLess | ⟨same, tailLess⟩
          · exact .inl headLess
          · exact .inr ⟨same, ih (Nat.succ.inj sameLength) tailLess⟩

namespace Instant

theorem digit_lt_digit : ∀ second < 10, ∀ first < second,
    Char.ofNat (48 + first) < Char.ofNat (48 + second) := by
  decide

theorem padded_lt_padded {width first second : Nat} (small : second < 10 ^ width)
    (less : first < second) : padded width first < padded width second := by
  induction width generalizing first second with
  | zero => omega
  | succ width ih =>
      rw [pow_succ] at small
      rcases Nat.lt_or_ge (first / 10) (second / 10) with quotient | quotient
      · exact Text.append_lt_append _ _ (by simp only [length_padded]) (ih (by omega) quotient)
      · have same : first / 10 = second / 10 := by omega
        rw [padded, padded, same]
        refine List.append_left_lt (List.cons_lt_cons_iff.mpr (.inl ?_))
        exact digit_lt_digit _ (Nat.mod_lt _ (by decide)) _ (by omega)

/-- A number of fixed width decides the order, unless it is the same in both
texts. -/
theorem padded_append_lt {width first second : Nat} {rest more : List Char}
    (small : second < 10 ^ width) (earlier : first < second ∨ first = second ∧ rest < more) :
    padded width first ++ rest < padded width second ++ more := by
  rcases earlier with less | ⟨rfl, restLess⟩
  · exact Text.append_lt_append _ _ (by simp only [length_padded]) (padded_lt_padded small less)
  · exact List.append_left_lt restLess

theorem mark_append_lt (mark : Char) {rest more : List Char} (less : rest < more) :
    mark :: rest < mark :: more :=
  List.cons_lt_cons_iff.mpr (.inr ⟨rfl, less⟩)

/-! ## The order of stored times -/

variable {first second : Instant}

theorem isBefore_iff :
    first.isBefore second = true ↔ first.second < second.second ∨
      first.second = second.second ∧ first.nanosecond < second.nanosecond := by
  simp only [isBefore, Bool.or_eq_true, Bool.and_eq_true, beq_iff_eq, decide_eq_true_eq]

theorem toMicrosecond_isBefore_iff :
    first.toMicrosecond.isBefore second.toMicrosecond = true ↔ first.second < second.second ∨
      first.second = second.second ∧ first.nanosecond / 1000 < second.nanosecond / 1000 := by
  rw [isBefore_iff]
  change _ ∨ _ ∧ first.nanosecond - first.nanosecond % 1000 <
    second.nanosecond - second.nanosecond % 1000 ↔ _
  have parts : first.nanosecond - first.nanosecond % 1000 <
      second.nanosecond - second.nanosecond % 1000 ↔
        first.nanosecond / 1000 < second.nanosecond / 1000 := by
    omega
  exact or_congr_right (and_congr_right fun _ => parts)

theorem length_storedChars (years : 0 ≤ first.date.year ∧ first.date.year ≤ 9999) :
    first.storedChars.length = 27 := by
  simp only [storedChars_of_year years, List.length_append, List.length_cons, length_padded,
    List.length_nil]

/-- The clock shows an earlier time of day within the same day.  A leap second
is shown as the sixtieth, after all other seconds of its minute. -/
theorem timeOfDay_lt (sameDay : first.second / 86400 = second.second / 86400)
    (before : first.second < second.second ∨
      first.second = second.second ∧ first.nanosecond / 1000 < second.nanosecond / 1000) :
    first.wallTime.hour < second.wallTime.hour ∨ first.wallTime.hour = second.wallTime.hour ∧
      (first.wallTime.minute < second.wallTime.minute ∨
        first.wallTime.minute = second.wallTime.minute ∧
      (first.wallTime.second < second.wallTime.second ∨
        first.wallTime.second = second.wallTime.second ∧
      first.wallTime.nanosecond / 1000 < second.wallTime.nanosecond / 1000)) := by
  have leap := first.leap_ends_minute
  simp only [wallTime, secondOfDay]
  omega

theorem storedChars_lt (years : 0 ≤ first.date.year ∧ first.date.year ≤ 9999)
    (laterYears : 0 ≤ second.date.year ∧ second.date.year ≤ 9999)
    (before : first.toMicrosecond.isBefore second.toMicrosecond = true) :
    first.storedChars < second.storedChars := by
  obtain ⟨month, day, hour, minute, seconds, microsecond⟩ := wallTime_lt second
  have year : second.wallTime.date.year.toNat < 10 ^ 4 := by
    change second.date.year.toNat < 10 ^ 4
    omega
  rw [toMicrosecond_isBefore_iff] at before
  have days : first.second / 86400 ≤ second.second / 86400 := by omega
  rw [storedChars_of_year years, storedChars_of_year laterYears]
  rcases Int.lt_or_eq_of_le days with earlierDay | sameDay
  · have dates : first.wallTime.date.Precedes second.wallTime.date :=
      Date.ofDays_precedes earlierDay
    rcases dates with yearLess | ⟨sameYear, monthLess | ⟨sameMonth, dayLess⟩⟩
    · refine padded_append_lt year (.inl ?_)
      change first.date.year < second.date.year at yearLess
      change first.date.year.toNat < second.date.year.toNat
      omega
    · rw [sameYear]
      refine padded_append_lt year (.inr ⟨rfl, mark_append_lt _ ?_⟩)
      exact padded_append_lt month (.inl monthLess)
    · rw [sameYear, sameMonth]
      refine padded_append_lt year (.inr ⟨rfl, mark_append_lt _ ?_⟩)
      refine padded_append_lt month (.inr ⟨rfl, mark_append_lt _ ?_⟩)
      exact padded_append_lt day (.inl dayLess)
  · have sameDate : first.wallTime.date = second.wallTime.date := congrArg Date.ofDays sameDay
    rw [sameDate]
    refine padded_append_lt year (.inr ⟨rfl, mark_append_lt _ ?_⟩)
    refine padded_append_lt month (.inr ⟨rfl, mark_append_lt _ ?_⟩)
    refine padded_append_lt day (.inr ⟨rfl, mark_append_lt _ ?_⟩)
    refine padded_append_lt hour ((timeOfDay_lt sameDay before).imp_right
      (And.imp_right fun later => mark_append_lt _ ?_))
    refine padded_append_lt minute (later.imp_right
      (And.imp_right fun later => mark_append_lt _ ?_))
    refine padded_append_lt seconds (later.imp_right
      (And.imp_right fun later => mark_append_lt _ ?_))
    exact padded_append_lt microsecond (.inl later)

theorem isBefore_or_eq_or_isBefore (first second : Instant) :
    first.isBefore second = true ∨ first = second ∨ second.isBefore first = true := by
  have same : first = second ↔
      first.second = second.second ∧ first.nanosecond = second.nanosecond := by
    rw [Instant.mk.injEq]
  rw [isBefore_iff, isBefore_iff, same]
  omega

/-- The order of stored times is that of the times to the microsecond. -/
theorem storedChars_lt_iff (years : 0 ≤ first.date.year ∧ first.date.year ≤ 9999)
    (otherYears : 0 ≤ second.date.year ∧ second.date.year ≤ 9999) :
    first.storedChars < second.storedChars ↔
      first.toMicrosecond.isBefore second.toMicrosecond = true := by
  refine ⟨fun less => ?_, storedChars_lt years otherYears⟩
  rcases isBefore_or_eq_or_isBefore first.toMicrosecond second.toMicrosecond with
    before | same | after
  · exact before
  · have sameText : first.storedText = second.storedText := by
      rw [← storedText_toMicrosecond, same, storedText_toMicrosecond]
    have sameChars : first.storedChars = second.storedChars := String.ofList_injective sameText
    rw [sameChars] at less
    exact absurd less (List.lt_irrefl _)
  · exact absurd (storedChars_lt otherYears years after) (List.lt_asymm less)

end Instant

end Carpool
