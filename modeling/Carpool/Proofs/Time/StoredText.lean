import Carpool.Proofs.Time.Calendar
import Carpool.Time.Print
import Carpool.Time.Strict

/-!
# Stored times

A time of the years 0 to 9999 is read back, to the microsecond, from the text
in which it is stored.  The text of any other time cannot be read: its year
begins with a sign, and the reader wants four digits.
-/

namespace Carpool

/-! ## Digits of a fixed number -/

namespace Instant

theorem length_padded (width value : Nat) : (padded width value).length = width := by
  induction width generalizing value with
  | zero => rfl
  | succ width ih => simp [padded, ih]

theorem isDigit_ofNat {digit : Nat} (small : digit < 10) :
    (Char.ofNat (48 + digit)).isDigit = true
      ∧ (Char.ofNat (48 + digit)).toNat - 48 = digit := by
  interval_cases digit <;> decide

theorem isDigit_padded {width value : Nat} {character : Char}
    (member : character ∈ padded width value) : character.isDigit = true := by
  induction width generalizing value with
  | zero => simp [padded] at member
  | succ width ih =>
      rw [padded, List.mem_append, List.mem_singleton] at member
      rcases member with earlier | rfl
      · exact ih earlier
      · exact (isDigit_ofNat (Nat.mod_lt _ (by omega))).1

end Instant

namespace TimeScan

open Instant

theorem digitsValue_append (digits : List Char) (digit : Char) :
    digitsValue (digits ++ [digit]) = digitsValue digits * 10 + (digit.toNat - 48) := by
  simp [digitsValue]

theorem digitsValue_padded {width value : Nat} (small : value < 10 ^ width) :
    digitsValue (padded width value) = value := by
  induction width generalizing value with
  | zero =>
      have : value = 0 := by simpa using small
      simp [padded, digitsValue, this]
  | succ width ih =>
      have quotient : value / 10 < 10 ^ width := by
        rw [pow_succ] at small
        omega
      rw [padded, digitsValue_append, ih quotient,
        (isDigit_ofNat (Nat.mod_lt value (by omega))).2]
      omega

theorem takeWhile_padded (width value : Nat) {rest : List Char}
    (stops : ∀ character ∈ rest.head?, character.isDigit = false) :
    (padded width value ++ rest).takeWhile Char.isDigit = padded width value := by
  rw [List.takeWhile_append_of_pos fun character member => isDigit_padded member]
  cases rest with
  | nil => simp
  | cons first rest =>
      have : first.isDigit = false := stops first rfl
      simp [this]

/-- A number of fixed width is read back, whatever comes after it. -/
theorem number_padded {width value : Nat} (rest : List Char) (positive : 0 < width)
    (small : value < 10 ^ width) :
    number width width (padded width value ++ rest) = some (value, rest) := by
  have taken : (padded width value ++ rest).take width = padded width value := by
    rw [List.take_append_of_le_length (by rw [length_padded])]
    exact List.take_of_length_le (by rw [length_padded])
  have digits : (padded width value).takeWhile Char.isDigit = padded width value := by
    simpa using @takeWhile_padded width value [] (by simp)
  have nonempty : padded width value ≠ [] := by
    intro empty
    have size := length_padded width value
    rw [empty] at size
    simp at size
    omega
  have dropped : (padded width value ++ rest).drop width = rest := by
    rw [List.drop_append_of_le_length (by rw [length_padded]),
      List.drop_of_length_le (by rw [length_padded]), List.nil_append]
  simp only [number, taken, digits, length_padded, digitsValue_padded small, dropped]
  rw [if_pos ⟨Nat.le_refl _, nonempty⟩]

theorem oneOf_first {choices : List Char} {first : Char} (rest : List Char)
    (choice : first ∈ choices) : oneOf choices (first :: rest) = some ((), rest) := by
  rw [oneOf, if_pos choice]

theorem number_of_sign (width : Nat) {first : Char} (rest : List Char)
    (sign : first.isDigit = false) : number width width (first :: rest) = none := by
  cases width <;> simp [number, sign]

/-- The digits of a fraction count the parts into which they divide a second. -/
theorem nanoseconds_padded {width value : Nat} {rest : List Char} (positive : 0 < width)
    (short : width ≤ 9) (small : value < 10 ^ width)
    (stops : ∀ character ∈ rest.head?, character.isDigit = false) :
    nanoseconds (padded width value ++ rest) = some (value * 10 ^ (9 - width), rest) := by
  have size := length_padded width value
  have nonempty : (padded width value).isEmpty = false := by
    cases shown : padded width value with
    | nil =>
        rw [shown] at size
        simp at size
        omega
    | cons first more => rfl
  have dropped : (padded width value ++ rest).drop width = rest := by
    rw [List.drop_append_of_le_length (by rw [size]), List.drop_of_length_le (by rw [size]),
      List.nil_append]
  have kept : (padded width value).take 9 = padded width value :=
    List.take_of_length_le (by omega)
  simp only [nanoseconds, takeWhile_padded width value stops, nonempty, kept, size, dropped,
    digitsValue_padded small, Nat.pow_eq, Bool.false_eq_true, if_false]

end TimeScan

namespace Instant

open TimeScan

/-! ## The clock on the wall -/

theorem exists?_wallTime (instant : Instant) : instant.wallTime.exists? = true := by
  have leap := instant.leap_ends_minute
  have bound := instant.nanosecond_lt
  have calendar := Date.exists?_ofDays (instant.second / 86400)
  simp only [WallTime.exists?, wallTime, date, calendar, secondOfDay, Bool.and_eq_true, true_and]
  refine ⟨⟨⟨?_, ?_⟩, ?_⟩, ?_⟩ <;> apply decide_eq_true <;> omega

theorem toSecond_wallTime (instant : Instant) : instant.wallTime.toSecond = instant.second := by
  have leap := instant.leap_ends_minute
  have days := Date.toDays_ofDays (instant.second / 86400)
  simp only [WallTime.toSecond, wallTime, date, days, secondOfDay]
  omega

/-- What the clock shows without the digits below the microsecond. -/
def storedWallTime (instant : Instant) : WallTime :=
  { instant.wallTime with
    nanosecond := instant.wallTime.nanosecond / 1000 * 1000 }

theorem make?_self (instant : Instant) :
    make? instant.second instant.nanosecond = some instant := by
  rw [make?, dif_pos ⟨instant.first_le, instant.le_last, instant.nanosecond_lt,
    instant.leap_ends_minute⟩]

/-- The instant at which the clock shows what it shows. -/
theorem toInstant?_wallTime (instant : Instant) :
    instant.wallTime.toInstant? 0 = some instant := by
  have leap := instant.leap_ends_minute
  have bound := instant.nanosecond_lt
  have sameSecond := toSecond_wallTime instant
  have fraction : instant.wallTime.nanosecond
      + (if instant.wallTime.second = 60 then 1000000000 else 0) = instant.nanosecond := by
    have seconds : instant.wallTime.second
        = (instant.second % 86400).toNat % 60 + instant.nanosecond / 1000000000 := rfl
    change instant.nanosecond % 1000000000 + _ = instant.nanosecond
    by_cases late : 1000000000 ≤ instant.nanosecond
    · rw [if_pos (by omega)]
      omega
    · rw [if_neg (by omega)]
      omega
  rw [WallTime.toInstant?, if_pos ⟨exists?_wallTime instant, sameSecond ▸ instant.first_le,
    sameSecond ▸ instant.le_last⟩, sameSecond, fraction, Int.zero_mul, Int.sub_zero]
  exact make?_self instant

/-- A stored time is what the clock shows at the start of the microsecond. -/
theorem storedWallTime_eq (instant : Instant) :
    instant.storedWallTime = instant.toMicrosecond.wallTime := by
  have seconds : (instant.nanosecond - instant.nanosecond % 1000) / 1000000000
      = instant.nanosecond / 1000000000 := by omega
  have nanoseconds : (instant.nanosecond - instant.nanosecond % 1000) % 1000000000
      = instant.nanosecond % 1000000000 / 1000 * 1000 := by omega
  simp only [storedWallTime, wallTime, date, secondOfDay, toMicrosecond, truncate, seconds,
    nanoseconds]

theorem toInstant?_storedWallTime (instant : Instant) :
    instant.storedWallTime.toInstant? 0 = some instant.toMicrosecond := by
  rw [storedWallTime_eq]
  exact toInstant?_wallTime instant.toMicrosecond

/-! ## Reading what was written -/

/-- The parts of a shown time have at most the digits that they are written
with. -/
theorem wallTime_lt (instant : Instant) :
    instant.wallTime.date.month < 10 ^ 2 ∧ instant.wallTime.date.day < 10 ^ 2
      ∧ instant.wallTime.hour < 10 ^ 2 ∧ instant.wallTime.minute < 10 ^ 2
      ∧ instant.wallTime.second < 10 ^ 2 ∧ instant.wallTime.nanosecond / 1000 < 1000000 := by
  have shown := exists?_wallTime instant
  simp only [WallTime.exists?, Date.exists?, Bool.and_eq_true] at shown
  obtain ⟨⟨⟨⟨date, hour⟩, minute⟩, second⟩, nanosecond⟩ := shown
  obtain ⟨⟨⟨_, month⟩, _⟩, day⟩ := date
  have := of_decide_eq_true month
  have := of_decide_eq_true day
  have := of_decide_eq_true hour
  have := of_decide_eq_true minute
  have := of_decide_eq_true second
  have := of_decide_eq_true nanosecond
  have monthDays :
      Date.daysInMonth instant.wallTime.date.year instant.wallTime.date.month ≤ 31 := by
    unfold Date.daysInMonth
    split
    · split <;> omega
    · omega
    · omega
    · omega
    · omega
    · omega
  omega

/-- In the years 0 to 9999 every number of a stored time has its fixed width. -/
theorem storedChars_of_year {instant : Instant}
    (years : 0 ≤ instant.date.year ∧ instant.date.year ≤ 9999) :
    instant.storedChars
      = padded 4 instant.wallTime.date.year.toNat ++ '-' :: (padded 2 instant.wallTime.date.month
        ++ '-' :: (padded 2 instant.wallTime.date.day ++ 'T' :: (padded 2 instant.wallTime.hour
        ++ ':' :: (padded 2 instant.wallTime.minute ++ ':' :: (padded 2 instant.wallTime.second
        ++ '.' :: (padded 6 (instant.wallTime.nanosecond / 1000) ++ ['Z'])))))) := by
  have inRange : 0 ≤ instant.wallTime.date.year ∧ instant.wallTime.date.year ≤ 9999 := years
  simp only [storedChars, printSeconds, printDate, printYear, if_pos inRange, List.append_assoc,
    List.cons_append]

theorem scanStrict_storedChars {instant : Instant}
    (years : 0 ≤ instant.date.year ∧ instant.date.year ≤ 9999) :
    scanStrict instant.storedChars = some (instant.storedWallTime, ['Z']) := by
  obtain ⟨month, day, hour, minute, second, microsecond⟩ := wallTime_lt instant
  have yearLt : instant.wallTime.date.year.toNat < 10 ^ 4 := by
    change instant.date.year.toNat < 10 ^ 4
    omega
  have yearBack : (instant.wallTime.date.year.toNat : Int) = instant.wallTime.date.year := by
    change (instant.date.year.toNat : Int) = instant.date.year
    omega
  have fractionRead (rest : List Char)
      (stops : ∀ character ∈ rest.head?, character.isDigit = false) :
      fraction ('.' :: (padded 6 (instant.wallTime.nanosecond / 1000) ++ rest))
        = some (instant.wallTime.nanosecond / 1000 * 1000, rest) :=
    nanoseconds_padded (by decide) (by decide) microsecond stops
  have two : 0 < 2 := by decide
  have dash (rest : List Char) : oneOf ['-'] ('-' :: rest) = some ((), rest) :=
    oneOf_first rest (by decide)
  have colon (rest : List Char) : oneOf [':'] (':' :: rest) = some ((), rest) :=
    oneOf_first rest (by decide)
  have timeMark (rest : List Char) : oneOf ['T', 't', ' '] ('T' :: rest) = some ((), rest) :=
    oneOf_first rest (by decide)
  have ends : ∀ character ∈ ['Z'].head?, character.isDigit = false := by
    intro character last
    obtain rfl := Option.some.inj last
    rfl
  rw [storedChars_of_year years, scanStrict]
  simp only [number_padded _ (by decide : 0 < 4) yearLt, number_padded _ two month,
    number_padded _ two day, number_padded _ two hour, number_padded _ two minute,
    number_padded _ two second, dash, colon, timeMark, Option.bind_eq_bind, Option.bind_some]
  rw [fractionRead ['Z'] ends]
  simp only [Option.bind_some, yearBack]
  rfl

/-- A stored time reads back, to the microsecond, in the years 0 to 9999, and
in no other year. -/
theorem ofStoredText?_storedText (instant : Instant) :
    ofStoredText? instant.storedText
      = if 0 ≤ instant.date.year ∧ instant.date.year ≤ 9999 then some instant.toMicrosecond
        else none := by
  rw [ofStoredText?, storedText, String.toList_ofList, ofStoredChars?]
  split
  · rename_i years
    rw [scanStrict_storedChars years]
    exact toInstant?_storedWallTime instant
  · rename_i years
    have unreadable : scanStrict instant.storedChars = none := by
      have outside : ¬ (0 ≤ instant.wallTime.date.year ∧ instant.wallTime.date.year ≤ 9999) :=
        years
      have isSign : (if instant.wallTime.date.year < 0 then '-' else '+').isDigit = false := by
        split <;> decide
      rw [scanStrict, storedChars, printSeconds, printDate, printYear, if_neg outside]
      simp only [List.cons_append, number_of_sign 4 _ isSign, Option.bind_eq_bind,
        Option.bind_none]
    rw [unreadable]
    rfl

@[simp]
theorem toMicrosecond_toMicrosecond (instant : Instant) :
    instant.toMicrosecond.toMicrosecond = instant.toMicrosecond := by
  simp only [toMicrosecond, truncate, Instant.mk.injEq, true_and]
  omega

@[simp]
theorem storedText_toMicrosecond (instant : Instant) :
    instant.toMicrosecond.storedText = instant.storedText := by
  have seconds : (instant.nanosecond - instant.nanosecond % 1000) / 1000000000
      = instant.nanosecond / 1000000000 := by omega
  have microseconds : (instant.nanosecond - instant.nanosecond % 1000) % 1000000000 / 1000
      = instant.nanosecond % 1000000000 / 1000 := by omega
  simp only [storedText, storedChars, printSeconds, wallTime, date, secondOfDay, toMicrosecond,
    truncate, seconds, microseconds]

/-- What is read back from a stored time is stored as the same text. -/
theorem eq_toMicrosecond_of_read {instant read : Instant}
    (isRead : ofStoredText? instant.storedText = some read) : read = instant.toMicrosecond := by
  rw [ofStoredText?_storedText] at isRead
  split at isRead
  · exact (Option.some.inj isRead).symm
  · contradiction

end Instant

end Carpool
