import Carpool.Proofs.Time.StoredText
import Carpool.Time.Relaxed

/-!
# Times in records

A time is read back exactly from the text that records show of it: in every year
that can be represented, to the nanosecond, and within leap seconds.  Readers are
lenient about blanks and leading zeros, so each step is shown to take all that was
written for it and nothing of what comes after.
-/

namespace Carpool

namespace TimeScan

open Instant (padded length_padded isDigit_padded)

/-! ## Runs of digits -/

theorem digitsValue_eq_ofDigitChars (digits : List Char) :
    digitsValue digits = Nat.ofDigitChars 10 digits 0 := by
  rw [Nat.ofDigitChars_eq_foldl, digitsValue]
  congr 1
  funext value digit
  rw [Nat.mul_comm]
  rfl

/-- Every reader of a number takes a run of digits that is neither too short nor
too long for it, if the digits stop there or may not go on. -/
theorem number_digits {least most : Nat} {digits rest : List Char}
    (all : ∀ digit ∈ digits, digit.isDigit = true) (nonempty : digits ≠ [])
    (enough : least ≤ digits.length) (few : digits.length ≤ most)
    (stops : ∀ next ∈ (rest.take (most - digits.length)).head?, next.isDigit = false) :
    number least most (digits ++ rest) = some (digitsValue digits, rest) := by
  have cut : (digits ++ rest).take most = digits ++ rest.take (most - digits.length) := by
    rw [List.take_append, List.take_of_length_le few]
  have ended : (rest.take (most - digits.length)).takeWhile Char.isDigit = [] := by
    cases taken : rest.take (most - digits.length) with
    | nil => rfl
    | cons next more =>
        rw [taken] at stops
        have other : next.isDigit = false := stops next rfl
        simp [other]
  have run : ((digits ++ rest).take most).takeWhile Char.isDigit = digits := by
    rw [cut, List.takeWhile_append_of_pos all, ended, List.append_nil]
  simp only [number, run]
  rw [if_pos ⟨enough, nonempty⟩, List.drop_left]

theorem longNumber_digits {digits rest : List Char}
    (all : ∀ digit ∈ digits, digit.isDigit = true) (nonempty : digits ≠ [])
    (stops : ∀ next ∈ rest.head?, next.isDigit = false) :
    longNumber (digits ++ rest) = some (digitsValue digits, rest) := by
  have some_digit : 1 ≤ digits.length := List.length_pos_iff.mpr nonempty
  have room : (digits ++ rest).length - digits.length = rest.length := by simp
  apply number_digits all nonempty some_digit (by simp)
  rw [room, List.take_length]
  exact stops

/-! ## Blanks -/

theorem not_blank_of_isDigit {character : Char} (digit : character.isDigit = true) :
    Text.isBlank character = false := by
  have range : 48 ≤ character.toNat ∧ character.toNat ≤ 57 := by
    simp only [Char.isDigit, Bool.and_eq_true, decide_eq_true_eq] at digit
    exact ⟨digit.1, digit.2⟩
  simp only [Text.isBlank, Bool.or_eq_false_iff, Bool.and_eq_false_iff, decide_eq_false_iff_not,
    beq_eq_false_iff_ne]
  omega

theorem skipBlank_cons {first : Char} (other : Text.isBlank first = false) (rest : List Char) :
    skipBlank (first :: rest) = first :: rest := by
  simp [skipBlank, other]

theorem skipBlank_digits {digits : List Char} (all : ∀ digit ∈ digits, digit.isDigit = true)
    (nonempty : digits ≠ []) (rest : List Char) : skipBlank (digits ++ rest) = digits ++ rest := by
  cases digits with
  | nil => exact absurd rfl nonempty
  | cons first more => exact skipBlank_cons (not_blank_of_isDigit (all first (by simp))) _

end TimeScan

namespace Instant

open TimeScan

/-! ## Two digits and marks -/

theorem padded_ne_nil {width : Nat} (positive : 0 < width) (value : Nat) :
    padded width value ≠ [] := by
  intro empty
  have size := length_padded width value
  rw [empty] at size
  simp at size
  omega

theorem spacedNumber_padded {value : Nat} (small : value < 10 ^ 2) (rest : List Char) :
    spacedNumber 2 (padded 2 value ++ rest) = some (value, rest) := by
  have all : ∀ digit ∈ padded 2 value, digit.isDigit = true := fun digit => isDigit_padded
  have nonempty := padded_ne_nil (by decide : 0 < 2) value
  have size := length_padded 2 value
  rw [spacedNumber, skipBlank_digits all nonempty, number_digits all nonempty (by omega)
    (by omega) (by simp [size]), digitsValue_padded small]

theorem spacedMark_cons {mark : Char} (other : Text.isBlank mark = false) (rest : List Char) :
    spacedMark mark (mark :: rest) = some ((), rest) := by
  rw [spacedMark, skipBlank_cons other]
  exact oneOf_first rest (by simp)

/-! ## Years -/

/-- The digits of a year that is written with a sign. -/
def signedDigits (year : Nat) : List Char :=
  List.replicate (4 - (Nat.toDigits 10 year).length) '0' ++ Nat.toDigits 10 year

theorem isDigit_signedDigits (year : Nat) :
    ∀ digit ∈ signedDigits year, digit.isDigit = true := by
  intro digit member
  rcases List.mem_append.mp member with zero | later
  · rw [List.eq_of_mem_replicate zero]
    rfl
  · exact Nat.isDigit_of_mem_toDigits (by decide) (by decide) later

theorem digitsValue_signedDigits (year : Nat) : digitsValue (signedDigits year) = year := by
  rw [digitsValue_eq_ofDigitChars, signedDigits, Nat.ofDigitChars_append,
    Nat.ofDigitChars_replicate_zero, Nat.mul_zero, Nat.ofDigitChars_ten_toDigits]

theorem longNumber_signedDigits (year : Nat) (rest : List Char) :
    longNumber (signedDigits year ++ '-' :: rest) = some (year, '-' :: rest) := by
  have nonempty : signedDigits year ≠ [] := by simp [signedDigits, Nat.toDigits_ne_nil]
  have stops : ∀ next ∈ ('-' :: rest).head?, next.isDigit = false := by
    intro next first
    obtain rfl := Option.some.inj first
    rfl
  rw [longNumber_digits (isDigit_signedDigits year) nonempty stops, digitsValue_signedDigits]

/-- A year of four digits starts with no sign, so at most four digits are taken. -/
theorem scanYear_padded {year : Nat} (small : year < 10 ^ 4) (rest : List Char) :
    scanYear (padded 4 year ++ rest) = some ((year : Int), rest) := by
  have all : ∀ digit ∈ padded 4 year, digit.isDigit = true := fun digit => isDigit_padded
  have nonempty := padded_ne_nil (by decide : 0 < 4) year
  have size := length_padded 4 year
  have read : number 1 4 (padded 4 year ++ rest) = some (year, rest) := by
    rw [number_digits all nonempty (by omega) (by omega) (by simp [size]),
      digitsValue_padded small]
  rw [scanYear, skipBlank_digits all nonempty]
  cases shown : padded 4 year with
  | nil => contradiction
  | cons first more =>
      have digit : first.isDigit = true := all first (by simp [shown])
      rw [shown] at read
      split
      · rename_i sign
        rw [(List.cons.inj sign).1] at digit
        contradiction
      · rename_i sign
        rw [(List.cons.inj sign).1] at digit
        contradiction
      · rw [read]
        rfl

theorem scanYear_printYear (year : Int) (rest : List Char) :
    scanYear (printYear year ++ '-' :: rest) = some (year, '-' :: rest) := by
  by_cases short : 0 ≤ year ∧ year ≤ 9999
  · have back : (year.toNat : Int) = year := by omega
    rw [printYear, if_pos short, scanYear_padded (by omega), back]
  · have shown : printYear year = (if year < 0 then '-' else '+') :: signedDigits year.natAbs := by
      rw [printYear, if_neg short]
      rfl
    have read := longNumber_signedDigits year.natAbs rest
    by_cases negative : year < 0
    · have back : -(year.natAbs : Int) = year := by omega
      rw [shown, if_pos negative, List.cons_append, scanYear, skipBlank_cons (by decide)]
      simp only [read, Option.map_some, back]
    · have back : (year.natAbs : Int) = year := by omega
      rw [shown, if_neg negative, List.cons_append, scanYear, skipBlank_cons (by decide)]
      simp only [read, Option.map_some, back]

/-! ## Fractions -/

/-- The fewest groups of three digits that show a fraction give it back. -/
theorem fraction_printFraction {nanosecond : Nat} (small : nanosecond < 1000000000)
    {rest : List Char} (stops : ∀ next ∈ rest.head?, next.isDigit = false ∧ next ≠ '.') :
    fraction (printFraction nanosecond ++ rest) = some (nanosecond, rest) := by
  have ended : ∀ next ∈ rest.head?, next.isDigit = false := fun next first => (stops next first).1
  have point {width value : Nat} (positive : 0 < width) (short : width ≤ 9)
      (fits : value < 10 ^ width) :
      fraction ('.' :: padded width value ++ rest) = some (value * 10 ^ (9 - width), rest) :=
    nanoseconds_padded positive short fits ended
  rw [printFraction]
  split
  · rename_i zero
    rw [List.nil_append, zero, fraction.eq_def]
    split
    · rename_i more
      exact absurd rfl (stops '.' rfl).2
    · rfl
  · split
    · rw [point (by decide) (by decide) (by omega)]
      congr 2
      omega
    · split
      · rw [point (by decide) (by decide) (by omega)]
        congr 2
        omega
      · rw [point (by decide) (by decide) (by omega)]
        congr 2
        omega

/-! ## Whole texts -/

theorem scanRelaxed_text (instant : Instant) :
    scanRelaxed (printSeconds instant.wallTime
        ++ (printFraction instant.wallTime.nanosecond ++ ['Z'])) =
      some (instant.wallTime, ['Z']) := by
  obtain ⟨month, day, hour, minute, second, -⟩ := wallTime_lt instant
  have nanosecond : instant.wallTime.nanosecond < 1000000000 := Nat.mod_lt _ (by decide)
  have dash (rest : List Char) : spacedMark '-' ('-' :: rest) = some ((), rest) :=
    spacedMark_cons (by decide) rest
  have colon (rest : List Char) : spacedMark ':' (':' :: rest) = some ((), rest) :=
    spacedMark_cons (by decide) rest
  have timeMark (rest : List Char) : oneOf ['T', 't', ' '] ('T' :: rest) = some ((), rest) :=
    oneOf_first rest (by decide)
  have ends : ∀ next ∈ ['Z'].head?, next.isDigit = false ∧ next ≠ '.' := by
    intro next last
    obtain rfl := Option.some.inj last
    decide
  simp only [printSeconds, printDate, List.append_assoc, List.cons_append, scanRelaxed,
    scanYear_printYear, spacedNumber_padded month, spacedNumber_padded day,
    spacedNumber_padded hour, spacedNumber_padded minute, spacedNumber_padded second, dash, colon,
    timeMark, Option.bind_eq_bind, Option.bind_some]
  rw [fraction_printFraction nanosecond ends]
  rfl

/-- Every time is read back from its text. -/
theorem ofText?_text (instant : Instant) : ofText? instant.text = some instant := by
  have offset : scanRelaxedOffset ['Z'] = some (0, []) := by decide
  rw [ofText?, text, String.toList_ofList, List.append_assoc, ofChars?, scanRelaxed_text]
  simp only [Option.bind_eq_bind, Option.bind_some, offset]
  rw [if_pos ⟨rfl, by decide⟩]
  exact toInstant?_wallTime instant

end Instant

end Carpool
