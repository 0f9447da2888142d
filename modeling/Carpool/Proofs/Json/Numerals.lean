import Carpool.Json.Token
import Mathlib.Data.List.Basic
import Mathlib.Data.List.TakeWhile

/-!
# Printed numerals read back

A numeral is read back exactly as it was spelled, whatever comes after it that
cannot go on with it.
-/

namespace Carpool

namespace Json

open Numeral (natOctets digitOctet)

/-! ## Whole numbers -/

theorem ofAscii_digitChar {digit : Nat} (small : digit < 10) :
    Octets.ofAscii digit.digitChar = UInt8.ofNat (48 + digit) := by
  have table : ∀ digit : Fin 10,
      Octets.ofAscii (Nat.digitChar digit) = UInt8.ofNat (48 + digit) := by
    decide
  exact table ⟨digit, small⟩

theorem natOctets_of_lt {value : Nat} (small : value < 10) :
    natOctets value = [UInt8.ofNat (48 + value)] := by
  rw [natOctets, Nat.toDigits_of_lt_base small, List.map_singleton, ofAscii_digitChar small]

theorem natOctets_of_le {value : Nat} (large : 10 ≤ value) :
    natOctets value = natOctets (value / 10) ++ [UInt8.ofNat (48 + value % 10)] := by
  rw [natOctets, Nat.toDigits_of_base_le (by decide) large, List.map_append, List.map_singleton,
    ofAscii_digitChar (Nat.mod_lt _ (by decide)), natOctets]

theorem isDigit_digit {digit : Nat} (small : digit < 10) :
    isDigit (UInt8.ofNat (48 + digit)) = true ∧
      digitValue (UInt8.ofNat (48 + digit)) = Fin.ofNat 10 digit ∧
      (UInt8.ofNat (48 + digit) = 48 → digit = 0) := by
  have table : ∀ digit : Fin 10, isDigit (UInt8.ofNat (48 + digit)) = true ∧
      digitValue (UInt8.ofNat (48 + digit)) = Fin.ofNat 10 digit ∧
      (UInt8.ofNat (48 + digit) = 48 → digit.val = 0) := by
    decide
  exact table ⟨digit, small⟩

theorem isDigit_of_mem_natOctets (value : Nat) :
    ∀ octet ∈ natOctets value, isDigit octet = true := by
  induction value using Nat.strong_induction_on with
  | h value ih =>
      by_cases small : value < 10
      · rw [natOctets_of_lt small, List.forall_mem_singleton]
        exact (isDigit_digit small).1
      · rw [natOctets_of_le (by omega)]
        refine List.forall_mem_append.mpr ⟨ih (value / 10) (by omega), ?_⟩
        rw [List.forall_mem_singleton]
        exact (isDigit_digit (Nat.mod_lt _ (by decide))).1

theorem digitsValue_concat (digits : Octets) (digit : UInt8) :
    digitsValue (digits ++ [digit]) = digitsValue digits * 10 + (digitValue digit).val := by
  rw [digitsValue, List.foldl_append]
  rfl

theorem digitsValue_natOctets (value : Nat) : digitsValue (natOctets value) = value := by
  induction value using Nat.strong_induction_on with
  | h value ih =>
      by_cases small : value < 10
      · rw [natOctets_of_lt small, ← List.nil_append [_], digitsValue_concat,
          (isDigit_digit small).2.1]
        simp [digitsValue, Nat.mod_eq_of_lt small]
      · have last : value % 10 < 10 := Nat.mod_lt _ (by decide)
        rw [natOctets_of_le (by omega), digitsValue_concat, ih (value / 10) (by omega),
          (isDigit_digit last).2.1]
        simp only [Fin.val_ofNat]
        omega

/-- Only zero starts with a zero. -/
theorem natOctets_eq_cons (value : Nat) :
    ∃ first more, natOctets value = first :: more ∧ (first = 48 → value = 0) := by
  induction value using Nat.strong_induction_on with
  | h value ih =>
      by_cases small : value < 10
      · exact ⟨_, [], natOctets_of_lt small, (isDigit_digit small).2.2⟩
      · obtain ⟨first, more, same, zero⟩ := ih (value / 10) (by omega)
        refine ⟨first, more ++ [UInt8.ofNat (48 + value % 10)], ?_, fun leads => ?_⟩
        · rw [natOctets_of_le (by omega), same, List.cons_append]
        · have := zero leads
          omega

/-! ## Reading digits -/

/-- The octets do not go on with digits. -/
def NoDigit (rest : Octets) : Prop :=
  ∀ first ∈ rest.head?, isDigit first = false

theorem NoDigit.cons {first : UInt8} (other : isDigit first = false) (rest : Octets) :
    NoDigit (first :: rest) := by
  simpa [NoDigit] using other

theorem takeWhile_digits {digits rest : Octets} (all : ∀ digit ∈ digits, isDigit digit = true)
    (ends : NoDigit rest) :
    (digits ++ rest).takeWhile isDigit = digits ∧ (digits ++ rest).dropWhile isDigit = rest := by
  rw [List.takeWhile_append_of_pos all, List.dropWhile_append_of_pos all]
  cases rest with
  | nil => simp
  | cons first more =>
      have other : isDigit first = false := ends first rfl
      simp [other]

namespace Token

theorem readWhole?_natOctets (value : Nat) {rest : Octets} (ends : NoDigit rest) :
    readWhole? (natOctets value ++ rest) = some (value, rest) := by
  obtain ⟨taken, dropped⟩ := takeWhile_digits (isDigit_of_mem_natOctets value) ends
  obtain ⟨first, more, same, zero⟩ := natOctets_eq_cons value
  have whole : ¬(first = 48 ∧ more ≠ []) := by
    rintro ⟨leads, longer⟩
    rw [zero leads, natOctets_of_lt (by decide)] at same
    exact longer (List.cons.inj same).2.symm
  simp only [readWhole?, taken, dropped]
  rw [same]
  simp only [if_neg whole]
  rw [← same, digitsValue_natOctets]

/-- The point and the digits after it, as they are printed. -/
def pointOctets (fraction : List (Fin 10)) : Octets :=
  if fraction.isEmpty then [] else 46 :: fraction.map digitOctet

/-- The exponent, as it is printed. -/
def scaleOctets : Option Int → Octets
  | none => []
  | some exponent => 101 :: ((if exponent < 0 then [45] else []) ++ natOctets exponent.natAbs)

theorem print_eq (numeral : Numeral) :
    numeral.print = (if numeral.negative then [45] else []) ++ natOctets numeral.whole ++
      pointOctets numeral.fraction ++ scaleOctets numeral.exponent := by
  obtain ⟨negative, whole, fraction, _ | exponent⟩ := numeral <;> rfl

/-- The octets do not go on with a numeral. -/
def EndsNumeral (rest : Octets) : Prop :=
  ∀ first ∈ rest.head?, isDigit first = false ∧ first ≠ 46 ∧ first ≠ 101 ∧ first ≠ 69

theorem EndsNumeral.noDigit {rest : Octets} (ends : EndsNumeral rest) : NoDigit rest :=
  fun first member => (ends first member).1

theorem digitOctet_table (digit : Fin 10) :
    isDigit (digitOctet digit) = true ∧ digitValue (digitOctet digit) = digit := by
  revert digit
  decide

theorem readFraction?_of_other {rest : Octets} (noPoint : 46 ∉ rest.head?) :
    readFraction? rest = some ([], rest) := by
  rw [readFraction?.eq_def]
  split
  · exact absurd rfl noPoint
  · rfl

theorem readFraction?_point (fraction : List (Fin 10)) {rest : Octets} (ends : NoDigit rest)
    (noPoint : 46 ∉ rest.head?) :
    readFraction? (pointOctets fraction ++ rest) = some (fraction, rest) := by
  cases fraction with
  | nil => exact readFraction?_of_other noPoint
  | cons digit digits =>
      have all : ∀ octet ∈ (digit :: digits).map digitOctet, isDigit octet = true := by
        rw [List.forall_mem_map]
        exact fun digit _ => (digitOctet_table digit).1
      have back : ((digit :: digits).map digitOctet).map digitValue = digit :: digits := by
        rw [List.map_map]
        exact List.map_id'' (fun digit => (digitOctet_table digit).2) _
      obtain ⟨taken, dropped⟩ := takeWhile_digits all ends
      change readFraction? (46 :: ((digit :: digits).map digitOctet ++ rest)) = _
      simp only [readFraction?, taken, dropped, back]
      rfl

theorem readExponent?_of_other {rest : Octets} (noMark : 101 ∉ rest.head? ∧ 69 ∉ rest.head?) :
    readExponent? rest = some (none, rest) := by
  cases rest with
  | nil => rfl
  | cons first more =>
      have other : ¬(first = 101 ∨ first = 69) := by simpa [eq_comm] using noMark
      rw [readExponent?, if_neg other]

theorem readSign_digits {first : UInt8} (digit : isDigit first = true) (rest : Octets) :
    readSign (first :: rest) = (false, first :: rest) := by
  rw [readSign.eq_def]
  split
  · rename_i same
    cases (List.cons.inj same).1 ▸ digit
  · rename_i same
    cases (List.cons.inj same).1 ▸ digit
  · rfl

theorem readSign_exponent (exponent : Int) (rest : Octets) :
    readSign ((if exponent < 0 then [45] else []) ++ natOctets exponent.natAbs ++ rest) =
      (decide (exponent < 0), natOctets exponent.natAbs ++ rest) := by
  by_cases negative : exponent < 0
  · simp only [if_pos negative, decide_eq_true negative]
    rfl
  · obtain ⟨first, more, same, -⟩ := natOctets_eq_cons exponent.natAbs
    have digit : isDigit first = true :=
      isDigit_of_mem_natOctets exponent.natAbs first (by simp [same])
    simp only [if_neg negative, decide_eq_false negative, List.nil_append, same, List.cons_append]
    exact readSign_digits digit _

theorem readExponent?_scale (exponent : Option Int) {rest : Octets} (ends : EndsNumeral rest) :
    readExponent? (scaleOctets exponent ++ rest) = some (exponent, rest) := by
  cases exponent with
  | none =>
      refine readExponent?_of_other ⟨fun member => ?_, fun member => ?_⟩
      · exact (ends 101 member).2.2.1 rfl
      · exact (ends 69 member).2.2.2 rfl
  | some exponent =>
      obtain ⟨taken, dropped⟩ :=
        takeWhile_digits (isDigit_of_mem_natOctets exponent.natAbs) ends.noDigit
      obtain ⟨first, more, same, -⟩ := natOctets_eq_cons exponent.natAbs
      have nonempty : (natOctets exponent.natAbs).isEmpty = false := by rw [same]; rfl
      have value : (if exponent < 0 then -(exponent.natAbs : Int) else exponent.natAbs) =
          exponent := by
        split <;> omega
      rw [scaleOctets, List.cons_append, readExponent?, if_pos (.inl rfl), readSign_exponent]
      simp only [taken, dropped, nonempty, digitsValue_natOctets, decide_eq_true_eq, value]
      rfl

/-! ## Numerals -/

theorem scaleOctets_head (exponent : Option Int) {rest : Octets} (ends : EndsNumeral rest) :
    NoDigit (scaleOctets exponent ++ rest) ∧ 46 ∉ (scaleOctets exponent ++ rest).head? := by
  cases exponent with
  | none => exact ⟨ends.noDigit, fun member => (ends 46 member).2.1 rfl⟩
  | some exponent => exact ⟨.cons rfl _, by simp [scaleOctets]⟩

theorem pointOctets_head (fraction : List (Fin 10)) {rest : Octets} (ends : NoDigit rest) :
    NoDigit (pointOctets fraction ++ rest) := by
  cases fraction with
  | nil => exact ends
  | cons digit digits => exact .cons rfl _

theorem readUnsigned?_print (negative : Bool) (whole : Nat) (fraction : List (Fin 10))
    (exponent : Option Int) {rest : Octets} (ends : EndsNumeral rest) :
    readUnsigned? negative
        (natOctets whole ++ (pointOctets fraction ++ (scaleOctets exponent ++ rest))) =
      some (⟨negative, whole, fraction, exponent⟩, rest) := by
  obtain ⟨noDigit, noPoint⟩ := scaleOctets_head exponent ends
  rw [readUnsigned?, readWhole?_natOctets whole (pointOctets_head fraction noDigit)]
  simp only [Option.bind_eq_bind, Option.bind_some]
  rw [readFraction?_point fraction noDigit noPoint]
  simp only [Option.bind_some, readExponent?_scale exponent ends]
  rfl

theorem readNumeral?_of_digit {first : UInt8} (digit : isDigit first = true) (rest : Octets) :
    readNumeral? (first :: rest) = readUnsigned? false (first :: rest) := by
  rw [readNumeral?.eq_def]
  split
  · rename_i same
    cases (List.cons.inj same).1 ▸ digit
  · rfl

/-- A printed numeral starts with a sign or a digit. -/
theorem readNumeral?_print (numeral : Numeral) {rest : Octets} (ends : EndsNumeral rest) :
    ∃ first more, numeral.print ++ rest = first :: more ∧ (first = 45 ∨ isDigit first = true) ∧
      readNumeral? (first :: more) = some (numeral, rest) := by
  obtain ⟨negative, whole, fraction, exponent⟩ := numeral
  have unsigned := readUnsigned?_print negative whole fraction exponent ends
  rw [print_eq]
  simp only [List.append_assoc]
  cases negative with
  | true => exact ⟨45, _, rfl, .inl rfl, unsigned⟩
  | false =>
      obtain ⟨first, more, same, -⟩ := natOctets_eq_cons whole
      have digit : isDigit first = true := isDigit_of_mem_natOctets whole first (by simp [same])
      rw [same] at unsigned ⊢
      exact ⟨first, _, rfl, .inr digit, (readNumeral?_of_digit digit _).trans unsigned⟩

end Token

end Json

end Carpool
