import Carpool.Json.Spelling
import Mathlib.Tactic.SplitIfs

/-!
# Printed strings read back

A string is read back as it was spelled, but for controls that were escaped by
their codes.  Its text is the same.
-/

namespace Carpool

namespace Json

/-- A piece as it is read back once it has been printed. -/
def Piece.asRead : Piece → Piece
  | .unit value => .unit value
  | .octet value =>
      if value < 32 ∧ value ≠ 8 ∧ value ≠ 9 ∧ value ≠ 10 ∧ value ≠ 12 ∧ value ≠ 13 then
        .unit (UInt16.ofNat value.toNat)
      else .octet value

namespace Spelling

def asRead (spelling : Spelling) : Spelling :=
  spelling.map Piece.asRead

/-! ## Reading one piece -/

theorem read?_quote (rest : Octets) : read? (34 :: rest) = some ([], rest) := by
  rw [read?.eq_def]
  rfl

theorem read?_plain {octet : UInt8} (noQuote : octet ≠ 34) (noSlash : octet ≠ 92)
    (noControl : ¬octet < 32) (rest : Octets) :
    read? (octet :: rest) =
      (read? rest).map fun (spelling, rest) => (.octet octet :: spelling, rest) := by
  simp only [read?.eq_def (octet :: rest), if_neg noQuote, if_neg noSlash, if_neg noControl]
  cases read? rest <;> rfl

theorem read?_escaped {letter octet : UInt8} (escaped : escaped? letter = some octet)
    (rest : Octets) :
    read? (92 :: letter :: rest) =
      (read? rest).map fun (spelling, rest) => (.octet octet :: spelling, rest) := by
  have noUnit : letter ≠ 117 := by
    rintro rfl
    cases escaped
  have other : (92 : UInt8) ≠ 34 := by decide
  simp only [read?.eq_def (92 :: letter :: rest), if_neg other, if_true, if_neg noUnit, escaped]
  cases read? rest <;> rfl

theorem read?_unit {first second third fourth : UInt8} {unit : UInt16}
    (digits : unit? first second third fourth = some unit) (rest : Octets) :
    read? (92 :: 117 :: first :: second :: third :: fourth :: rest) =
      (read? rest).map fun (spelling, rest) => (.unit unit :: spelling, rest) := by
  have other : (92 : UInt8) ≠ 34 := by decide
  simp only [read?.eq_def (92 :: _ :: _), if_neg other, if_true, digits]
  cases read? rest <;> rfl

theorem hexDigit?_hexSymbol {digit : Nat} (small : digit < 16) :
    hexDigit? (hexSymbol digit) = some digit := by
  have table : ∀ digit : Fin 16, hexDigit? (hexSymbol digit) = some digit.val := by decide
  exact table ⟨digit, small⟩

theorem unit?_hexSymbol {code : Nat} (small : code < 65536) :
    unit? (hexSymbol (code / 4096 % 16)) (hexSymbol (code / 256 % 16))
      (hexSymbol (code / 16 % 16)) (hexSymbol (code % 16)) = some (UInt16.ofNat code) := by
  have sum : code / 4096 % 16 * 4096 + code / 256 % 16 * 256 + code / 16 % 16 * 16 + code % 16 =
      code := by
    omega
  simp only [unit?, hexDigit?_hexSymbol (Nat.mod_lt _ (by decide : 0 < 16)), Option.bind_eq_bind,
    Option.bind_some, sum]
  rfl

/-! ## Spelling by grammar -/

/-- What may stand between the quotes of a string, and what it spells. -/
inductive SpeltBy : Spelling → Octets → Prop
  | nil : SpeltBy [] []
  | plain {octet : UInt8} {spelling : Spelling} {inside : Octets} : octet ≠ 34 → octet ≠ 92 →
      32 ≤ octet → SpeltBy spelling inside → SpeltBy (.octet octet :: spelling) (octet :: inside)
  | escaped {letter octet : UInt8} {spelling : Spelling} {inside : Octets} :
      escaped? letter = some octet → SpeltBy spelling inside →
      SpeltBy (.octet octet :: spelling) (92 :: letter :: inside)
  | unit {first second third fourth : UInt8} {unit : UInt16} {spelling : Spelling}
      {inside : Octets} : unit? first second third fourth = some unit →
      SpeltBy spelling inside →
      SpeltBy (.unit unit :: spelling) (92 :: 117 :: first :: second :: third :: fourth :: inside)

namespace SpeltBy

variable {spelling : Spelling} {inside : Octets}

/-- A string is read up to its closing quote. -/
theorem read? (spelt : spelling.SpeltBy inside) (rest : Octets) :
    Spelling.read? (inside ++ 34 :: rest) = some (spelling, rest) := by
  induction spelt with
  | nil => exact read?_quote rest
  | plain noQuote noSlash printable _ ih =>
      have noControl := UInt8.not_lt.mpr printable
      rw [List.cons_append, read?_plain noQuote noSlash noControl, ih]
      rfl
  | escaped letter _ ih =>
      rw [List.cons_append, List.cons_append, read?_escaped letter, ih]
      rfl
  | unit digits _ ih =>
      simp only [List.cons_append]
      rw [read?_unit digits, ih]
      rfl

theorem printPiece (piece : Piece) (spelt : spelling.SpeltBy inside) :
    SpeltBy (piece.asRead :: spelling) (Spelling.printPiece piece ++ inside) := by
  cases piece with
  | unit value =>
      have escape := unit?_hexSymbol value.toNat_lt
      rw [UInt16.ofNat_toNat] at escape
      exact .unit escape spelt
  | octet value =>
      by_cases lettered : value ∈ [34, 92, 8, 9, 10, 12, 13]
      · simp only [List.mem_cons, List.not_mem_nil, or_false] at lettered
        rcases lettered with rfl | rfl | rfl | rfl | rfl | rfl | rfl <;> exact .escaped rfl spelt
      · simp only [List.mem_cons, List.not_mem_nil, or_false, not_or] at lettered
        by_cases control : value < 32
        · have code : value.toNat < 65536 := Nat.lt_trans value.toNat_lt (by decide)
          simpa [Spelling.printPiece, unitEscape, Piece.asRead, lettered, control] using
            SpeltBy.unit (unit?_hexSymbol code) spelt
        · simpa [Spelling.printPiece, Piece.asRead, lettered, control] using
            SpeltBy.plain lettered.1 lettered.2.1 (UInt8.not_lt.mp control) spelt

/-- Printed pieces spell what is read back. -/
theorem printed (spelling : Spelling) :
    SpeltBy spelling.asRead (spelling.flatMap Spelling.printPiece) := by
  induction spelling with
  | nil => exact .nil
  | cons piece pieces ih =>
      rw [List.flatMap_cons]
      exact ih.printPiece piece

end SpeltBy

/-! ## The text of what is read back -/

theorem asRead_octet (value : UInt8) :
    (Piece.octet value).asRead = .octet value ∨
      value < 32 ∧ (Piece.octet value).asRead = .unit (UInt16.ofNat value.toNat) := by
  rw [Piece.asRead]
  split
  · exact .inr ⟨(‹_ ∧ _›).1, rfl⟩
  · exact .inl rfl

theorem octets?_unit {unit : UInt16} (rest : Spelling) (noHigh : isHighHalf unit = false) :
    octets? (.unit unit :: rest) =
      if isLowHalf unit then none
      else (octets? rest).map (String.utf8EncodeChar (Char.ofNat unit.toNat) ++ ·) := by
  simp only [octets?.eq_def (.unit unit :: rest), noHigh, Bool.false_eq_true, if_false]

theorem unit_of_control {value : UInt8} (control : value < 32) :
    isHighHalf (UInt16.ofNat value.toNat) = false ∧
      isLowHalf (UInt16.ofNat value.toNat) = false ∧
        String.utf8EncodeChar (Char.ofNat (UInt16.ofNat value.toNat).toNat) = [value] := by
  have table : ∀ code : Fin 32,
      isHighHalf (UInt16.ofNat code) = false ∧ isLowHalf (UInt16.ofNat code) = false ∧
        String.utf8EncodeChar (Char.ofNat (UInt16.ofNat code).toNat) = [UInt8.ofNat code] := by
    decide
  have entry := table ⟨value.toNat, UInt8.lt_iff_toNat_lt.mp control⟩
  rwa [UInt8.ofNat_toNat] at entry

/-- A control stands for itself, also when it is spelled by its code. -/
theorem octets?_control {value : UInt8} (control : value < 32) (rest : Spelling) :
    octets? (.unit (UInt16.ofNat value.toNat) :: rest) = (octets? rest).map (value :: ·) := by
  obtain ⟨noHigh, noLow, encoded⟩ := unit_of_control control
  rw [octets?_unit rest noHigh, noLow, encoded]
  rfl

theorem octets?_asRead (spelling : Spelling) : spelling.asRead.octets? = spelling.octets? := by
  fun_induction octets? spelling with
  | case1 => rfl
  | case2 value rest ih =>
      rcases asRead_octet value with same | ⟨control, unit⟩
      · rw [asRead, List.map_cons, same, octets?, ← ih, asRead]
      · rw [asRead, List.map_cons, unit, octets?_control control, ← ih, asRead]
  | case3 high isHigh low rest isLow ih =>
      change octets? (.unit high :: .unit low :: asRead rest) = _
      simp only [octets?.eq_def (.unit high :: _), isHigh, isLow, if_true, ih]
  | case4 high isHigh low rest noLow =>
      change octets? (.unit high :: .unit low :: asRead rest) = _
      simp only [octets?.eq_def (.unit high :: _), isHigh, noLow, if_true]
      rfl
  | case5 high rest isHigh alone =>
      change octets? (.unit high :: asRead rest) = _
      simp only [octets?.eq_def (.unit high :: _), isHigh, if_true]
      cases rest with
      | nil => rfl
      | cons piece more =>
          cases piece with
          | unit low => exact (alone low more rfl).elim
          | octet value =>
              rw [asRead, List.map_cons]
              rcases asRead_octet value with same | ⟨control, unit⟩
              · rw [same]
              · simp only [unit, (unit_of_control control).2.1, Bool.false_eq_true, if_false]
  | case6 high rest noHigh isLow =>
      change octets? (.unit high :: asRead rest) = _
      rw [octets?_unit _ (by simpa using noHigh), if_pos isLow]
  | case7 high rest noHigh noLow ih =>
      change octets? (.unit high :: asRead rest) = _
      rw [octets?_unit _ (by simpa using noHigh), if_neg noLow, ih]

theorem text?_asRead (spelling : Spelling) : spelling.asRead.text? = spelling.text? := by
  rw [text?, text?, octets?_asRead]

theorem octets?_octets (octets : Octets) : octets? (octets.map .octet) = some octets := by
  induction octets with
  | nil => rfl
  | cons first rest ih => rw [List.map_cons, octets?, ih, Option.map_some]

theorem text?_ofText (text : String) : (ofText text).text? = some text := by
  rw [text?, ofText, octets?_octets, Option.bind_some, Octets.text?, Octets.ofText,
    Array.toArray_toList, String.fromUTF8?]
  exact dif_pos text.isValidUTF8

end Spelling

end Json

end Carpool
