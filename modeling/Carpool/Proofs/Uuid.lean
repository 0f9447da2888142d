import Carpool.Uuid
import Mathlib.Logic.Function.Basic

/-!
# Written identifiers

An identifier is read back from its written form, so two identifiers with the
same written form are equal.
-/

namespace Carpool

namespace Uuid

theorem digit?_digitChar (digit : Fin 16) : digit? (digitChar digit) = some digit := by
  revert digit
  decide

theorem mapM_digit? (digits : List (Fin 16)) :
    (digits.map digitChar).mapM digit? = some digits := by
  induction digits with
  | nil => rfl
  | cons digit digits ih =>
      rw [List.map_cons, List.mapM_cons, digit?_digitChar, ih]
      rfl

theorem ofDigits?_digits (uuid : Uuid) :
    ofDigits? (uuid.digits.map digitChar) = some uuid := by
  simp only [ofDigits?, mapM_digit?, uuid.length_digits, dite_true]

private theorem exists_group (least : Nat) {digits : List Char} (enough : least ≤ digits.length) :
    ∃ group rest, digits = group ++ rest ∧ group.length = least :=
  ⟨digits.take least, digits.drop least, (List.take_append_drop least digits).symm,
    List.length_take_of_le enough⟩

/-- Cutting the groups out of the hyphenated notation gives back the digits. -/
theorem ofHyphenated?_hyphenate {digits : List Char} (size : digits.length = 32) :
    ofHyphenated? (hyphenate digits) = ofDigits? digits := by
  obtain ⟨first, rest, rfl, firstSize⟩ := exists_group 8 (by omega : 8 ≤ digits.length)
  rw [List.length_append] at size
  obtain ⟨second, rest, rfl, secondSize⟩ := exists_group 4 (by omega : 4 ≤ rest.length)
  rw [List.length_append] at size
  obtain ⟨third, rest, rfl, thirdSize⟩ := exists_group 4 (by omega : 4 ≤ rest.length)
  rw [List.length_append] at size
  obtain ⟨fourth, fifth, rfl, fourthSize⟩ := exists_group 4 (by omega : 4 ≤ rest.length)
  simp (disch := omega) [ofHyphenated?, hyphenate, List.drop_append, List.drop_eq_nil_of_le,
    firstSize, secondSize, thirdSize, fourthSize]

theorem length_chars (uuid : Uuid) : uuid.chars.length = 36 := by
  simp [chars, hyphenate, uuid.length_digits]

theorem ofText?_text (uuid : Uuid) : ofText? uuid.text = some uuid := by
  rw [ofText?, text, String.toList_ofList, ofChars?, if_neg (by simp [length_chars]),
    if_pos (length_chars uuid)]
  rw [chars, ofHyphenated?_hyphenate (by simp [uuid.length_digits]), ofDigits?_digits]

theorem text_injective : Function.Injective text := by
  intro first second same
  have read := ofText?_text first
  rw [same, ofText?_text second] at read
  exact (Option.some.inj read).symm

@[simp]
theorem text_inj {first second : Uuid} : first.text = second.text ↔ first = second :=
  text_injective.eq_iff

end Uuid
end Carpool
