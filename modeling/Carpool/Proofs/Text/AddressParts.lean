import Carpool.Proofs.Text.Lowercase

/-!
# Lower-casing the parts of an address

An `@` sign has no part in lower-casing: the texts before and after it are
lower-cased as if each stood alone, and it comes from nothing but itself.  The
case that ASCII letters have in a text is lost on what reads the text without
its blank ends and in lower case.
-/

namespace Carpool

namespace Text

variable {before rest characters : List Char} {character : Char}

/-! ## Both sides of an `@` sign -/

def atSignRanges : List (Nat × Nat) :=
  [(0x40, 0x40)]

theorem caseless_atSign : Caseless atSignRanges :=
  .of_apart (by decide +kernel)

theorem inRanges_atSign : inRanges atSignRanges character.toNat = true ↔ character = '@' := by
  rw [← Char.toNat_inj]
  simp only [inRanges, atSignRanges, List.any_cons, List.any_nil, Bool.or_false,
    Bool.and_eq_true, decide_eq_true_eq]
  change _ ↔ character.toNat = 64
  omega

theorem lowerForm_atSign : lowerForm before '@' rest = ['@'] := by
  have settled := caseless_atSign.settled (inRanges_atSign.mpr rfl)
  rw [lowerForm, if_neg settled.ordinary, settled.same]

theorem eq_atSign_of_mem_lowerForm (member : '@' ∈ lowerForm before character rest) :
    character = '@' := by
  by_contra other
  have outside : inRanges atSignRanges character.toNat = false := by
    rw [← Bool.not_eq_true, inRanges_atSign]
    exact other
  have kept := caseless_atSign.not_inRanges_lowerForm outside member
  rw [inRanges_atSign.mpr rfl] at kept
  contradiction

/-- A form with an `@` sign is that of an `@` sign, and there is nothing else in
it. -/
theorem of_lowerForm_eq_append {start form : List Char}
    (split : lowerForm before character rest = start ++ '@' :: form) :
    character = '@' ∧ start = [] ∧ form = [] := by
  have member : '@' ∈ lowerForm before character rest := by
    rw [split]
    simp
  obtain rfl := eq_atSign_of_mem_lowerForm member
  rw [lowerForm_atSign] at split
  have length := congrArg List.length split
  simp only [List.length_append, List.length_cons, List.length_nil] at length
  exact ⟨rfl, List.length_eq_zero_iff.mp (by omega), List.length_eq_zero_iff.mp (by omega)⟩

theorem nextIsCased_atSign (rest : List Char) : nextIsCased ('@' :: rest) = false :=
  caseless_atSign.nextIsCased_cons (inRanges_atSign.mpr rfl) rest

theorem lowerChars_atSign (first second : List Char) :
    lowerChars (first ++ '@' :: second) = lowerChars first ++ '@' :: lowerChars second := by
  rw [lowerChars, lowerAfter_append (nextIsCased_atSign second), lowerAfter_cons,
    lowerForm_atSign, lowerAfter_eq_lowerChars (nextIsCased_atSign _), lowerChars]
  rfl

/-- An `@` sign in what has been lower-cased was there before. -/
theorem exists_atSign {start domain : List Char}
    (lowered : lowerAfter before characters = start ++ '@' :: domain) :
    ∃ first second, characters = first ++ '@' :: second ∧ lowerChars second = domain := by
  induction characters generalizing before start with
  | nil => exact absurd lowered (by simp [lowerAfter])
  | cons character rest ih =>
      rw [lowerAfter_cons] at lowered
      -- the sign comes from a later character or from this one
      obtain ⟨start, -, later⟩ | ⟨form, here, later⟩ := List.append_eq_append_iff.mp lowered
      · obtain ⟨first, second, rfl, same⟩ := ih later
        exact ⟨character :: first, second, rfl, same⟩
      · cases form with
        | nil =>
            have later : lowerAfter (character :: before) rest = [] ++ '@' :: domain := later.symm
            obtain ⟨first, second, rfl, same⟩ := ih later
            exact ⟨character :: first, second, rfl, same⟩
        | cons sign form =>
            obtain ⟨rfl, rfl⟩ := List.cons.inj later
            obtain ⟨rfl, rfl, rfl⟩ := of_lowerForm_eq_append here
            exact ⟨[], rest, rfl, (lowerAfter_eq_lowerChars (nextIsCased_atSign before)).symm⟩

theorem atSign_mem_lowerChars : '@' ∈ lowerChars characters ↔ '@' ∈ characters := by
  constructor
  · intro member
    obtain ⟨start, domain, lowered⟩ := List.append_of_mem member
    obtain ⟨first, second, rfl, -⟩ := exists_atSign lowered
    simp
  · intro member
    obtain ⟨first, second, rfl⟩ := List.append_of_mem member
    rw [lowerChars_atSign]
    simp

/-- A text ends in an `@` sign and some domain, in lower case, when that is the
lower-case form of what follows one of its `@` signs. -/
theorem suffix_lowerChars_iff {domain : List Char} :
    '@' :: domain <:+ lowerChars characters ↔
      ∃ first second, characters = first ++ '@' :: second ∧ lowerChars second = domain := by
  constructor
  · rintro ⟨start, lowered⟩
    exact exists_atSign lowered.symm
  · rintro ⟨first, second, rfl, rfl⟩
    exact ⟨lowerChars first, (lowerChars_atSign first second).symm⟩

theorem lowerChars_eq_nil : lowerChars characters = [] ↔ characters = [] := by
  constructor
  · intro empty
    cases characters with
    | nil => rfl
    | cons character rest =>
        rw [lowerChars, lowerAfter_cons, List.append_eq_nil_iff] at empty
        exact absurd empty.1 lowerForm_ne_nil
  · rintro rfl
    rfl

/-! ## The case of ASCII letters -/

/-- The texts are the same up to the case of ASCII letters. -/
def SameLetters (characters others : List Char) : Prop :=
  characters.map Char.toLower = others.map Char.toLower

instance (characters others : List Char) : Decidable (SameLetters characters others) :=
  inferInstanceAs (Decidable (_ = _))

/-- What is the same for both forms of all 26 letters cannot tell the case of a
character. -/
theorem toLower_unseen {Result : Type} (read : Char → Result)
    (same : ∀ letter < 26, read (Char.ofNat (97 + letter)) = read (Char.ofNat (65 + letter)))
    (character : Char) : read character.toLower = read character := by
  by_cases capital : 65 ≤ character.toNat ∧ character.toNat ≤ 90
  · obtain ⟨low, high⟩ := capital
    have form : character = Char.ofNat (65 + (character.toNat - 65)) := by
      rw [Nat.add_sub_cancel' low, Char.ofNat_toNat]
    have lowered : ∀ letter < 26,
        (Char.ofNat (65 + letter)).toLower = Char.ofNat (97 + letter) := by
      decide
    rw [form, lowered _ (by omega), same _ (by omega)]
  · have unchanged : character.toLower = character := dif_neg capital
    rw [unchanged]

theorem isBlank_toLower (character : Char) : isBlank character.toLower = isBlank character :=
  toLower_unseen isBlank (by decide) character

theorem isCased_toLower (character : Char) : isCased character.toLower = isCased character :=
  toLower_unseen isCased (by decide) character

theorem isCaseIgnorable_toLower (character : Char) :
    isCaseIgnorable character.toLower = isCaseIgnorable character :=
  toLower_unseen isCaseIgnorable (by decide +kernel) character

theorem lowerChar_toLower (character : Char) : lowerChar character.toLower = lowerChar character :=
  toLower_unseen lowerChar (by decide +kernel) character

theorem nextIsCased_map_toLower (characters : List Char) :
    nextIsCased (characters.map Char.toLower) = nextIsCased characters := by
  have ignorable : isCaseIgnorable ∘ Char.toLower = isCaseIgnorable :=
    funext isCaseIgnorable_toLower
  rw [nextIsCased, nextIsCased, List.dropWhile_map, ignorable]
  cases characters.dropWhile isCaseIgnorable with
  | nil => rfl
  | cons character rest => exact isCased_toLower character

theorem lowerForm_map_toLower (before rest : List Char) (character : Char) :
    lowerForm (before.map Char.toLower) character.toLower (rest.map Char.toLower) =
      lowerForm before character rest := by
  have sigma := toLower_unseen (fun character => decide (character.toNat = 0x3A3))
    (by decide) character
  rw [lowerForm, lowerForm, nextIsCased_map_toLower, nextIsCased_map_toLower, lowerChar_toLower]
  simp only [decide_eq_decide] at sigma
  simp only [sigma]

theorem lowerAfter_map_toLower (before characters : List Char) :
    lowerAfter (before.map Char.toLower) (characters.map Char.toLower) =
      lowerAfter before characters := by
  induction characters generalizing before with
  | nil => rfl
  | cons character rest ih =>
      rw [List.map_cons, lowerAfter_cons, lowerAfter_cons, lowerForm_map_toLower,
        ← List.map_cons, ih]

theorem dropWhile_map_toLower {passes : Char → Bool}
    (unseen : ∀ character : Char, passes character.toLower = passes character)
    (characters : List Char) :
    (characters.map Char.toLower).dropWhile passes =
      (characters.dropWhile passes).map Char.toLower := by
  have same : passes ∘ Char.toLower = passes := funext unseen
  rw [List.dropWhile_map, same]

theorem trimBlank_map_toLower (characters : List Char) :
    trimBlank (characters.map Char.toLower) = (trimBlank characters).map Char.toLower := by
  rw [trimBlank, trimBlank, dropWhile_map_toLower isBlank_toLower, ← List.map_reverse,
    dropWhile_map_toLower isBlank_toLower, List.map_reverse]

namespace SameLetters

variable {others : List Char}

theorem lowerChars_eq (same : SameLetters characters others) :
    lowerChars characters = lowerChars others :=
  calc lowerChars characters
      = lowerChars (characters.map Char.toLower) := (lowerAfter_map_toLower [] characters).symm
    _ = lowerChars (others.map Char.toLower) := congrArg lowerChars same
    _ = lowerChars others := lowerAfter_map_toLower [] others

theorem trimBlank (same : SameLetters characters others) :
    SameLetters (trimBlank characters) (Text.trimBlank others) := by
  rw [SameLetters, ← trimBlank_map_toLower, same, trimBlank_map_toLower]

theorem dropWhile {passes : Char → Bool}
    (unseen : ∀ character : Char, passes character.toLower = passes character)
    (same : SameLetters characters others) :
    SameLetters (characters.dropWhile passes) (others.dropWhile passes) := by
  rw [SameLetters, ← dropWhile_map_toLower unseen, same, dropWhile_map_toLower unseen]

end SameLetters

end Text

end Carpool
