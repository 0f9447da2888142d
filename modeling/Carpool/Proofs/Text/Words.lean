import Carpool.Text.Blank
import Mathlib.Data.List.Basic
import Mathlib.Data.List.TakeWhile

/-!
# The words of a text

A text has no words if it is blank.  Otherwise it is its first word with blanks
before it, and what follows the word, which starts with a blank or is empty, has
the other words.
-/

namespace Carpool

namespace Text

def AreBlank (characters : List Char) : Prop :=
  ∀ character ∈ characters, isBlank character = true

structure IsWord (characters : List Char) : Prop where
  nonempty : characters ≠ []
  solid : ∀ character ∈ characters, isBlank character = false

variable {blanks word rest : List Char} {later : List (List Char)}

/-! ## Cutting at blanks -/

theorem cutAtBlanks_ne_nil (characters : List Char) : cutAtBlanks characters ≠ [] := by
  cases characters with
  | nil => simp [cutAtBlanks]
  | cons character rest =>
      rw [cutAtBlanks]
      split
      · simp
      · split <;> simp

theorem cutAtBlanks_blank {character : Char} (blank : isBlank character = true)
    (rest : List Char) : cutAtBlanks (character :: rest) = [] :: cutAtBlanks rest := by
  rw [cutAtBlanks]
  split
  · exact absurd ‹_› (cutAtBlanks_ne_nil rest)
  · rename_i piece pieces cut
    rw [if_pos blank, cut]

theorem cutAtBlanks_solid {character : Char} (solid : isBlank character = false)
    {rest piece : List Char} {pieces : List (List Char)}
    (cut : cutAtBlanks rest = piece :: pieces) :
    cutAtBlanks (character :: rest) = (character :: piece) :: pieces := by
  rw [cutAtBlanks, cut]
  simp [solid]

/-- Characters that are not blank are part of the first piece. -/
theorem cutAtBlanks_append (solid : ∀ character ∈ word, isBlank character = false)
    {piece : List Char} {pieces : List (List Char)} (cut : cutAtBlanks rest = piece :: pieces) :
    cutAtBlanks (word ++ rest) = (word ++ piece) :: pieces := by
  induction word with
  | nil => exact cut
  | cons character word ih =>
      obtain ⟨first, others⟩ := List.forall_mem_cons.mp solid
      exact cutAtBlanks_solid first (ih others)

/-! ## Words -/

theorem words_blank {character : Char} (blank : isBlank character = true) (rest : List Char) :
    words (character :: rest) = words rest := by
  rw [words, cutAtBlanks_blank blank]
  rfl

theorem words_blanks (blank : AreBlank blanks) (rest : List Char) :
    words (blanks ++ rest) = words rest := by
  induction blanks with
  | nil => rfl
  | cons character blanks ih =>
      obtain ⟨first, others⟩ := List.forall_mem_cons.mp blank
      exact (words_blank first _).trans (ih others)

theorem words_word (isWord : IsWord word) (ends : ∀ next ∈ rest.head?, isBlank next = true) :
    words (word ++ rest) = word :: words rest := by
  have kept (pieces : List (List Char)) :
      (word :: pieces).filter (fun piece => !piece.isEmpty) =
        word :: pieces.filter fun piece => !piece.isEmpty :=
    List.filter_cons_of_pos (by simp [isWord.nonempty])
  cases rest with
  | nil =>
      have cut : cutAtBlanks (word ++ []) = [word ++ []] :=
        cutAtBlanks_append isWord.solid rfl
      rw [words, cut, List.append_nil, kept]
      rfl
  | cons next rest =>
      have blank : isBlank next = true := ends next rfl
      have cut := cutAtBlanks_append isWord.solid (cutAtBlanks_blank blank rest)
      rw [words, cut, List.append_nil, kept, words_blank blank, words]

/-- Between blanks at its start and what follows, every text that is not blank has
a word. -/
theorem exists_first_word (characters : List Char) :
    AreBlank characters ∨ ∃ blanks word rest, characters = blanks ++ (word ++ rest) ∧
      AreBlank blanks ∧ IsWord word ∧ ∀ next ∈ rest.head?, isBlank next = true := by
  induction characters with
  | nil => exact .inl (List.forall_mem_nil _)
  | cons character characters ih =>
      cases blank : isBlank character with
      | true =>
          obtain all | ⟨blanks, word, rest, rfl, allBlank, isWord, ends⟩ := ih
          · exact .inl (List.forall_mem_cons.mpr ⟨blank, all⟩)
          · exact .inr ⟨character :: blanks, word, rest, rfl,
              List.forall_mem_cons.mpr ⟨blank, allBlank⟩, isWord, ends⟩
      | false =>
          -- the word goes on where the blanks of the rest are none
          refine .inr ⟨[], character :: characters.takeWhile (!isBlank ·),
            characters.dropWhile (!isBlank ·), ?_, List.forall_mem_nil _, ⟨by simp, ?_⟩, ?_⟩
          · rw [List.nil_append, List.cons_append, List.takeWhile_append_dropWhile]
          · refine List.forall_mem_cons.mpr ⟨blank, fun other member => ?_⟩
            simpa using List.mem_takeWhile_imp member
          · intro next isNext
            have first := List.head?_dropWhile_not (!isBlank ·) characters
            rw [Option.mem_def.mp isNext] at first
            simpa using first

theorem words_eq_nil {characters : List Char} : words characters = [] ↔ AreBlank characters := by
  obtain blank | ⟨blanks, word, rest, rfl, blank, isWord, ends⟩ := exists_first_word characters
  · refine iff_of_true ?_ blank
    simpa [words, cutAtBlanks] using words_blanks blank []
  · rw [words_blanks blank, words_word isWord ends]
    refine iff_of_false (by simp) fun allBlank => ?_
    obtain ⟨character, member⟩ := List.exists_mem_of_ne_nil word isWord.nonempty
    have blank := allBlank character (by simp [member])
    rw [isWord.solid character member] at blank
    cases blank

theorem words_eq_cons {characters : List Char} :
    words characters = word :: later ↔
      ∃ blanks rest, characters = blanks ++ (word ++ rest) ∧ AreBlank blanks ∧ IsWord word ∧
        (∀ next ∈ rest.head?, isBlank next = true) ∧ words rest = later := by
  constructor
  · intro cut
    obtain blank | ⟨blanks, first, rest, rfl, blank, isWord, ends⟩ := exists_first_word characters
    · rw [words_eq_nil.mpr blank] at cut
      cases cut
    · rw [words_blanks blank, words_word isWord ends] at cut
      obtain ⟨rfl, rfl⟩ := List.cons.inj cut
      exact ⟨blanks, rest, rfl, blank, isWord, ends, rfl⟩
  · rintro ⟨blanks, rest, rfl, blank, isWord, ends, rfl⟩
    rw [words_blanks blank, words_word isWord ends]

theorem words_eq_pair {characters first second : List Char} :
    words characters = [first, second] ↔
      ∃ before between after, characters = before ++ (first ++ (between ++ (second ++ after))) ∧
        AreBlank before ∧ IsWord first ∧ AreBlank between ∧ between ≠ [] ∧ IsWord second ∧
        AreBlank after := by
  rw [words_eq_cons]
  constructor
  · rintro ⟨before, rest, rfl, blank, isFirst, ends, cut⟩
    obtain ⟨between, after, rfl, blankBetween, isSecond, -, none⟩ := words_eq_cons.mp cut
    refine ⟨before, between, after, rfl, blank, isFirst, blankBetween, ?_, isSecond,
      words_eq_nil.mp none⟩
    rintro rfl
    -- without a blank between them the two words would be one
    obtain ⟨character, word, rfl⟩ := List.exists_cons_of_ne_nil isSecond.nonempty
    have blank := ends character rfl
    rw [isSecond.solid character List.mem_cons_self] at blank
    cases blank
  · rintro ⟨before, between, after, rfl, blank, isFirst, blankBetween, parted, isSecond, blankAfter⟩
    refine ⟨before, _, rfl, blank, isFirst, ?_, ?_⟩
    · obtain ⟨character, rest, rfl⟩ := List.exists_cons_of_ne_nil parted
      intro next isNext
      obtain rfl := Option.some.inj isNext
      exact blankBetween character List.mem_cons_self
    · refine words_eq_cons.mpr ⟨between, after, rfl, blankBetween, isSecond, ?_,
        words_eq_nil.mpr blankAfter⟩
      exact fun next isNext => blankAfter next (List.mem_of_mem_head? isNext)

end Text

end Carpool
