import Carpool.Text.Blank
import Mathlib.Data.List.DropRight

/-!
# Texts without blank ends

Cutting off the blank ends leaves a text without any, the blanks that are cut
off are all that is lost, and there is nothing to cut off twice.
-/

namespace Carpool

namespace Text

/-- Neither the first nor the last character is blank. -/
structure Bare (characters : List Char) : Prop where
  first : ∀ character ∈ characters.head?, isBlank character = false
  last : ∀ character ∈ characters.getLast?, isBlank character = false

variable {blanks characters : List Char}

theorem trimBlank_eq (characters : List Char) :
    trimBlank characters = (characters.dropWhile isBlank).rdropWhile isBlank := rfl

theorem trimBlank_append_left (blank : ∀ character ∈ blanks, isBlank character = true)
    (characters : List Char) : trimBlank (blanks ++ characters) = trimBlank characters := by
  rw [trimBlank_eq, trimBlank_eq, List.dropWhile_append_of_pos blank]

theorem trimBlank_append_right (blank : ∀ character ∈ blanks, isBlank character = true)
    (characters : List Char) : trimBlank (characters ++ blanks) = trimBlank characters := by
  have gone : blanks.dropWhile isBlank = [] := List.dropWhile_eq_nil_iff.mpr blank
  have ended (rest : List Char) :
      (rest ++ blanks).rdropWhile isBlank = rest.rdropWhile isBlank := by
    rw [List.rdropWhile, List.rdropWhile, List.reverse_append, List.dropWhile_append_of_pos]
    exact fun character member => blank character (List.mem_reverse.mp member)
  rw [trimBlank_eq, trimBlank_eq, List.dropWhile_append]
  split
  · rename_i empty
    rw [gone, List.isEmpty_iff.mp empty]
  · exact ended _

theorem Bare.trimBlank_eq (bare : Bare characters) : trimBlank characters = characters := by
  have unblank (lists : List Char)
      (first : ∀ character ∈ lists.head?, isBlank character = false) :
      lists.dropWhile isBlank = lists := by
    cases lists with
    | nil => rfl
    | cons character rest =>
        rw [List.dropWhile_cons_of_neg (by simp [first character rfl])]
  rw [Text.trimBlank_eq, unblank characters bare.first, List.rdropWhile, unblank,
    List.reverse_reverse]
  rw [List.head?_reverse]
  exact bare.last

theorem bare_trimBlank (characters : List Char) : Bare (trimBlank characters) where
  first character head := by
    obtain ⟨rest, whole⟩ := List.rdropWhile_prefix isBlank (l := characters.dropWhile isBlank)
    rw [trimBlank_eq] at head
    have first : (characters.dropWhile isBlank).head? = some character := by
      rw [← whole, List.head?_append, head]
      rfl
    have unblank := List.head?_dropWhile_not isBlank characters
    rw [first] at unblank
    exact unblank
  last character last := by
    rw [trimBlank_eq] at last
    obtain ⟨nonempty, same⟩ := List.mem_getLast?_eq_getLast last
    rw [same]
    simpa using List.rdropWhile_last_not isBlank (characters.dropWhile isBlank) nonempty

/-- Only blanks are cut off. -/
theorem exists_trimBlank (characters : List Char) :
    ∃ before after, (∀ character ∈ before, isBlank character = true) ∧
      (∀ character ∈ after, isBlank character = true) ∧
      characters = before ++ (trimBlank characters ++ after) := by
  refine ⟨characters.takeWhile isBlank, (characters.dropWhile isBlank).rtakeWhile isBlank,
    fun character => List.mem_takeWhile_imp, fun character => List.mem_rtakeWhile_imp, ?_⟩
  rw [trimBlank_eq, List.rdropWhile_append_rtakeWhile, List.takeWhile_append_dropWhile]

theorem trim_trim (text : String) : trim (trim text) = trim text := by
  rw [trim, trim, String.toList_ofList, (bare_trimBlank text.toList).trimBlank_eq]

end Text

end Carpool
