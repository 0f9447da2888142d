import Carpool.Json.Ending
import Carpool.Proofs.Json.Forms
import Carpool.Proofs.Json.Spelling

/-!
# Texts that are read past

A string is read without a fault exactly when it has a text.
-/

namespace Carpool

namespace Json

namespace Ending

theorem ofPieces_of_octets? {spelling : Spelling} {octets : Octets}
    (spelled : spelling.octets? = some octets) : ofPieces spelling = .sound := by
  fun_induction Spelling.octets? spelling generalizing octets with
  | case1 => rfl
  | case2 value rest ih =>
      obtain ⟨more, spelledRest, -⟩ := Option.map_eq_some_iff.mp spelled
      exact ih spelledRest
  | case3 high isHigh low rest isLow ih =>
      obtain ⟨more, spelledRest, -⟩ := Option.map_eq_some_iff.mp spelled
      simp only [ofPieces, if_pos isHigh, if_pos isLow]
      exact ih spelledRest
  | case7 high rest isNotHigh isNotLow ih =>
      obtain ⟨more, spelledRest, -⟩ := Option.map_eq_some_iff.mp spelled
      simp only [ofPieces.eq_def (_ :: rest), if_neg isNotHigh, if_neg isNotLow]
      exact ih spelledRest
  | _ => contradiction

theorem ofSpelling_eq_sound {spelling : Spelling} :
    ofSpelling spelling = .sound ↔ spelling.text?.isSome := by
  rw [ofSpelling]
  constructor
  · intro sound
    split at sound
    · split at sound
      · assumption
      · contradiction
    · contradiction
  · intro spelled
    obtain ⟨text, read⟩ := Option.isSome_iff_exists.mp spelled
    obtain ⟨octets, given, -⟩ := Option.bind_eq_some_iff.mp read
    rw [ofPieces_of_octets? given]
    exact if_pos spelled

theorem ofParts_eq_sound {parts : List Ending} :
    ofParts parts = .sound ↔ ∀ part ∈ parts, part = .sound := by
  fun_induction ofParts parts with
  | case1 => simp
  | case2 rest ih => simpa using ih
  | case3 last other => simp
  | case4 first second rest faulty =>
      refine ⟨fun sound => by contradiction, fun sound => ?_⟩
      exact (faulty (sound first List.mem_cons_self)).elim

theorem ofDocument_of_isText {document : Document} (isText : document.IsText) (depth : Nat) :
    ofDocument depth document = .sound := by
  obtain ⟨text, spelling, rfl, read⟩ := isText
  rw [ofDocument]
  exact ofSpelling_eq_sound.mpr (by simp [read])

theorem ofDocument_list_eq_sound {items : List Document} {depth : Nat} :
    ofDocument (depth + 1) (.list items true) = .sound ↔
      ∀ item ∈ items, ofDocument depth item = .sound := by
  rw [ofDocument, ofParts_eq_sound, List.forall_mem_map]

end Ending

end Json

end Carpool
