import Carpool.Proofs.Base64url
import Carpool.Session.Token
import Mathlib.Data.List.Basic
import Mathlib.Data.List.TakeWhile

/-!
# The parts of a token

A token is split at its last two dots.  Its parts are written in symbols among
which there is no dot.
-/

namespace Carpool

namespace Session

/-! ## Splitting at dots -/

theorem ne_dot_of_free {octets : Octets} (free : dot ∉ octets) :
    ∀ octet ∈ octets, (octet != dot) = true := by
  intro octet member
  rw [bne_iff_ne]
  rintro rfl
  exact free member

theorem takeWhile_append_dot {before : Octets} (free : dot ∉ before) (after : Octets) :
    (before ++ dot :: after).takeWhile (· != dot) = before := by
  rw [List.takeWhile_append_of_pos (ne_dot_of_free free), List.takeWhile_cons_of_neg (by simp),
    List.append_nil]

theorem dropWhile_append_dot {before : Octets} (free : dot ∉ before) (after : Octets) :
    (before ++ dot :: after).dropWhile (· != dot) = dot :: after := by
  rw [List.dropWhile_append_of_pos (ne_dot_of_free free), List.dropWhile_cons_of_neg (by simp)]

theorem splitLast?_append {before after : Octets} (free : dot ∉ after) :
    splitLast? (before ++ dot :: after) = some (before, after) := by
  have reversed : (before ++ dot :: after).reverse = after.reverse ++ dot :: before.reverse := by
    simp
  have free : dot ∉ after.reverse := by simpa using free
  rw [splitLast?, reversed, takeWhile_append_dot free, dropWhile_append_dot free]
  simp only [List.reverse_reverse]

theorem splitLast?_eq_some {octets before after : Octets} :
    splitLast? octets = some (before, after) ↔ octets = before ++ dot :: after ∧ dot ∉ after := by
  refine ⟨fun split => ?_, fun ⟨joined, free⟩ => joined ▸ splitLast?_append free⟩
  have whole := List.takeWhile_append_dropWhile (p := (· != dot)) (l := octets.reverse)
  rw [splitLast?] at split
  cases rest : octets.reverse.dropWhile (· != dot) with
  | nil =>
      rw [rest] at split
      cases split
  | cons first more =>
      rw [rest] at split
      obtain ⟨rfl, rfl⟩ := Prod.mk.inj (Option.some.inj split)
      have fails := List.head_dropWhile_not (p := (· != dot)) (l := octets.reverse) (by simp [rest])
      obtain rfl : first = dot := by simpa [rest] using fails
      constructor
      · have back := congrArg List.reverse whole
        rw [rest] at back
        simpa using back.symm
      · intro member
        have passes := List.mem_takeWhile_imp (List.mem_reverse.mp member)
        simp at passes

/-- Two splits at the last dot are the same split. -/
theorem last_dot_inj {before after other rest : Octets} (free : dot ∉ after)
    (freeToo : dot ∉ rest) (same : before ++ dot :: after = other ++ dot :: rest) :
    before = other ∧ after = rest := by
  have split : splitLast? (before ++ dot :: after) = some (before, after) := splitLast?_append free
  rw [same, splitLast?_append freeToo] at split
  obtain ⟨first, second⟩ := Prod.mk.inj (Option.some.inj split)
  exact ⟨first.symm, second.symm⟩

/-- Two splits at the first dot are the same split. -/
theorem first_dot_inj {before after other rest : Octets} (free : dot ∉ before)
    (freeToo : dot ∉ other) (same : before ++ dot :: after = other ++ dot :: rest) :
    before = other := by
  have taken := takeWhile_append_dot free after
  rw [same, takeWhile_append_dot freeToo] at taken
  exact taken.symm

theorem dot_not_mem_encode (octets : Octets) : dot ∉ Base64url.encode octets :=
  fun member => (Base64url.of_mem_encode member).2 rfl

/-! ## Plain text -/

theorem octet_of_ascii {octet : UInt8} (ascii : octet.toNat < 128) :
    String.utf8EncodeChar (Char.ofNat octet.toNat) = [octet] := by
  have valid : octet.toNat.isValidChar := by
    left
    omega
  have code : (Char.ofNat octet.toNat).val.toNat = octet.toNat := by
    rw [Char.ofNat, dif_pos valid]
    rfl
  rw [String.utf8EncodeChar]
  simp only [code, if_pos (Nat.le_of_lt_succ ascii), UInt8.ofNat_toNat]

theorem ofText_asciiText {octets : Octets} (ascii : ∀ octet ∈ octets, octet.toNat < 128) :
    Octets.ofText (asciiText octets) = octets := by
  rw [Octets.ofText, asciiText, String.toUTF8, String.toByteArray_ofList, List.utf8Encode,
    List.flatMap_map]
  have each : octets.flatMap (fun octet => String.utf8EncodeChar (Char.ofNat octet.toNat)) =
      octets.flatMap fun octet => [octet] :=
    List.flatMap_congr fun octet member => octet_of_ascii (ascii octet member)
  rw [each, List.flatMap_singleton']
  simp

end Session

end Carpool
