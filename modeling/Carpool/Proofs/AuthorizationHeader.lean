import Carpool.Gate
import Carpool.Proofs.LiveTokens
import Carpool.Proofs.Text.Words

/-!
# The authorization header

The gate knows a caller by one header value of the word `bearer` and a token, in
visible characters, with spaces and tabs around and between the two.  What comes
of the token is then for its own check to say.  Values that are missing, more
than one, or of another form are told apart before any token is looked at.
-/

namespace Carpool

namespace Gate

open Session (AuthError)

/-! ## The form of a value -/

/-- A space or a tab. -/
def IsSpace (octet : UInt8) : Prop :=
  octet = 32 ∨ octet = 9

/-- An octet of visible ASCII, a space or a tab. -/
def IsShown (octet : UInt8) : Prop :=
  32 < octet.toNat ∧ octet.toNat < 127 ∨ IsSpace octet

/-- The octets of `bearer`, each letter in either case. -/
def SpellsBearer (scheme : Octets) : Prop :=
  List.Forall₂ (fun octet letter => octet = letter ∨ octet + 32 = letter) scheme
    (Octets.ofText "bearer")

/-- The parts of a value that presents a token. -/
structure HasParts (value leading scheme gap : Octets) (token : String) (trailing : Octets) :
    Prop where
  whole : value = leading ++ (scheme ++ (gap ++ (Octets.ofText token ++ trailing)))
  spaceBefore : ∀ octet ∈ leading, IsSpace octet
  bearer : SpellsBearer scheme
  spaceBetween : ∀ octet ∈ gap, IsSpace octet
  parted : gap ≠ []
  solid : ∀ octet ∈ Octets.ofText token, ¬IsSpace octet
  nonempty : token ≠ ""
  spaceAfter : ∀ octet ∈ trailing, IsSpace octet

/-- A value presents a token: it is the word `bearer` and the token, with spaces
and tabs around them and at least one between them. -/
structure Presents (value : Octets) (token : String) : Prop where
  shown : ∀ octet ∈ value, IsShown octet
  parts : ∃ leading scheme gap trailing, HasParts value leading scheme gap token trailing

/-- What the gate makes of the values of the authorization header. -/
structure Identifies (secret : Octets) (now : Instant) (values : List Octets) : Prop where
  admitted : ∀ identity, identify secret now values = .ok identity ↔
    ∃ value token, values = [value] ∧ Presents value token ∧
      Session.validate secret now token = .ok identity
  missing : identify secret now values = .error .missing ↔ values = []
  ambiguous : identify secret now values = .error .ambiguous ↔ 2 ≤ values.length
  malformed : identify secret now values = .error .malformed ↔
    ∃ value, values = [value] ∧ ∀ token, ¬Presents value token
  rejected : ∀ error, identify secret now values = .error (.rejected error) ↔
    ∃ value token, values = [value] ∧ Presents value token ∧
      Session.validate secret now token = .error error
  /-- No value presents two tokens. -/
  oneToken : ∀ value token other, Presents value token → Presents value other → token = other

/-! ## Octets as characters -/

def characterOf (octet : UInt8) : Char :=
  Char.ofNat octet.toNat

variable {value octets : Octets} {token : String}

theorem IsShown.lt {octet : UInt8} (shown : IsShown octet) : octet.toNat < 128 := by
  obtain ⟨-, small⟩ | rfl | rfl := shown
  · omega
  · decide
  · decide

theorem toNat_characterOf (octet : UInt8) : (characterOf octet).toNat = octet.toNat := by
  have valid : octet.toNat.isValidChar := .inl (Nat.lt_trans octet.toNat_lt (by decide))
  rw [characterOf, Char.ofNat, dif_pos valid]
  rfl

theorem isSpace_iff {octet : UInt8} : IsSpace octet ↔ octet.toNat = 32 ∨ octet.toNat = 9 := by
  rw [IsSpace, ← UInt8.toNat_inj, ← UInt8.toNat_inj]
  rfl

theorem isVisible_iff {octet : UInt8} : isVisible octet = true ↔ IsShown octet := by
  rw [IsShown, isSpace_iff]
  simp only [isVisible, Bool.or_eq_true, Bool.and_eq_true, decide_eq_true_eq, beq_iff_eq,
    UInt8.le_iff_toNat_le, ← UInt8.toNat_inj]
  change 32 ≤ octet.toNat ∧ octet.toNat ≤ 126 ∨ octet.toNat = 9 ↔ _
  omega

theorem isBlank_characterOf {octet : UInt8} (shown : IsShown octet) :
    Text.isBlank (characterOf octet) = true ↔ IsSpace octet := by
  have code := toNat_characterOf octet
  rw [IsShown, isSpace_iff] at shown
  rw [isSpace_iff]
  simp only [Text.isBlank, code, Bool.or_eq_true, Bool.and_eq_true, decide_eq_true_eq, beq_iff_eq]
  omega

theorem areBlank_map (shown : ∀ octet ∈ octets, IsShown octet) :
    Text.AreBlank (octets.map characterOf) ↔ ∀ octet ∈ octets, IsSpace octet := by
  rw [Text.AreBlank, List.forall_mem_map]
  exact forall₂_congr fun octet member => isBlank_characterOf (shown octet member)

theorem isWord_map (shown : ∀ octet ∈ octets, IsShown octet) :
    Text.IsWord (octets.map characterOf) ↔ octets ≠ [] ∧ ∀ octet ∈ octets, ¬IsSpace octet := by
  have solid : (∀ character ∈ octets.map characterOf, Text.isBlank character = false) ↔
      ∀ octet ∈ octets, ¬IsSpace octet := by
    rw [List.forall_mem_map]
    refine forall₂_congr fun octet member => ?_
    rw [← isBlank_characterOf (shown octet member), Bool.not_eq_true]
  rw [← solid]
  constructor
  · intro word
    exact ⟨mt List.map_eq_nil_iff.mpr word.nonempty, word.solid⟩
  · rintro ⟨nonempty, solid⟩
    exact ⟨mt List.map_eq_nil_iff.mp nonempty, solid⟩

theorem toNat_toLower (character : Char) :
    character.toLower.toNat =
      if 65 ≤ character.toNat ∧ character.toNat ≤ 90 then character.toNat + 32
      else character.toNat := by
  by_cases capital : 65 ≤ character.toNat ∧ character.toNat ≤ 90
  · have lowered : character.toLower.toNat = (character.val + 32).toNat :=
      congrArg Char.toNat (dif_pos capital)
    rw [if_pos capital, lowered, UInt32.toNat_add]
    change (character.toNat + 32) % 2 ^ 32 = _
    omega
  · have unchanged : character.toLower = character := dif_neg capital
    rw [if_neg capital, unchanged]

/-- Lower-casing brings the two cases of a letter to the letter, and nothing else. -/
theorem toLower_characterOf {letter : Char} (isLower : 97 ≤ letter.toNat ∧ letter.toNat ≤ 122)
    (octet : UInt8) : (characterOf octet).toLower = letter ↔
      octet = Octets.ofAscii letter ∨ octet + 32 = Octets.ofAscii letter := by
  have small := octet.toNat_lt
  rw [← Char.toNat_inj, toNat_toLower, toNat_characterOf, ← UInt8.toNat_inj, ← UInt8.toNat_inj,
    UInt8.toNat_add, Octets.ofAscii, UInt8.toNat_ofNat']
  change _ ↔ _ ∨ (octet.toNat + 32) % 256 = _
  split <;> omega

theorem isBearer_map : isBearer (octets.map characterOf) = true ↔ SpellsBearer octets := by
  have spelt : Octets.ofText "bearer" =
      ['b', 'e', 'a', 'r', 'e', 'r'].map Octets.ofAscii := by
    decide
  rw [isBearer, beq_iff_eq, SpellsBearer, spelt, List.forall₂_map_right_iff, List.map_map,
    ← List.forall₂_eq_eq_eq, List.forall₂_map_left_iff, List.forall₂_iff_zip, List.forall₂_iff_zip]
  refine and_congr_right fun _ => forall₂_congr fun octet letter => ?_
  refine imp_congr_right fun paired => toLower_characterOf ?_ octet
  have lowerCase : ['b', 'e', 'a', 'r', 'e', 'r'].all fun letter =>
      decide (97 ≤ letter.toNat ∧ letter.toNat ≤ 122) := by decide
  exact of_decide_eq_true (List.all_eq_true.mp lowerCase letter (List.of_mem_zip paired).2)

theorem SpellsBearer.isWord (bearer : SpellsBearer octets)
    (shown : ∀ octet ∈ octets, IsShown octet) :
    Text.IsWord (octets.map characterOf) := by
  refine (isWord_map shown).mpr ⟨?_, fun octet member space => ?_⟩
  · rintro rfl
    cases bearer.length_eq
  · have lowered : (octets.map characterOf).map Char.toLower = ['b', 'e', 'a', 'r', 'e', 'r'] :=
      eq_of_beq (isBearer_map.mpr bearer)
    have letter : (characterOf octet).toLower ∈ ['b', 'e', 'a', 'r', 'e', 'r'] :=
      lowered ▸ List.mem_map_of_mem (List.mem_map_of_mem member)
    obtain rfl | rfl := space
    · exact absurd letter (by decide)
    · exact absurd letter (by decide)

/-! ## Reading a value -/

theorem visibleChars?_eq_some {characters : List Char} :
    visibleChars? value = some characters ↔
      (∀ octet ∈ value, IsShown octet) ∧ value.map characterOf = characters := by
  rw [visibleChars?]
  simp only [Option.ite_none_right_eq_some, List.all_eq_true, isVisible_iff, Option.some.injEq]
  rfl

theorem words_eq_pair {first second : List Char} (shown : ∀ octet ∈ value, IsShown octet) :
    Text.words (value.map characterOf) = [first, second] ↔
      ∃ leading scheme gap word trailing,
        value = leading ++ (scheme ++ (gap ++ (word ++ trailing))) ∧
          scheme.map characterOf = first ∧ word.map characterOf = second ∧
          (∀ octet ∈ leading, IsSpace octet) ∧ Text.IsWord first ∧
          (∀ octet ∈ gap, IsSpace octet) ∧ gap ≠ [] ∧ Text.IsWord second ∧
          ∀ octet ∈ trailing, IsSpace octet := by
  rw [Text.words_eq_pair]
  constructor
  · rintro ⟨before, between, after, whole, blankBefore, isFirst, blankBetween, parted, isSecond,
      blankAfter⟩
    obtain ⟨leading, fields, rfl, rfl, cutFields⟩ := List.map_eq_append_iff.mp whole
    obtain ⟨scheme, others, rfl, rfl, cutOthers⟩ := List.map_eq_append_iff.mp cutFields
    obtain ⟨gap, last, rfl, rfl, cutLast⟩ := List.map_eq_append_iff.mp cutOthers
    obtain ⟨word, trailing, rfl, rfl, rfl⟩ := List.map_eq_append_iff.mp cutLast
    simp only [List.forall_mem_append] at shown
    obtain ⟨shownBefore, -, shownBetween, -, shownAfter⟩ := shown
    exact ⟨leading, scheme, gap, word, trailing, rfl, rfl, rfl,
      (areBlank_map shownBefore).mp blankBefore, isFirst,
      (areBlank_map shownBetween).mp blankBetween, mt List.map_eq_nil_iff.mpr parted, isSecond,
      (areBlank_map shownAfter).mp blankAfter⟩
  · rintro ⟨leading, scheme, gap, word, trailing, rfl, rfl, rfl, spaceBefore, isFirst, spaceBetween,
      parted, isSecond, spaceAfter⟩
    simp only [List.forall_mem_append] at shown
    obtain ⟨shownBefore, -, shownBetween, -, shownAfter⟩ := shown
    exact ⟨_, _, _, by simp only [List.map_append], (areBlank_map shownBefore).mpr spaceBefore,
      isFirst, (areBlank_map shownBetween).mpr spaceBetween, mt List.map_eq_nil_iff.mp parted,
      isSecond, (areBlank_map shownAfter).mpr spaceAfter⟩

theorem bearerToken?_eq_some : bearerToken? value = some token ↔ Presents value token := by
  have found : bearerToken? value = some token ↔
      ∃ scheme word, (visibleChars? value).map Text.words = some [scheme, word] ∧
        isBearer scheme = true ∧ String.ofList word = token := by
    rw [bearerToken?]
    split
    · rename_i scheme word cut
      simp [cut]
    · rename_i other
      simp only [reduceCtorEq, false_iff]
      rintro ⟨scheme, word, cut, -⟩
      exact other scheme word cut
  rw [found]
  constructor
  · rintro ⟨first, second, cut, bearer, rfl⟩
    obtain ⟨characters, visible, cut⟩ := Option.map_eq_some_iff.mp cut
    obtain ⟨shown, rfl⟩ := visibleChars?_eq_some.mp visible
    obtain ⟨leading, scheme, gap, word, trailing, rfl, rfl, rfl, spaceBefore, -, spaceBetween,
      parted, isWord, spaceAfter⟩ := (words_eq_pair shown).mp cut
    have shownWord : ∀ octet ∈ word, IsShown octet := by
      simp only [List.forall_mem_append] at shown
      exact shown.2.2.2.1
    obtain ⟨nonempty, solid⟩ := (isWord_map shownWord).mp isWord
    have said : Octets.ofText (String.ofList (word.map characterOf)) = word :=
      Session.ofText_asciiText fun octet member => (shownWord octet member).lt
    refine ⟨shown, leading, scheme, gap, trailing, by rw [said], spaceBefore,
      isBearer_map.mp bearer, spaceBetween, parted, by rwa [said], ?_, spaceAfter⟩
    intro empty
    rw [empty] at said
    exact nonempty said.symm
  · rintro ⟨shown, leading, scheme, gap, trailing, rfl, spaceBefore, bearer, spaceBetween, parted,
      solid, nonempty, spaceAfter⟩
    have shownParts := shown
    simp only [List.forall_mem_append] at shownParts
    obtain ⟨-, shownScheme, -, shownToken, -⟩ := shownParts
    have said : Session.asciiText (Octets.ofText token) = token :=
      Session.ofText_injective
        (Session.ofText_asciiText fun octet member => (shownToken octet member).lt)
    have present : Octets.ofText token ≠ [] := fun empty =>
      nonempty (Session.ofText_injective (empty.trans (by decide)))
    refine ⟨_, _, ?_, isBearer_map.mpr bearer, said⟩
    rw [visibleChars?_eq_some.mpr ⟨shown, rfl⟩, Option.map_some, Option.some.injEq]
    exact (words_eq_pair shown).mpr ⟨leading, scheme, gap, _, trailing, rfl, rfl, rfl, spaceBefore,
      bearer.isWord shownScheme, spaceBetween, parted, (isWord_map shownToken).mpr ⟨present, solid⟩,
      spaceAfter⟩

theorem Presents.unique {other : String} (presents : Presents value token)
    (presentsToo : Presents value other) : token = other := by
  have read := bearerToken?_eq_some.mpr presents
  rw [bearerToken?_eq_some.mpr presentsToo] at read
  exact (Option.some.inj read).symm

theorem bearerToken?_eq_none : bearerToken? value = none ↔ ∀ token, ¬Presents value token := by
  simp only [Option.eq_none_iff_forall_ne_some, Ne, bearerToken?_eq_some]

/-! ## All values -/

variable {secret : Octets} {now : Instant}

/-- What is said of a presented token is said of the one that the value presents. -/
theorem Presents.exists_iff {holds : String → Prop} (presents : Presents value token) :
    (∃ single said, [value] = [single] ∧ Presents single said ∧ holds said) ↔ holds token := by
  constructor
  · rintro ⟨single, said, same, presentsToo, held⟩
    obtain rfl := List.singleton_inj.mp same
    exact presents.unique presentsToo ▸ held
  · exact fun held => ⟨value, token, rfl, presents, held⟩

theorem identifies_presented (presents : Presents value token) : Identifies secret now [value] := by
  have read : identify secret now [value] =
      (Session.validate secret now token).mapError GateError.rejected := by
    rw [identify, bearerToken?_eq_some.mpr presents]
  refine ⟨fun identity => ?_, ?_, ?_, ?_, fun error => ?_, fun _ _ _ => Presents.unique⟩
  · rw [read, presents.exists_iff]
    cases Session.validate secret now token <;> simp [Except.mapError]
  · rw [read]
    cases Session.validate secret now token <;> simp [Except.mapError]
  · rw [read]
    cases Session.validate secret now token <;> simp [Except.mapError]
  · have formed : ¬∃ single, [value] = [single] ∧ ∀ token, ¬Presents single token := by
      rintro ⟨single, same, none⟩
      obtain rfl := List.singleton_inj.mp same
      exact none token presents
    rw [read, iff_false_right formed]
    cases Session.validate secret now token <;> simp [Except.mapError]
  · rw [read, presents.exists_iff]
    cases Session.validate secret now token <;> simp [Except.mapError]

theorem identifies_unpresented (unformed : ∀ token, ¬Presents value token) :
    Identifies secret now [value] := by
  have read : identify secret now [value] = .error .malformed := by
    rw [identify, bearerToken?_eq_none.mpr unformed]
  have nothing {holds : String → Prop} :
      ¬∃ single said, [value] = [single] ∧ Presents single said ∧ holds said := by
    rintro ⟨single, said, same, presents, -⟩
    obtain rfl := List.singleton_inj.mp same
    exact unformed said presents
  refine ⟨fun identity => ?_, ?_, ?_, ?_, fun error => ?_, fun _ _ _ => Presents.unique⟩
  · rw [read, iff_false_right nothing]
    simp
  · simp [read]
  · simp [read]
  · exact iff_of_true read ⟨value, rfl, unformed⟩
  · rw [read, iff_false_right nothing]
    simp

/-- Callers are known by one header value that presents a token which passes its
own check, and whatever else a request brings is refused for what it is. -/
theorem callers_known_by_header (secret : Octets) (now : Instant) (values : List Octets) :
    Identifies secret now values := by
  match values with
  | [] => exact ⟨by simp [identify], by simp [identify], by simp [identify], by simp [identify],
      by simp [identify], fun _ _ _ => Presents.unique⟩
  | [value] =>
      by_cases formed : ∃ token, Presents value token
      · obtain ⟨token, presents⟩ := formed
        exact identifies_presented presents
      · exact identifies_unpresented (not_exists.mp formed)
  | first :: second :: rest =>
      exact ⟨by simp [identify], by simp [identify], by simp [identify], by simp [identify],
        by simp [identify], fun _ _ _ => Presents.unique⟩

/-- Any mix of spaces and tabs may stand around the word and the token. -/
example : bearerToken? (Octets.ofText "\t bEaReR \t abc.def.ghi ") = some "abc.def.ghi" := by
  decide +kernel

end Gate

end Carpool
