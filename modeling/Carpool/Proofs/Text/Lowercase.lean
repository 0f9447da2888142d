import Carpool.Proofs.Text.Blank
import Carpool.User

/-!
# Normal forms of addresses

What has been lower-cased once stays as it is when it is lower-cased again, and
it makes no difference whether the blank ends are cut off before or after.  So
every spelling of an address has the normal form that its own normal form has.
-/

namespace Carpool

namespace Text

/-! ## Ranges of code points -/

/-- No code point lies in a range of both lists. -/
def Apart (ranges others : List (Nat × Nat)) : Prop :=
  ∀ range ∈ ranges, ∀ other ∈ others, range.2 < other.1 ∨ other.2 < range.1

instance (ranges others : List (Nat × Nat)) : Decidable (Apart ranges others) :=
  inferInstanceAs (Decidable (∀ range ∈ ranges, ∀ other ∈ others, _))

theorem inRanges_eq_true {ranges : List (Nat × Nat)} {code : Nat} :
    inRanges ranges code = true ↔ ∃ range ∈ ranges, range.1 ≤ code ∧ code ≤ range.2 := by
  simp [inRanges]

theorem Apart.not_inRanges {ranges others : List (Nat × Nat)} (apart : Apart ranges others)
    {code : Nat} (within : inRanges ranges code = true) : inRanges others code = false := by
  rw [← Bool.not_eq_true, inRanges_eq_true]
  rintro ⟨other, listed, low, high⟩
  obtain ⟨range, member, lower, upper⟩ := inRanges_eq_true.mp within
  have := apart range member other listed
  omega

def blankRanges : List (Nat × Nat) :=
  [(9, 13), (0x20, 0x20), (0x85, 0x85), (0xA0, 0xA0), (0x1680, 0x1680), (0x2000, 0x200A),
    (0x2028, 0x2029), (0x202F, 0x202F), (0x205F, 0x205F), (0x3000, 0x3000)]

theorem isBlank_eq_inRanges (character : Char) :
    isBlank character = inRanges blankRanges character.toNat := by
  rw [Bool.eq_iff_iff]
  simp only [isBlank, inRanges, blankRanges, List.any_cons, List.any_nil, Bool.or_eq_true,
    Bool.and_eq_true, decide_eq_true_eq, beq_iff_eq, Bool.or_false]
  omega

/-! ## The runs of capitals -/

namespace CaseRun

/-- Where a run begins and ends. -/
def source (run : CaseRun) : Nat × Nat :=
  (run.first, run.last)

/-- Where the partners of a run begin and end. -/
def image (run : CaseRun) : Nat × Nat :=
  ((run.first + run.offset).toNat, (run.last + run.offset).toNat)

def partner (run : CaseRun) (code : Nat) : Nat :=
  (code + run.offset).toNat

/-- The partners of a run lie outside the other, or between the members of the
other where it takes every second code point. -/
def misses (run other : CaseRun) : Bool :=
  run.image.2.blt other.first || other.last.blt run.image.1 ||
    other.stride.beq 2 && (run.stride.beq 2 || run.first.beq run.last) &&
      ((run.image.1 + other.first) % 2).beq 1

/-- The partners of a run are characters, and of these none that is special in
lower-casing. -/
def Sound (run : CaseRun) : Prop :=
  0 ≤ run.first + run.offset ∧
    (run.image.2 < 0x130 ∨ 0x130 < run.image.1 ∧ run.image.2 < 0x3A3 ∨
      0x3A3 < run.image.1 ∧ run.image.2 < 0xD800 ∨ 0xE000 ≤ run.image.1 ∧ run.image.2 < 0x110000)

instance (run : CaseRun) : Decidable run.Sound :=
  inferInstanceAs (Decidable (_ ∧ _))

variable {run other : CaseRun} {code : Nat}

theorem covers_eq_true :
    run.covers code = true ↔
      run.first ≤ code ∧ code ≤ run.last ∧ (code - run.first) % run.stride = 0 := by
  simp [covers, and_assoc]

theorem Sound.partner_bounds (sound : run.Sound) (covers : run.covers code = true) :
    run.image.1 ≤ run.partner code ∧ run.partner code ≤ run.image.2 := by
  obtain ⟨low, high, -⟩ := covers_eq_true.mp covers
  obtain ⟨natural, -⟩ := sound
  simp only [image, partner]
  omega

theorem misses_eq_true :
    run.misses other = true ↔
      run.image.2 < other.first ∨ other.last < run.image.1 ∨
        other.stride = 2 ∧ (run.stride = 2 ∨ run.first = run.last) ∧
          (run.image.1 + other.first) % 2 = 1 := by
  simp [misses, or_assoc, and_assoc]

theorem Sound.not_covers (sound : run.Sound) (misses : run.misses other = true)
    (covers : run.covers code = true) : other.covers (run.partner code) = false := by
  rw [← Bool.not_eq_true, covers_eq_true]
  rintro ⟨above, below, even⟩
  have bounds := sound.partner_bounds covers
  obtain ⟨low, high, step⟩ := covers_eq_true.mp covers
  obtain ⟨natural, -⟩ := sound
  obtain before | after | ⟨second, alike, parity⟩ := misses_eq_true.mp misses
  · omega
  · omega
  · rw [second] at even
    simp only [image, partner] at parity even above below
    rcases alike with stride | single
    · rw [stride] at step
      omega
    · omega

theorem Sound.toNat_ofNat (sound : run.Sound) (covers : run.covers code = true) :
    (Char.ofNat (run.partner code)).toNat = run.partner code := by
  have bounds := sound.partner_bounds covers
  have valid : (run.partner code).isValidChar := by
    obtain ⟨-, low | middle | upper | high⟩ := sound
    · exact .inl (by omega)
    · exact .inl (by omega)
    · exact .inl (by omega)
    · exact .inr ⟨by omega, by omega⟩
  rw [Char.ofNat, dif_pos valid]
  rfl

end CaseRun

theorem caseRuns_sound : ∀ run ∈ caseRuns, run.Sound := by
  decide +kernel

theorem caseRuns_miss :
    (caseRuns.all fun run => caseRuns.all fun other => run.misses other) = true := by
  decide +kernel

theorem misses_of_mem {run other : CaseRun} (listed : run ∈ caseRuns)
    (otherListed : other ∈ caseRuns) : run.misses other = true :=
  List.all_eq_true.mp (List.all_eq_true.mp caseRuns_miss run listed) other otherListed

/-- The ranges have no part in lower-casing: they hold nothing that has case or is
passed over, and nothing changes in them or is changed into them. -/
structure Caseless (ranges : List (Nat × Nat)) : Prop where
  runs : Apart ranges (caseRuns.map CaseRun.source ++ caseRuns.map CaseRun.image)
  context : Apart ranges (casedRanges ++ caseIgnorableRanges)

theorem Caseless.of_apart {ranges : List (Nat × Nat)}
    (apart : Apart ranges ((caseRuns.map CaseRun.source ++ caseRuns.map CaseRun.image) ++
      (casedRanges ++ caseIgnorableRanges))) : Caseless ranges where
  runs range member other listed := apart range member other (List.mem_append_left _ listed)
  context range member other listed := apart range member other (List.mem_append_right _ listed)

theorem caseless_blank : Caseless blankRanges :=
  .of_apart (by decide +kernel)

/-! ## Single characters -/

/-- Lower-casing leaves the character as it is, wherever it stands. -/
structure Settled (character : Char) : Prop where
  ordinary : character.toNat ≠ 0x3A3
  same : lowerChar character = [character]

theorem lowerChar_of_uncovered {character : Char} (ordinary : character.toNat ≠ 0x130)
    (uncovered : ∀ run ∈ caseRuns, run.covers character.toNat = false) :
    lowerChar character = [character] := by
  have none : (caseRuns.find? fun run => run.covers character.toNat) = none :=
    List.find?_eq_none.mpr fun run listed => by simp [uncovered run listed]
  rw [lowerChar, if_neg ordinary, none]

/-- How a character can be lower-cased. -/
theorem lowerChar_cases (character : Char) :
    character.toNat = 0x130 ∧ lowerChar character = ['i', '\u0307'] ∨
      (∃ run ∈ caseRuns, run.covers character.toNat = true ∧
        lowerChar character = [Char.ofNat (run.partner character.toNat)]) ∨
      (∀ run ∈ caseRuns, run.covers character.toNat = false) ∧
        lowerChar character = [character] := by
  by_cases dotted : character.toNat = 0x130
  · exact .inl ⟨dotted, if_pos dotted⟩
  · rw [lowerChar, if_neg dotted]
    cases found : caseRuns.find? fun run => run.covers character.toNat with
    | some run =>
        have covers : run.covers character.toNat = true := by simpa using List.find?_some found
        exact .inr (.inl ⟨run, List.mem_of_find?_eq_some found, covers, rfl⟩)
    | none =>
        refine .inr (.inr ⟨fun run listed => ?_, rfl⟩)
        simpa using List.find?_eq_none.mp found run listed

theorem settled_partner {run : CaseRun} (listed : run ∈ caseRuns) {code : Nat}
    (covers : run.covers code = true) : Settled (Char.ofNat (run.partner code)) := by
  have sound := caseRuns_sound run listed
  have bounds := sound.partner_bounds covers
  have same := sound.toNat_ofNat covers
  refine ⟨?_, lowerChar_of_uncovered ?_ fun other otherListed => ?_⟩
  · rw [same]
    obtain ⟨-, cases⟩ := sound
    omega
  · rw [same]
    obtain ⟨-, cases⟩ := sound
    omega
  · rw [same]
    exact sound.not_covers (misses_of_mem listed otherListed) covers

theorem settled_of_mem_lowerChar {character lowered : Char}
    (member : lowered ∈ lowerChar character) : Settled lowered := by
  obtain ⟨dotted, form⟩ | ⟨run, listed, covers, form⟩ | ⟨uncovered, form⟩ :=
    lowerChar_cases character
  · rw [form] at member
    obtain rfl | rfl : lowered = 'i' ∨ lowered = '\u0307' := by simpa using member
    · exact ⟨by decide, by decide +kernel⟩
    · exact ⟨by decide, by decide +kernel⟩
  · rw [form] at member
    obtain rfl := List.mem_singleton.mp member
    exact settled_partner listed covers
  · have same := form
    rw [form] at member
    obtain rfl := List.mem_singleton.mp member
    refine ⟨fun sigma => ?_, same⟩
    -- the capital sigma is in a run
    have covered : ∃ run ∈ caseRuns, run.covers 0x3A3 = true := by decide +kernel
    obtain ⟨run, listed, covers⟩ := covered
    rw [← sigma, uncovered run listed] at covers
    contradiction

namespace Caseless

variable {ranges : List (Nat × Nat)} {character lowered : Char}

theorem isCased (caseless : Caseless ranges)
    (within : inRanges ranges character.toNat = true) :
    Text.isCased character = false ∧ isCaseIgnorable character = false := by
  have outside := caseless.context.not_inRanges within
  rw [inRanges, List.any_append, Bool.or_eq_false_iff] at outside
  exact outside

/-- What has case or is passed over lies outside. -/
theorem not_inRanges (caseless : Caseless ranges) {code : Nat}
    (special : inRanges (casedRanges ++ caseIgnorableRanges) code = true) :
    inRanges ranges code = false := by
  cases within : inRanges ranges code with
  | false => rfl
  | true =>
      rw [caseless.context.not_inRanges within] at special
      contradiction

theorem settled (caseless : Caseless ranges)
    (within : inRanges ranges character.toNat = true) : Settled character := by
  have outside := caseless.runs.not_inRanges within
  rw [← Bool.not_eq_true, inRanges_eq_true] at outside
  have special (code : Nat) (cased : inRanges (casedRanges ++ caseIgnorableRanges) code = true) :
      character.toNat ≠ code := by
    rintro rfl
    rw [caseless.not_inRanges cased] at within
    contradiction
  refine ⟨special _ (by decide), lowerChar_of_uncovered (special _ (by decide)) ?_⟩
  intro run listed
  rw [← Bool.not_eq_true, CaseRun.covers_eq_true]
  rintro ⟨low, high, -⟩
  exact outside ⟨run.source, List.mem_append_left _ (List.mem_map_of_mem listed), low, high⟩

/-- What lies outside does not come in. -/
theorem not_inRanges_lowerChar (caseless : Caseless ranges)
    (outside : inRanges ranges character.toNat = false) (member : lowered ∈ lowerChar character) :
    inRanges ranges lowered.toNat = false := by
  obtain ⟨dotted, form⟩ | ⟨run, listed, covers, form⟩ | ⟨uncovered, form⟩ :=
    lowerChar_cases character
  · rw [form] at member
    obtain rfl | rfl : lowered = 'i' ∨ lowered = '\u0307' := by simpa using member
    · exact caseless.not_inRanges (by decide)
    · exact caseless.not_inRanges (by decide)
  · rw [form] at member
    obtain rfl := List.mem_singleton.mp member
    have sound := caseRuns_sound run listed
    rw [← Bool.not_eq_true, sound.toNat_ofNat covers]
    intro within
    have apart := caseless.runs.not_inRanges within
    rw [← Bool.not_eq_true, inRanges_eq_true] at apart
    refine apart ⟨run.image, ?_, sound.partner_bounds covers⟩
    exact List.mem_append_right _ (List.mem_map_of_mem listed)
  · rw [form] at member
    rw [List.mem_singleton.mp member]
    exact outside

/-- No letter is found behind a character that has no part in lower-casing. -/
theorem nextIsCased_cons (caseless : Caseless ranges)
    (within : inRanges ranges character.toNat = true) (rest : List Char) :
    nextIsCased (character :: rest) = false := by
  obtain ⟨uncased, kept⟩ := caseless.isCased within
  rw [nextIsCased, List.dropWhile_cons_of_neg (by simp [kept])]
  exact uncased

end Caseless

theorem settled_of_blank {character : Char} (blank : isBlank character = true) :
    Settled character :=
  caseless_blank.settled (isBlank_eq_inRanges character ▸ blank)

/-! ## Whole texts -/

/-- How a character is lower-cased between what comes before and after it. -/
def lowerForm (before : List Char) (character : Char) (rest : List Char) : List Char :=
  if character.toNat = 0x3A3 then
    if nextIsCased before && !nextIsCased rest then ['\u03C2'] else ['\u03C3']
  else lowerChar character

theorem lowerAfter_cons (before : List Char) (character : Char) (rest : List Char) :
    lowerAfter before (character :: rest) =
      lowerForm before character rest ++ lowerAfter (character :: before) rest := rfl

variable {before rest blanks characters : List Char} {character lowered : Char}

theorem lowerForm_ne_nil : lowerForm before character rest ≠ [] := by
  rw [lowerForm]
  split
  · split <;> exact List.cons_ne_nil _ _
  · obtain ⟨-, form⟩ | ⟨run, -, -, form⟩ | ⟨-, form⟩ := lowerChar_cases character
    all_goals
      rw [form]
      exact List.cons_ne_nil _ _

theorem settled_of_mem_lowerForm (member : lowered ∈ lowerForm before character rest) :
    Settled lowered := by
  rw [lowerForm] at member
  split at member
  · split at member
    · rw [List.mem_singleton.mp member]
      exact ⟨by decide, by decide +kernel⟩
    · rw [List.mem_singleton.mp member]
      exact ⟨by decide, by decide +kernel⟩
  · exact settled_of_mem_lowerChar member

theorem Caseless.not_inRanges_lowerForm {ranges : List (Nat × Nat)} (caseless : Caseless ranges)
    (outside : inRanges ranges character.toNat = false)
    (member : lowered ∈ lowerForm before character rest) :
    inRanges ranges lowered.toNat = false := by
  rw [lowerForm] at member
  split at member
  · split at member
    · rw [List.mem_singleton.mp member]
      exact caseless.not_inRanges (by decide)
    · rw [List.mem_singleton.mp member]
      exact caseless.not_inRanges (by decide)
  · exact caseless.not_inRanges_lowerChar outside member

theorem not_blank_of_mem_lowerForm (dark : isBlank character = false)
    (member : lowered ∈ lowerForm before character rest) : isBlank lowered = false := by
  rw [isBlank_eq_inRanges] at dark ⊢
  exact caseless_blank.not_inRanges_lowerForm dark member

theorem settled_of_mem_lowerAfter (member : lowered ∈ lowerAfter before characters) :
    Settled lowered := by
  induction characters generalizing before with
  | nil => cases member
  | cons character rest ih =>
      rw [lowerAfter_cons] at member
      rcases List.mem_append.mp member with here | later
      · exact settled_of_mem_lowerForm here
      · exact ih later

theorem lowerAfter_of_settled (settled : ∀ character ∈ characters, Settled character) :
    lowerAfter before characters = characters := by
  induction characters generalizing before with
  | nil => rfl
  | cons character rest ih =>
      have here := settled character List.mem_cons_self
      rw [lowerAfter_cons, lowerForm, if_neg here.ordinary, here.same,
        ih fun other member => settled other (List.mem_cons_of_mem _ member)]
      rfl

theorem lowerChars_lowerChars (characters : List Char) :
    lowerChars (lowerChars characters) = lowerChars characters :=
  lowerAfter_of_settled fun _ => settled_of_mem_lowerAfter

/-! ## Texts one after the other -/

theorem nextIsCased_append (ended : nextIsCased rest = false) (characters : List Char) :
    nextIsCased (characters ++ rest) = nextIsCased characters := by
  induction characters with
  | nil => exact ended
  | cons character characters ih =>
      by_cases passed : isCaseIgnorable character = true
      · rw [nextIsCased] at ih ⊢
        rw [List.cons_append, List.dropWhile_cons_of_pos passed, ih, nextIsCased, nextIsCased,
          List.dropWhile_cons_of_pos passed]
      · rw [nextIsCased, nextIsCased, List.cons_append, List.dropWhile_cons_of_neg passed,
          List.dropWhile_cons_of_neg passed]

/-- What follows makes no difference where no letter comes next. -/
theorem lowerAfter_append (ended : nextIsCased rest = false) :
    lowerAfter before (characters ++ rest) =
      lowerAfter before characters ++ lowerAfter (characters.reverse ++ before) rest := by
  induction characters generalizing before with
  | nil => rfl
  | cons character characters ih =>
      rw [List.cons_append, lowerAfter_cons, lowerAfter_cons, lowerForm,
        nextIsCased_append ended, ih, List.append_assoc, List.reverse_cons, List.append_assoc]
      rfl

/-- What went before makes no difference where no letter came last. -/
theorem lowerAfter_append_before {earlier : List Char} (ended : nextIsCased earlier = false) :
    lowerAfter (before ++ earlier) characters = lowerAfter before characters := by
  induction characters generalizing before with
  | nil => rfl
  | cons character rest ih =>
      rw [lowerAfter_cons, lowerAfter_cons, lowerForm, nextIsCased_append ended,
        ← List.cons_append, ih]
      rfl

theorem lowerAfter_eq_lowerChars (ended : nextIsCased before = false) :
    lowerAfter before characters = lowerChars characters := by
  have alone : lowerAfter ([] ++ before) characters = lowerAfter [] characters :=
    lowerAfter_append_before ended
  exact alone

/-! ## Blanks around a text -/

theorem nextIsCased_of_blank (blank : ∀ character ∈ blanks, isBlank character = true) :
    nextIsCased blanks = false := by
  cases blanks with
  | nil => rfl
  | cons character rest =>
      have within := blank character List.mem_cons_self
      rw [isBlank_eq_inRanges] at within
      exact caseless_blank.nextIsCased_cons within rest

theorem lowerAfter_blank (blank : ∀ character ∈ blanks, isBlank character = true) :
    lowerAfter before blanks = blanks :=
  lowerAfter_of_settled fun character member => settled_of_blank (blank character member)

theorem lowerAfter_append_left (blank : ∀ character ∈ blanks, isBlank character = true) :
    lowerAfter before (blanks ++ characters) =
      blanks ++ lowerAfter (blanks.reverse ++ before) characters := by
  induction blanks generalizing before with
  | nil => rfl
  | cons character rest ih =>
      have here := settled_of_blank (blank character List.mem_cons_self)
      rw [List.cons_append, lowerAfter_cons, lowerForm, if_neg here.ordinary, here.same,
        ih fun other member => blank other (List.mem_cons_of_mem _ member)]
      simp

/-- Blanks around a text make no difference to how it is lower-cased. -/
theorem lowerChars_between {after : List Char}
    (blankBefore : ∀ character ∈ blanks, isBlank character = true)
    (blankAfter : ∀ character ∈ after, isBlank character = true) :
    lowerChars (blanks ++ (characters ++ after)) = blanks ++ (lowerChars characters ++ after) := by
  have blankReversed : ∀ character ∈ blanks.reverse, isBlank character = true :=
    fun character member => blankBefore character (List.mem_reverse.mp member)
  have first : lowerAfter [] (blanks ++ characters) = blanks ++ lowerChars characters := by
    rw [lowerAfter_append_left blankBefore, List.append_nil,
      lowerAfter_eq_lowerChars (nextIsCased_of_blank blankReversed)]
  rw [lowerChars, ← List.append_assoc, lowerAfter_append (nextIsCased_of_blank blankAfter),
    lowerAfter_blank blankAfter, first, List.append_assoc]

theorem lowerAfter_concat (before characters : List Char) (character : Char) :
    ∃ earlier, lowerAfter before (characters ++ [character]) =
      earlier ++ lowerForm (characters.reverse ++ before) character [] := by
  induction characters generalizing before with
  | nil => exact ⟨[], by simp [lowerAfter_cons, lowerAfter]⟩
  | cons first rest ih =>
      obtain ⟨earlier, same⟩ := ih (first :: before)
      refine ⟨lowerForm before first (rest ++ [character]) ++ earlier, ?_⟩
      rw [List.cons_append, lowerAfter_cons, same]
      simp

theorem Bare.lowerChars (bare : Bare characters) : Bare (lowerChars characters) where
  first lowered head := by
    cases characters with
    | nil => cases head
    | cons character rest =>
        rw [Text.lowerChars, lowerAfter_cons, List.head?_append_of_ne_nil _ lowerForm_ne_nil]
          at head
        exact not_blank_of_mem_lowerForm (bare.first character rfl) (List.mem_of_mem_head? head)
  last lowered last := by
    obtain rfl | ⟨initial, character, rfl⟩ := List.eq_nil_or_concat characters
    · cases last
    · rw [List.concat_eq_append] at bare last
      obtain ⟨earlier, same⟩ := lowerAfter_concat [] initial character
      rw [Text.lowerChars, same, List.getLast?_append_of_ne_nil _ lowerForm_ne_nil] at last
      have dark : isBlank character = false := bare.last character (by simp)
      exact not_blank_of_mem_lowerForm dark (List.mem_of_getLast? last)

theorem trimBlank_lowerChars (characters : List Char) :
    trimBlank (lowerChars characters) = lowerChars (trimBlank characters) := by
  obtain ⟨before, after, blankBefore, blankAfter, whole⟩ := exists_trimBlank characters
  have bare := (bare_trimBlank characters).lowerChars
  calc trimBlank (lowerChars characters)
      = trimBlank (before ++ (lowerChars (trimBlank characters) ++ after)) := by
        rw [← lowerChars_between blankBefore blankAfter, ← whole]
    _ = trimBlank (lowerChars (trimBlank characters)) := by
        rw [trimBlank_append_left blankBefore, trimBlank_append_right blankAfter]
    _ = lowerChars (trimBlank characters) := bare.trimBlank_eq

theorem lower_lower (text : String) : lower (lower text) = lower text := by
  rw [lower, lower, String.toList_ofList, lowerChars_lowerChars]

theorem trim_lower (text : String) : trim (lower text) = lower (trim text) := by
  rw [trim, lower, lower, trim, String.toList_ofList, String.toList_ofList, trimBlank_lowerChars]

end Text

/-! ## Addresses -/

theorem normalEmail_lower (email : String) :
    normalEmail (Text.lower email) = normalEmail email := by
  rw [normalEmail, Text.trim_lower, Text.lower_lower, normalEmail]

theorem normalEmail_normalEmail (email : String) :
    normalEmail (normalEmail email) = normalEmail email := by
  rw [normalEmail, normalEmail, Text.trim_lower, Text.lower_lower, Text.trim_trim]

end Carpool
