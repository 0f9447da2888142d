import Carpool.Proofs.Json.Printing
import Mathlib.Data.List.Forall2

/-!
# The grammar of documents

Which octets are the text of a value, said without a reader: white space, numerals,
strings, and lists and records with white space around all of their parts.  The
reader takes every text of the grammar as one whole document.
-/

namespace Carpool

namespace Json

open Numeral (natOctets)

/-! ## White space -/

def Blank (octets : Octets) : Prop :=
  ∀ octet ∈ octets, octet ∈ ([32, 9, 10, 13] : Octets)

variable {octets others space : Octets} {given more : List Token}

theorem Blank.nil : Blank [] :=
  nofun

theorem Blank.isSpace (blank : Blank space) : ∀ octet ∈ space, isSpace octet = true := by
  intro octet member
  have listed := blank octet member
  simp only [List.mem_cons, List.not_mem_nil, or_false] at listed
  rcases listed with rfl | rfl | rfl | rfl <;> rfl

theorem Stops.nil : Stops [] :=
  fun _ ends => ends

theorem Stops.blank (blank : Blank space) (stops : Stops others) : Stops (space ++ others) := by
  cases space with
  | nil => exact stops
  | cons first rest =>
      have listed := blank first List.mem_cons_self
      simp only [List.mem_cons, List.not_mem_nil, or_false] at listed
      apply Stops.cons
      rcases listed with rfl | rfl | rfl | rfl <;> decide

theorem tokensWithin_blank (blank : Blank space) (fuel : Nat) (rest : Octets) :
    tokensWithin fuel (space ++ rest) = tokensWithin fuel rest := by
  cases fuel with
  | zero => rfl
  | succ fuel =>
      rw [tokensWithin, tokensWithin, List.dropWhile_append_of_pos blank.isSpace]

theorem Lexes.blank (blank : Blank space) (next : Lexes others more) :
    Lexes (space ++ others) more where
  enough := by
    have enough := next.enough
    simp only [List.length_append]
    omega
  first fuel rest ends := by
    rw [List.append_assoc, tokensWithin_blank blank]
    exact next.first fuel rest ends

/-! ## Numerals -/

/-- Decimal digits, at least one. -/
structure Digits (octets : Octets) : Prop where
  nonempty : octets ≠ []
  all : ∀ octet ∈ octets, isDigit octet = true

/-- A zero alone, or digits that start with another. -/
structure WholeDigits (octets : Octets) : Prop where
  digits : Digits octets
  noZero : octets.head? = some 48 → octets = [48]

/-- A point with digits after it, or nothing. -/
inductive PointDigits : Octets → Prop
  | none : PointDigits []
  | some {digits : Octets} : Digits digits → PointDigits (46 :: digits)

/-- An exponent with or without a sign, or nothing. -/
inductive ScaleDigits : Octets → Prop
  | none : ScaleDigits []
  | some {mark : UInt8} {sign digits : Octets} : mark = 101 ∨ mark = 69 →
      sign = [] ∨ sign = [43] ∨ sign = [45] → Digits digits →
      ScaleDigits (mark :: (sign ++ digits))

inductive IsNumeral : Octets → Prop
  | unsigned {whole point scale : Octets} : WholeDigits whole → PointDigits point →
      ScaleDigits scale → IsNumeral (whole ++ (point ++ scale))
  | negative {whole point scale : Octets} : WholeDigits whole → PointDigits point →
      ScaleDigits scale → IsNumeral (45 :: (whole ++ (point ++ scale)))

namespace Token

variable {whole point scale : Octets}

theorem readWhole?_digits (digits : WholeDigits whole) :
    ∃ value, ∀ rest, NoDigit rest → readWhole? (whole ++ rest) = some (value, rest) := by
  obtain ⟨first, more, same⟩ := List.exists_cons_of_ne_nil digits.digits.nonempty
  have alone : ¬(first = 48 ∧ more ≠ []) := by
    rintro ⟨rfl, longer⟩
    have zero := digits.noZero (by rw [same]; rfl)
    rw [same] at zero
    exact longer (List.cons.inj zero).2
  refine ⟨digitsValue whole, fun rest ends => ?_⟩
  obtain ⟨taken, dropped⟩ := takeWhile_digits digits.digits.all ends
  simp only [readWhole?, taken, dropped]
  rw [same]
  simp only [if_neg alone]

theorem readFraction?_digits (digits : PointDigits point) :
    ∃ fraction, ∀ rest, NoDigit rest → 46 ∉ rest.head? →
      readFraction? (point ++ rest) = some (fraction, rest) := by
  cases digits with
  | none => exact ⟨[], fun rest _ noPoint => readFraction?_of_other noPoint⟩
  | @some digits all =>
      have nonempty : digits.isEmpty = false := by simpa using all.nonempty
      refine ⟨digits.map digitValue, fun rest ends _ => ?_⟩
      obtain ⟨taken, dropped⟩ := takeWhile_digits all.all ends
      simp only [List.cons_append, readFraction?, taken, dropped, nonempty]
      rfl

theorem readSign_signed {sign digits : Octets} (signed : sign = [] ∨ sign = [43] ∨ sign = [45])
    (all : Digits digits) :
    ∃ negative, ∀ rest, readSign (sign ++ digits ++ rest) = (negative, digits ++ rest) := by
  obtain ⟨first, more, same⟩ := List.exists_cons_of_ne_nil all.nonempty
  have digit : isDigit first = true := all.all first (by simp [same])
  rcases signed with rfl | rfl | rfl
  · refine ⟨false, fun rest => ?_⟩
    rw [same]
    exact readSign_digits digit (more ++ rest)
  · exact ⟨false, fun _ => rfl⟩
  · exact ⟨true, fun _ => rfl⟩

theorem readExponent?_digits (digits : ScaleDigits scale) :
    ∃ exponent, ∀ rest, EndsNumeral rest →
      readExponent? (scale ++ rest) = some (exponent, rest) := by
  cases digits with
  | none => exact ⟨none, fun rest ends => readExponent?_scale none ends⟩
  | @some mark sign digits marked signed all =>
      obtain ⟨negative, split⟩ := readSign_signed signed all
      have nonempty : digits.isEmpty = false := by simpa using all.nonempty
      refine ⟨some (if negative then -(digitsValue digits : Int) else digitsValue digits),
        fun rest ends => ?_⟩
      obtain ⟨taken, dropped⟩ := takeWhile_digits all.all ends.noDigit
      rw [List.cons_append, readExponent?, if_pos marked, split]
      simp only [taken, dropped, nonempty]
      rfl

theorem scaleDigits_head (digits : ScaleDigits scale) {rest : Octets} (ends : EndsNumeral rest) :
    NoDigit (scale ++ rest) ∧ 46 ∉ (scale ++ rest).head? := by
  cases digits with
  | none => exact scaleOctets_head none ends
  | some marked signed all => rcases marked with rfl | rfl <;> exact ⟨.cons rfl _, by simp⟩

theorem pointDigits_head (digits : PointDigits point) {rest : Octets} (ends : NoDigit rest) :
    NoDigit (point ++ rest) := by
  cases digits with
  | none => exact ends
  | some digits => exact .cons rfl _

/-- The octets are read as one numeral, whatever comes next that does not go on
with it. -/
theorem readUnsigned?_digits (negative : Bool) (wholeDigits : WholeDigits whole)
    (pointDigits : PointDigits point) (scaleDigits : ScaleDigits scale) :
    ∃ numeral, ∀ rest, EndsNumeral rest →
      readUnsigned? negative (whole ++ (point ++ (scale ++ rest))) = some (numeral, rest) := by
  obtain ⟨value, readWhole⟩ := readWhole?_digits wholeDigits
  obtain ⟨fraction, readFraction⟩ := readFraction?_digits pointDigits
  obtain ⟨exponent, readExponent⟩ := readExponent?_digits scaleDigits
  refine ⟨⟨negative, value, fraction, exponent⟩, fun rest ends => ?_⟩
  obtain ⟨noDigit, noPoint⟩ := scaleDigits_head scaleDigits ends
  have afterWhole := pointDigits_head pointDigits noDigit
  simp only [readUnsigned?, Option.bind_eq_bind, readWhole _ afterWhole, Option.bind_some,
    readFraction _ noDigit noPoint, readExponent _ ends]
  rfl

end Token

theorem Lexes.numeral {numeral : Numeral} {first : UInt8} {word : Octets}
    (starts : first = 45 ∨ isDigit first = true)
    (read : ∀ rest, Token.EndsNumeral rest →
      Token.readNumeral? (first :: (word ++ rest)) = some (numeral, rest)) :
    Lexes (first :: word) [.number numeral] where
  enough := by simp
  first fuel rest ends := by
    have taken : Token.read? first (word ++ rest) = some (.number numeral, rest) := by
      rcases starts with rfl | digit
      · exact congrArg (Option.map _) (read rest ends)
      · rw [read?_of_digit digit, read rest ends]
        rfl
    have noSpace : isSpace first = false := by
      rcases starts with rfl | digit
      · rfl
      · exact isSpace_of_digit digit
    rw [List.length_singleton, Nat.add_comm, List.cons_append, tokensWithin_cons noSpace taken]
    rfl

theorem IsNumeral.lexes (numeral : IsNumeral octets) :
    ∃ value, Lexes octets [.number value] := by
  cases numeral with
  | @unsigned whole point scale wholeDigits pointDigits scaleDigits =>
      obtain ⟨value, read⟩ := Token.readUnsigned?_digits false wholeDigits pointDigits scaleDigits
      obtain ⟨first, more, same⟩ := List.exists_cons_of_ne_nil wholeDigits.digits.nonempty
      have digit : isDigit first = true := wholeDigits.digits.all first (by simp [same])
      refine ⟨value, ?_⟩
      subst same
      apply Lexes.numeral (.inr digit)
      intro rest ends
      rw [Token.readNumeral?_of_digit digit]
      simpa using read rest ends
  | @negative whole point scale wholeDigits pointDigits scaleDigits =>
      obtain ⟨value, read⟩ := Token.readUnsigned?_digits true wholeDigits pointDigits scaleDigits
      refine ⟨value, Lexes.numeral (.inl rfl) fun rest ends => ?_⟩
      rw [Token.readNumeral?, List.append_assoc, List.append_assoc, read rest ends]

/-! ## Values -/

/-- Some texts with white space around each of them and commas in between. -/
inductive Listed : List Octets → Octets → Prop
  | none {space : Octets} : Blank space → Listed [] space
  | last {before text after : Octets} : Blank before → Blank after →
      Listed [text] (before ++ (text ++ after))
  | next {before text after following body : Octets} {texts : List Octets} : Blank before →
      Blank after → Listed (following :: texts) body →
      Listed (text :: following :: texts) (before ++ (text ++ (after ++ 44 :: body)))

/-- A member as a text spells it: the inside of its key, the white space before and
after the colon, and its value. -/
structure MemberText where
  key : Octets
  before : Octets
  after : Octets
  value : Octets

def MemberText.text (member : MemberText) : Octets :=
  34 :: (member.key ++ 34 :: (member.before ++ 58 :: (member.after ++ member.value)))

/-- The key is one, and the white space is white. -/
structure MemberText.HasKey (member : MemberText) (spelling : Spelling) : Prop where
  key : spelling.SpeltBy member.key
  before : Blank member.before
  after : Blank member.after

/-- The octets are the text of one value, with no white space around it. -/
inductive IsValue : Octets → Prop
  | null : IsValue [110, 117, 108, 108]
  | true : IsValue [116, 114, 117, 101]
  | false : IsValue [102, 97, 108, 115, 101]
  | numeral {octets : Octets} : IsNumeral octets → IsValue octets
  | text {spelling : Spelling} {inside : Octets} : spelling.SpeltBy inside →
      IsValue (34 :: (inside ++ [34]))
  | list {items : List Octets} {body : Octets} : (∀ item ∈ items, IsValue item) →
      Listed items body → IsValue (91 :: (body ++ [93]))
  | record {members : List MemberText} {body : Octets} :
      (∀ member ∈ members, ∃ spelling, member.HasKey spelling) →
      (∀ member ∈ members, IsValue member.value) →
      Listed (members.map MemberText.text) body → IsValue (123 :: (body ++ [125]))

/-! ## Reading the texts of the grammar -/

/-- The octets are those of a whole document. -/
structure Document.HasText (document : Document) (octets : Octets) : Prop where
  whole : document.isWhole = true
  lexes : Lexes octets document.tokens

theorem Document.HasText.read {document : Document} (text : document.HasText octets) :
    read octets = ⟨document, true⟩ := by
  rw [Json.read, tokens_of_lexes text.lexes]
  exact readTokens_tokens text.whole

theorem Document.HasText.blank {document : Document} {before after : Octets}
    (text : document.HasText octets) (blankBefore : Blank before) (blankAfter : Blank after) :
    document.HasText (before ++ (octets ++ after)) where
  whole := text.whole
  lexes := by
    have ended : Lexes after [] := by simpa using Lexes.blank blankAfter .nil
    have stops : Stops after := by simpa using Stops.nil.blank blankAfter
    simpa using (text.lexes.append stops ended).blank blankBefore

/-- The document that a text is read as. -/
def documentOf (octets : Octets) : Document :=
  (read octets).document

theorem Document.HasText.documentOf {document : Document} (text : document.HasText octets) :
    (documentOf octets).HasText octets := by
  rw [Json.documentOf, text.read]
  exact text

theorem itemTokens_eq (items : List Document) :
    Document.itemTokens items = List.intercalate [.comma] (items.map Document.tokens) := by
  induction items with
  | nil => rfl
  | cons item rest ih =>
      cases rest with
      | nil => simp [Document.itemTokens, Document.laterItemTokens]
      | cons next rest =>
          have later : Document.itemTokens (item :: next :: rest) =
              item.tokens ++ .comma :: Document.itemTokens (next :: rest) := rfl
          simp [later, ih, List.intercalate_cons_cons]

/-- The tokens of a member. -/
def tokensOfMember (member : Member) : List Token :=
  .text member.1 :: .colon :: member.2.tokens

theorem memberTokens_eq (members : List Member) :
    Document.memberTokens members = List.intercalate [.comma] (members.map tokensOfMember) := by
  induction members with
  | nil => rfl
  | cons member rest ih =>
      cases rest with
      | nil => simp [Document.memberTokens, Document.laterMemberTokens, tokensOfMember]
      | cons next rest =>
          have later : Document.memberTokens (member :: next :: rest) =
              tokensOfMember member ++ .comma :: Document.memberTokens (next :: rest) := rfl
          simp [later, ih, List.intercalate_cons_cons]

/-- The parts of a list or record lex one after the other, up to the mark that
closes it. -/
theorem Listed.lexes {texts : List Octets} {body : Octets} {parts : List (List Token)}
    {close : UInt8} {token : Token} (listed : Listed texts body)
    (lexed : List.Forall₂ Lexes texts parts) (closes : Lexes [close] [token])
    (stops : Stops [close]) :
    Lexes (body ++ [close]) (List.intercalate [.comma] parts ++ [token]) := by
  induction listed generalizing parts with
  | none blank =>
      cases lexed
      simpa using closes.blank blank
  | last blankBefore blankAfter =>
      obtain ⟨part, rest, first, others, rfl⟩ := List.forall₂_cons_left_iff.mp lexed
      cases others
      have ending := closes.blank blankAfter
      have whole := (first.append (stops.blank blankAfter) ending).blank blankBefore
      simpa using whole
  | @next before text after following body texts blankBefore blankAfter _ ih =>
      obtain ⟨part, rest, first, others, rfl⟩ := List.forall₂_cons_left_iff.mp lexed
      obtain ⟨second, more, -, -, rfl⟩ := List.forall₂_cons_left_iff.mp others
      have comma : Lexes (44 :: (body ++ [close]))
          (.comma :: (List.intercalate [.comma] (second :: more) ++ [token])) :=
        .mark rfl (fun _ => rfl) (ih others)
      have stopsAfter : Stops (after ++ 44 :: (body ++ [close])) :=
        Stops.blank blankAfter (.cons (by decide) _)
      have whole := (first.append stopsAfter (comma.blank blankAfter)).blank blankBefore
      simpa [List.intercalate_cons_cons] using whole

/-- The member that is read from the inside of a key and the text of a value. -/
def memberOf (said : Octets × Octets) : Member :=
  (((Spelling.read? (said.1 ++ [34])).map Prod.fst).getD [], documentOf said.2)

namespace MemberText

variable {member : MemberText} {spelling : Spelling}

/-- The key and the value, without the white space around the colon. -/
def said (member : MemberText) : Octets × Octets :=
  (member.key, member.value)

theorem HasKey.memberOf_said (keyed : member.HasKey spelling) :
    memberOf member.said = (spelling, documentOf member.value) := by
  have read := keyed.key.read? []
  rw [said, memberOf, read]
  rfl

theorem HasKey.lexes (keyed : member.HasKey spelling)
    (value : (documentOf member.value).HasText member.value) :
    Lexes member.text (tokensOfMember (memberOf member.said)) := by
  rw [keyed.memberOf_said]
  have colon : Lexes (58 :: (member.after ++ member.value))
      (.colon :: (documentOf member.value).tokens) :=
    .mark rfl (fun _ => rfl) (value.lexes.blank keyed.after)
  exact .spelt keyed.key (colon.blank keyed.before)

end MemberText

theorem areWhole_iff (items : List Document) :
    Document.areWhole items = true ↔ ∀ item ∈ items, item.isWhole = true := by
  induction items with
  | nil => simp [Document.areWhole]
  | cons item rest ih => simp [Document.areWhole, ih]

theorem haveWhole_iff (members : List Member) :
    Document.haveWhole members = true ↔ ∀ member ∈ members, member.2.isWhole = true := by
  induction members with
  | nil => simp [Document.haveWhole]
  | cons member rest ih => simp [Document.haveWhole, ih]

theorem hasText_list {items : List Octets} {body : Octets} (listed : Listed items body)
    (texts : ∀ item ∈ items, (documentOf item).HasText item) :
    (Document.list (items.map documentOf) true).HasText (91 :: (body ++ [93])) where
  whole := by
    have whole : ∀ item ∈ items.map documentOf, item.isWhole = true := by
      rw [List.forall_mem_map]
      exact fun item member => (texts item member).whole
    rw [Document.isWhole, Bool.true_and]
    exact (areWhole_iff _).mpr whole
  lexes := by
    have lexed : List.Forall₂ Lexes items ((items.map documentOf).map Document.tokens) := by
      rw [List.map_map, List.forall₂_map_right_iff, List.forall₂_same]
      exact fun item member => (texts item member).lexes
    have closes : Lexes [93] [.closeList] := .word rfl fun _ => rfl
    have closed := listed.lexes lexed closes (.cons (by decide) _)
    rw [← itemTokens_eq] at closed
    exact .mark rfl (fun _ => rfl) closed

theorem hasText_record {members : List MemberText} {body : Octets}
    (listed : Listed (members.map MemberText.text) body)
    (keyed : ∀ member ∈ members, ∃ spelling, member.HasKey spelling)
    (values : ∀ member ∈ members, (documentOf member.value).HasText member.value) :
    (Document.record ((members.map MemberText.said).map memberOf) true).HasText
      (123 :: (body ++ [125])) where
  whole := by
    have whole : ∀ member ∈ (members.map MemberText.said).map memberOf,
        member.2.isWhole = true := by
      rw [List.map_map, List.forall_mem_map]
      exact fun member listed => (values member listed).whole
    rw [Document.isWhole, Bool.true_and]
    exact (haveWhole_iff _).mpr whole
  lexes := by
    have lexed : List.Forall₂ Lexes (members.map MemberText.text)
        (((members.map MemberText.said).map memberOf).map tokensOfMember) := by
      rw [List.map_map, List.map_map, List.forall₂_map_left_iff, List.forall₂_map_right_iff,
        List.forall₂_same]
      intro member listed
      obtain ⟨spelling, key⟩ := keyed member listed
      exact key.lexes (values member listed)
    have closes : Lexes [125] [.closeRecord] := .word rfl fun _ => rfl
    have closed := listed.lexes lexed closes (.cons (by decide) _)
    rw [← memberTokens_eq] at closed
    exact .mark rfl (fun _ => rfl) closed

theorem Spelling.SpeltBy.hasText {spelling : Spelling} {inside : Octets}
    (spelt : spelling.SpeltBy inside) : (Document.text spelling).HasText (34 :: (inside ++ [34])) :=
  ⟨rfl, .spelt spelt .nil⟩

/-- Every text of the grammar is the text of the document that is read from it. -/
theorem IsValue.hasText (value : IsValue octets) : (documentOf octets).HasText octets := by
  induction value with
  | null =>
      have text : Document.null.HasText [110, 117, 108, 108] := ⟨rfl, .word rfl fun _ => rfl⟩
      exact text.documentOf
  | true =>
      have text : (Document.boolean Bool.true).HasText [116, 114, 117, 101] :=
        ⟨rfl, .word rfl fun _ => rfl⟩
      exact text.documentOf
  | false =>
      have text : (Document.boolean Bool.false).HasText [102, 97, 108, 115, 101] :=
        ⟨rfl, .word rfl fun _ => rfl⟩
      exact text.documentOf
  | numeral numeral =>
      obtain ⟨value, lexes⟩ := numeral.lexes
      have text : (Document.number value).HasText _ := ⟨rfl, lexes⟩
      exact text.documentOf
  | text spelt => exact spelt.hasText.documentOf
  | list _ listed ih => exact (hasText_list listed ih).documentOf
  | record keyed _ listed ih => exact (hasText_record listed keyed ih).documentOf

/-! ## Printed documents -/

theorem digits_natOctets (value : Nat) : Digits (natOctets value) where
  nonempty := by
    obtain ⟨first, more, same, -⟩ := natOctets_eq_cons value
    simp [same]
  all := isDigit_of_mem_natOctets value

theorem wholeDigits_natOctets (value : Nat) : WholeDigits (natOctets value) where
  digits := digits_natOctets value
  noZero leads := by
    obtain ⟨first, more, same, zero⟩ := natOctets_eq_cons value
    rw [same] at leads
    have zero : value = 0 := zero (by simpa using leads)
    rw [zero, natOctets_of_lt (by decide)]
    rfl

theorem pointDigits_pointOctets (fraction : List (Fin 10)) :
    PointDigits (Token.pointOctets fraction) := by
  cases fraction with
  | nil => exact .none
  | cons digit digits =>
      apply PointDigits.some
      refine ⟨by simp, ?_⟩
      rw [List.forall_mem_map]
      exact fun digit _ => (Token.digitOctet_table digit).1

theorem scaleDigits_scaleOctets (exponent : Option Int) :
    ScaleDigits (Token.scaleOctets exponent) := by
  cases exponent with
  | none => exact .none
  | some exponent =>
      apply ScaleDigits.some (.inl rfl)
      · by_cases negative : exponent < 0 <;> simp [negative]
      · exact digits_natOctets exponent.natAbs

theorem isNumeral_print (numeral : Numeral) : IsNumeral numeral.print := by
  have whole := wholeDigits_natOctets numeral.whole
  have point := pointDigits_pointOctets numeral.fraction
  have scale := scaleDigits_scaleOctets numeral.exponent
  rw [Token.print_eq]
  cases numeral.negative with
  | false => simpa using IsNumeral.unsigned whole point scale
  | true => simpa using IsNumeral.negative whole point scale

theorem listed_printItems (items : List Document) :
    Listed (items.map Document.print) (Document.printItems items) := by
  induction items with
  | nil => exact .none .nil
  | cons item rest ih =>
      cases rest with
      | nil =>
          have alone : Listed [item.print] ([] ++ (item.print ++ [])) := .last .nil .nil
          simpa [Document.printItems, Document.printLaterItems] using alone
      | cons next rest =>
          have more : Listed _ ([] ++ (item.print ++ ([] ++ 44 :: _))) := .next .nil .nil ih
          simpa [Document.printItems, Document.printLaterItems] using more

/-- A member as it is printed. -/
def printedMember (member : Member) : MemberText where
  key := member.1.flatMap Spelling.printPiece
  before := []
  after := []
  value := member.2.print

theorem printedMember_hasKey (member : Member) :
    (printedMember member).HasKey member.1.asRead :=
  ⟨.printed member.1, .nil, .nil⟩

theorem text_printedMember (member : Member) :
    (printedMember member).text = member.1.print ++ 58 :: member.2.print := by
  simp [printedMember, MemberText.text, Spelling.print]

theorem listed_printMembers (members : List Member) :
    Listed ((members.map printedMember).map MemberText.text) (Document.printMembers members) := by
  induction members with
  | nil => exact .none .nil
  | cons member rest ih =>
      have text := text_printedMember member
      cases rest with
      | nil =>
          have alone : Listed [(printedMember member).text]
              ([] ++ ((printedMember member).text ++ [])) := .last .nil .nil
          simpa [Document.printMembers, Document.printLaterMembers, text] using alone
      | cons next rest =>
          have more : Listed _ ([] ++ ((printedMember member).text ++ ([] ++ 44 :: _))) :=
            .next .nil .nil ih
          simpa [Document.printMembers, Document.printLaterMembers, text] using more

mutual

/-- A printed document is a text of the grammar. -/
theorem isValue_print : ∀ document : Document, document.isWhole = true → IsValue document.print
  | .null, _ => .null
  | .boolean true, _ => .true
  | .boolean false, _ => .false
  | .number numeral, _ => .numeral (isNumeral_print numeral)
  | .text spelling, _ => .text (.printed spelling)
  | .list items _, whole => by
      rw [Document.isWhole, Bool.and_eq_true] at whole
      have values := isValue_printItems items whole.2
      exact .list (List.forall_mem_map.mpr values) (listed_printItems items)
  | .record members _, whole => by
      rw [Document.isWhole, Bool.and_eq_true] at whole
      have values := isValue_printMembers members whole.2
      apply IsValue.record _ (List.forall_mem_map.mpr values) (listed_printMembers members)
      exact List.forall_mem_map.mpr fun member _ => ⟨_, printedMember_hasKey member⟩
  | .unreadable, whole => by cases whole

theorem isValue_printItems : ∀ items : List Document, Document.areWhole items = true →
    ∀ item ∈ items, IsValue item.print
  | [], _ => nofun
  | item :: rest, whole => by
      rw [Document.areWhole, Bool.and_eq_true] at whole
      have first := isValue_print item whole.1
      have others := isValue_printItems rest whole.2
      exact List.forall_mem_cons.mpr ⟨first, others⟩

theorem isValue_printMembers : ∀ members : List Member, Document.haveWhole members = true →
    ∀ member ∈ members, IsValue member.2.print
  | [], _ => nofun
  | (_, value) :: rest, whole => by
      rw [Document.haveWhole, Bool.and_eq_true] at whole
      have first := isValue_print value whole.1
      have others := isValue_printMembers rest whole.2
      exact List.forall_mem_cons.mpr ⟨first, others⟩

end

end Json

end Carpool
