import Carpool.Json.Print
import Carpool.Proofs.Json.Numerals
import Carpool.Proofs.Json.Spelling

/-!
# Printed documents read back

The compact text of a whole document is read as that document, with its strings
as they are read back, and as nothing else.
-/

namespace Carpool

namespace Json

/-! ## The tokens of a document -/

namespace Document

mutual

def tokens : Document → List Token
  | .null => [.null]
  | .boolean value => [.boolean value]
  | .number numeral => [.number numeral]
  | .text spelling => [.text spelling]
  | .list items _ => .openList :: (itemTokens items ++ [.closeList])
  | .record members _ => .openRecord :: (memberTokens members ++ [.closeRecord])
  | .unreadable => []

def itemTokens : List Document → List Token
  | [] => []
  | item :: rest => tokens item ++ laterItemTokens rest

/-- The tokens of the items after the first, each with a comma before it. -/
def laterItemTokens : List Document → List Token
  | [] => []
  | item :: rest => .comma :: (tokens item ++ laterItemTokens rest)

def memberTokens : List Member → List Token
  | [] => []
  | (key, value) :: rest => .text key :: .colon :: (tokens value ++ laterMemberTokens rest)

/-- The tokens of the members after the first, each with a comma before it. -/
def laterMemberTokens : List Member → List Token
  | [] => []
  | (key, value) :: rest =>
      .comma :: .text key :: .colon :: (tokens value ++ laterMemberTokens rest)

end

mutual

/-- The document breaks off nowhere. -/
def isWhole : Document → Bool
  | .list items whole => whole && areWhole items
  | .record members whole => whole && haveWhole members
  | .unreadable => false
  | _ => true

def areWhole : List Document → Bool
  | [] => true
  | item :: rest => isWhole item && areWhole rest

def haveWhole : List Member → Bool
  | [] => true
  | (_, value) :: rest => isWhole value && haveWhole rest

end

mutual

/-- A document as it is read back once it has been printed. -/
def asRead : Document → Document
  | .text spelling => .text spelling.asRead
  | .list items whole => .list (itemsAsRead items) whole
  | .record members whole => .record (membersAsRead members) whole
  | document => document

def itemsAsRead : List Document → List Document
  | [] => []
  | item :: rest => asRead item :: itemsAsRead rest

def membersAsRead : List Member → List Member
  | [] => []
  | (key, value) :: rest => (key.asRead, asRead value) :: membersAsRead rest

end

end Document

/-! ## Reading tokens -/

/-- Whatever follows that does not go on with a numeral, some octets are read as
some tokens first. -/
structure Lexes (octets : Octets) (given : List Token) : Prop where
  enough : given.length ≤ octets.length
  first : ∀ fuel rest, Token.EndsNumeral rest →
    tokensWithin (given.length + fuel) (octets ++ rest) = given ++ tokensWithin fuel rest

/-- The octets never go on with a numeral. -/
def Stops (octets : Octets) : Prop :=
  ∀ rest, Token.EndsNumeral rest → Token.EndsNumeral (octets ++ rest)

theorem Stops.cons {first : UInt8}
    (other : isDigit first = false ∧ first ≠ 46 ∧ first ≠ 101 ∧ first ≠ 69) (octets : Octets) :
    Stops (first :: octets) := by
  intro rest _ octet member
  obtain rfl : first = octet := by simpa using member
  exact other

theorem tokensWithin_nil (fuel : Nat) : tokensWithin fuel [] = [] := by
  cases fuel <;> rfl

theorem tokensWithin_cons {fuel : Nat} {first : UInt8} {rest after : Octets} {token : Token}
    (noSpace : isSpace first = false) (read : Token.read? first rest = some (token, after)) :
    tokensWithin (fuel + 1) (first :: rest) = token :: tokensWithin fuel after := by
  rw [tokensWithin, List.dropWhile_cons_of_neg (by simp [noSpace])]
  simp only [read]

namespace Lexes

variable {octets others : Octets} {given more : List Token}

theorem nil : Lexes [] [] :=
  ⟨Nat.le_refl 0, fun fuel rest _ => by simp⟩

theorem append (lexes : Lexes octets given) (stops : Stops others) (next : Lexes others more) :
    Lexes (octets ++ others) (given ++ more) where
  enough := by
    have := lexes.enough
    have := next.enough
    simp only [List.length_append]
    omega
  first fuel rest ends := by
    rw [List.length_append, Nat.add_assoc, List.append_assoc, lexes.first _ _ (stops rest ends),
      next.first fuel rest ends, List.append_assoc]

/-- A token that is read whatever follows it. -/
theorem cons {token : Token} {first : UInt8} {word : Octets} (noSpace : isSpace first = false)
    (read : ∀ rest, Token.read? first (word ++ rest) = some (token, rest))
    (next : Lexes others more) : Lexes (first :: (word ++ others)) (token :: more) where
  enough := by
    have := next.enough
    simp only [List.length_append, List.length_cons]
    omega
  first fuel rest ends := by
    rw [List.length_cons, Nat.add_right_comm, List.cons_append, List.append_assoc,
      tokensWithin_cons noSpace (read _), next.first fuel rest ends]
    rfl

theorem mark {token : Token} {first : UInt8} (noSpace : isSpace first = false)
    (read : ∀ rest, Token.read? first rest = some (token, rest)) (next : Lexes others more) :
    Lexes (first :: others) (token :: more) := by
  rw [← List.nil_append others]
  exact cons noSpace read next

theorem word {token : Token} {first : UInt8} {word : Octets} (noSpace : isSpace first = false)
    (read : ∀ rest, Token.read? first (word ++ rest) = some (token, rest)) :
    Lexes (first :: word) [token] := by
  simpa using cons noSpace read nil

theorem spelt {spelling : Spelling} {inside : Octets} (spelt : spelling.SpeltBy inside)
    (next : Lexes others more) :
    Lexes (34 :: (inside ++ 34 :: others)) (.text spelling :: more) := by
  have read (rest : Octets) :
      Token.read? 34 (inside ++ [34] ++ rest) = some (.text spelling, rest) := by
    rw [Token.read?, if_pos rfl, List.append_assoc, List.singleton_append, spelt.read?]
    rfl
  have lexes := cons rfl read next
  rwa [List.append_assoc, List.singleton_append] at lexes

theorem text (spelling : Spelling) (next : Lexes others more) :
    Lexes (spelling.print ++ others) (.text spelling.asRead :: more) := by
  have lexes := spelt (.printed spelling) next
  rwa [Spelling.print, List.cons_append, List.append_assoc, List.singleton_append]

theorem read?_of_digit {first : UInt8} (digit : isDigit first = true) (rest : Octets) :
    Token.read? first rest =
      (Token.readNumeral? (first :: rest)).map fun (numeral, rest) => (.number numeral, rest) := by
  have noDigit : ∀ special ∈ [34, 123, 125, 91, 93, 44, 58, 110, 116, 102],
      isDigit special = false := by
    simp [isDigit]
  have other : ∀ special ∈ [34, 123, 125, 91, 93, 44, 58, 110, 116, 102], first ≠ special := by
    rintro _ member rfl
    rw [noDigit first member] at digit
    cases digit
  simp only [List.forall_mem_cons] at other
  simp only [Token.read?, other, if_false]

theorem isSpace_of_digit {first : UInt8} (digit : isDigit first = true) :
    isSpace first = false := by
  have table : ∀ code : Fin 256, isDigit (UInt8.ofNat code) = true →
      isSpace (UInt8.ofNat code) = false := by
    decide +kernel
  simpa using table ⟨first.toNat, first.toNat_lt⟩ (by simpa using digit)

theorem number (numeral : Numeral) : Lexes numeral.print [.number numeral] where
  enough := by
    have ends : Token.EndsNumeral [] := by simp [Token.EndsNumeral]
    obtain ⟨first, more, same, -⟩ := Token.readNumeral?_print numeral ends
    rw [List.append_nil] at same
    simp [same]
  first fuel rest ends := by
    obtain ⟨first, more, same, starts, read⟩ := Token.readNumeral?_print numeral ends
    rw [same, List.length_singleton, Nat.add_comm]
    rcases starts with rfl | digit
    · exact tokensWithin_cons rfl (congrArg (Option.map _) read)
    · refine tokensWithin_cons (isSpace_of_digit digit) ?_
      rw [read?_of_digit digit, read]
      rfl

end Lexes

theorem stops_printLaterItems (items : List Document) :
    Stops (Document.printLaterItems items ++ [93]) := by
  cases items with
  | nil => exact .cons (by decide) _
  | cons item rest => exact .cons (by decide) _

theorem stops_printLaterMembers (members : List Member) :
    Stops (Document.printLaterMembers members ++ [125]) := by
  cases members with
  | nil => exact .cons (by decide) _
  | cons member rest => exact .cons (by decide) _

mutual

theorem lexes_print : ∀ document : Document, document.isWhole = true →
    Lexes document.print document.asRead.tokens
  | .null, _ => .word rfl fun _ => rfl
  | .boolean true, _ => .word rfl fun _ => rfl
  | .boolean false, _ => .word rfl fun _ => rfl
  | .number numeral, _ => .number numeral
  | .text spelling, _ => by
      simpa [Document.print, Document.asRead, Document.tokens] using Lexes.text spelling .nil
  | .list [] _, _ => .mark rfl (fun _ => rfl) (.word rfl fun _ => rfl)
  | .list (item :: rest) _, whole => by
      simp only [Document.isWhole, Document.areWhole, Bool.and_eq_true] at whole
      simp only [Document.print, Document.printItems, Document.asRead, Document.itemsAsRead,
        Document.tokens, Document.itemTokens, List.append_assoc]
      exact .mark rfl (fun _ => rfl) ((lexes_print item whole.2.1).append
        (stops_printLaterItems rest) (lexes_printLaterItems rest whole.2.2))
  | .record [] _, _ => .mark rfl (fun _ => rfl) (.word rfl fun _ => rfl)
  | .record ((key, value) :: rest) _, whole => by
      simp only [Document.isWhole, Document.haveWhole, Bool.and_eq_true] at whole
      simp only [Document.print, Document.printMembers, Document.asRead, Document.membersAsRead,
        Document.tokens, Document.memberTokens, List.append_assoc, List.cons_append]
      exact .mark rfl (fun _ => rfl) (.text key (.mark rfl (fun _ => rfl)
        ((lexes_print value whole.2.1).append (stops_printLaterMembers rest)
          (lexes_printLaterMembers rest whole.2.2))))
  | .unreadable, whole => by cases whole

theorem lexes_printLaterItems : ∀ items : List Document, Document.areWhole items = true →
    Lexes (Document.printLaterItems items ++ [93])
      (Document.laterItemTokens (Document.itemsAsRead items) ++ [.closeList])
  | [], _ => .word rfl fun _ => rfl
  | item :: rest, whole => by
      simp only [Document.areWhole, Bool.and_eq_true] at whole
      simp only [Document.printLaterItems, Document.itemsAsRead, Document.laterItemTokens,
        List.append_assoc, List.cons_append]
      exact .mark rfl (fun _ => rfl) ((lexes_print item whole.1).append
        (stops_printLaterItems rest) (lexes_printLaterItems rest whole.2))

theorem lexes_printLaterMembers : ∀ members : List Member, Document.haveWhole members = true →
    Lexes (Document.printLaterMembers members ++ [125])
      (Document.laterMemberTokens (Document.membersAsRead members) ++ [.closeRecord])
  | [], _ => .word rfl fun _ => rfl
  | (key, value) :: rest, whole => by
      simp only [Document.haveWhole, Bool.and_eq_true] at whole
      simp only [Document.printLaterMembers, Document.membersAsRead, Document.laterMemberTokens,
        List.append_assoc, List.cons_append]
      exact .mark rfl (fun _ => rfl) (.text key (.mark rfl (fun _ => rfl)
        ((lexes_print value whole.1).append (stops_printLaterMembers rest)
          (lexes_printLaterMembers rest whole.2))))

end

theorem tokens_of_lexes {octets : Octets} {given : List Token} (lexes : Lexes octets given) :
    tokens octets = given := by
  obtain ⟨spare, length⟩ := Nat.exists_eq_add_of_le lexes.enough
  have read := lexes.first spare [] (by simp [Token.EndsNumeral])
  rw [List.append_nil, tokensWithin_nil, List.append_nil] at read
  rw [tokens, length, read]

/-! ## Reading a document from its tokens -/

def follow (progress : Progress) (given : List Token) : Progress :=
  given.foldl Progress.step progress

theorem follow_cons {frames : List Frame} {stage : Stage} {token : Token} {progress : Progress}
    (next : next? frames stage token = some progress) (given : List Token) :
    follow (.reading frames stage) (token :: given) = follow progress given := by
  rw [follow, List.foldl_cons, Progress.step, next]
  rfl

/-- The first token of a whole document starts a value. -/
theorem follow_firstItem {document : Document} (whole : document.isWhole = true)
    (frames : List Frame) (given : List Token) :
    follow (.reading frames .firstItem) (document.tokens ++ given) =
      follow (.reading (.list [] :: frames) .value) (document.tokens ++ given) := by
  cases document with
  | unreadable => cases whole
  | _ => rfl

mutual

theorem follow_tokens : ∀ (document : Document) (frames : List Frame) (given : List Token),
    document.isWhole = true →
    follow (.reading frames .value) (document.tokens ++ given) =
      follow (.reading frames (.complete document)) given
  | .null, _, _, _ => rfl
  | .boolean _, _, _, _ => rfl
  | .number _, _, _, _ => rfl
  | .text _, _, _, _ => rfl
  | .list [] whole, _, _, known => by
      obtain rfl : whole = true := by simpa [Document.isWhole, Document.areWhole] using known
      rfl
  | .list (item :: rest) whole, frames, given, known => by
      simp only [Document.isWhole, Document.areWhole, Bool.and_eq_true] at known
      obtain ⟨rfl, wholeItem, wholeRest⟩ := known
      simp only [Document.tokens, Document.itemTokens, List.cons_append, List.append_assoc,
        List.nil_append]
      rw [follow_cons rfl, follow_firstItem wholeItem, follow_tokens item _ _ wholeItem]
      exact follow_laterItems rest [] item frames given wholeRest
  | .record [] whole, _, _, known => by
      obtain rfl : whole = true := by simpa [Document.isWhole, Document.haveWhole] using known
      rfl
  | .record ((key, value) :: rest) whole, frames, given, known => by
      simp only [Document.isWhole, Document.haveWhole, Bool.and_eq_true] at known
      obtain ⟨rfl, wholeValue, wholeRest⟩ := known
      simp only [Document.tokens, Document.memberTokens, List.cons_append, List.append_assoc,
        List.nil_append]
      rw [follow_cons rfl, follow_cons rfl, follow_cons rfl, follow_tokens value _ _ wholeValue]
      exact follow_laterMembers rest [] key value frames given wholeRest
  | .unreadable, _, _, known => by cases known

theorem follow_laterItems : ∀ (items before : List Document) (last : Document)
    (frames : List Frame) (given : List Token), Document.areWhole items = true →
    follow (.reading (.list before :: frames) (.complete last))
        (Document.laterItemTokens items ++ .closeList :: given) =
      follow (.reading frames (.complete (.list ((last :: before).reverse ++ items) true))) given
  | [], before, last, frames, given, _ => by
      rw [List.append_nil]
      rfl
  | item :: rest, before, last, frames, given, whole => by
      simp only [Document.areWhole, Bool.and_eq_true] at whole
      simp only [Document.laterItemTokens, List.cons_append, List.append_assoc]
      rw [follow_cons rfl, follow_tokens item _ _ whole.1,
        follow_laterItems rest (last :: before) item frames given whole.2]
      simp

theorem follow_laterMembers : ∀ (members before : List Member) (key : Spelling)
    (last : Document) (frames : List Frame) (given : List Token),
    Document.haveWhole members = true →
    follow (.reading (.record before key :: frames) (.complete last))
        (Document.laterMemberTokens members ++ .closeRecord :: given) =
      follow (.reading frames
        (.complete (.record (((key, last) :: before).reverse ++ members) true))) given
  | [], before, key, last, frames, given, _ => by
      rw [List.append_nil]
      rfl
  | (name, value) :: rest, before, key, last, frames, given, whole => by
      simp only [Document.haveWhole, Bool.and_eq_true] at whole
      simp only [Document.laterMemberTokens, List.cons_append, List.append_assoc]
      rw [follow_cons rfl, follow_cons rfl, follow_cons rfl, follow_tokens value _ _ whole.1,
        follow_laterMembers rest ((key, last) :: before) name value frames given whole.2]
      simp

end

/-- Reading the tokens of a whole document gives the document. -/
theorem readTokens_tokens {document : Document} (whole : document.isWhole = true) :
    readTokens document.tokens = ⟨document, true⟩ := by
  have read := follow_tokens document [] [] whole
  rw [List.append_nil] at read
  rw [readTokens]
  exact congrArg Progress.finish read

mutual

theorem isWhole_asRead : ∀ document : Document, document.asRead.isWhole = document.isWhole
  | .null => rfl
  | .boolean _ => rfl
  | .number _ => rfl
  | .text _ => rfl
  | .list items whole => by
      rw [Document.asRead, Document.isWhole, Document.isWhole, areWhole_itemsAsRead]
  | .record members whole => by
      rw [Document.asRead, Document.isWhole, Document.isWhole, haveWhole_membersAsRead]
  | .unreadable => rfl

theorem areWhole_itemsAsRead : ∀ items : List Document,
    Document.areWhole (Document.itemsAsRead items) = Document.areWhole items
  | [] => rfl
  | item :: rest => by
      rw [Document.itemsAsRead, Document.areWhole, Document.areWhole, isWhole_asRead,
        areWhole_itemsAsRead]

theorem haveWhole_membersAsRead : ∀ members : List Member,
    Document.haveWhole (Document.membersAsRead members) = Document.haveWhole members
  | [] => rfl
  | (_, value) :: rest => by
      rw [Document.membersAsRead, Document.haveWhole, Document.haveWhole, isWhole_asRead,
        haveWhole_membersAsRead]

end

/-- A printed document is read back, and the text holds nothing else. -/
theorem read_print {document : Document} (whole : document.isWhole = true) :
    read document.print = ⟨document.asRead, true⟩ := by
  rw [read, tokens_of_lexes (lexes_print document whole)]
  exact readTokens_tokens ((isWhole_asRead document).trans whole)

end Json

end Carpool
