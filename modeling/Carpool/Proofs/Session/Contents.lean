import Carpool.Proofs.Json.Endings
import Carpool.Proofs.Json.Records
import Carpool.Proofs.Session.Parts

/-!
# What the parts of a token must say

The header names the one algorithm, and its other standard members are of their
kinds.  The claims are a record that gives the session claims once each; of the
other registered claims an audience may not be named, and the start of validity
and the issuer need only be such that a reader gets past them.
-/

namespace Carpool

namespace Session

open Json (Document Form Member MayHave MustHave allSpelled)

/-! ## Headers -/

def OrNull (kind : Document → Prop) (document : Document) : Prop :=
  document = .null ∨ kind document

/-- The one algorithm is named by its name, or by a record with null under its
name. -/
inductive NamesAlgorithm : Document → Prop
  | name {spelling : Json.Spelling} (spelled : spelling.text? = some algorithm) :
      NamesAlgorithm (.text spelling)
  | record {spelling : Json.Spelling} (spelled : spelling.text? = some algorithm) :
      NamesAlgorithm (.record [(spelling, .null)] true)

def IsKey (document : Document) : Prop :=
  readKey document = .ok ()

/-- The standard members of a header, in order, and of what kind each is. -/
def headerMembers : List (String × (Document → Prop)) :=
  [("typ", OrNull Document.IsText), ("alg", NamesAlgorithm), ("cty", OrNull Document.IsText),
    ("jku", OrNull Document.IsText), ("jwk", OrNull IsKey), ("kid", OrNull Document.IsText),
    ("x5u", OrNull Document.IsText), ("x5c", OrNull Document.IsTexts),
    ("x5t", OrNull Document.IsText), ("x5t#S256", OrNull Document.IsText)]

/-- A header is a record with standard members, or a list of them all. -/
inductive HeaderInForm : Document → Prop
  | record {members : List Member} (spelled : allSpelled members = true)
      (named : membersNamed members "alg" ≠ [])
      (kinds : ∀ member ∈ headerMembers, MayHave members member.1 member.2) :
      HeaderInForm (.record members true)
  | list {items : List Document}
      (kinds : List.Forall₂ (fun member item => member.2 item) headerMembers items) :
      HeaderInForm (.list items true)

theorem nullable_reads {α : Type} {form : Form α} {kind : Document → Prop}
    (reads : form.Reads = kind) : form.nullable.Reads = OrNull kind := by
  funext document
  rw [OrNull, ← reads]
  exact propext Form.nullable_reads

theorem text_reads : Form.text.Reads = Document.IsText :=
  funext fun _ => propext Form.text_reads

theorem texts_reads : (Form.list .text).Reads = Document.IsTexts :=
  funext fun _ => propext Form.texts_reads

theorem key_reads : keyForm.Reads = IsKey :=
  funext fun _ => propext ⟨fun ⟨(), read⟩ => read, fun read => ⟨(), read⟩⟩

theorem algorithm_reads : (oneOf [algorithm]).Reads = NamesAlgorithm := by
  funext document
  refine propext ⟨?_, ?_⟩
  · rintro ⟨name, read⟩
    obtain ⟨spelling, text, given, spelled, parsed⟩ := Form.named_read_eq_ok.mp read
    have same := List.find?_some parsed
    have member := List.mem_of_find?_eq_some parsed
    obtain rfl : algorithm = text := by simp_all
    rcases given with rfl | rfl
    · exact .name spelled
    · exact .record spelled
  · intro names
    cases names with
    | @name spelling spelled =>
        exact ⟨_, Form.named_read_eq_ok.mpr ⟨spelling, algorithm, .inl rfl, spelled, rfl⟩⟩
    | @record spelling spelled =>
        exact ⟨_, Form.named_read_eq_ok.mpr ⟨spelling, algorithm, .inr rfl, spelled, rfl⟩⟩

theorem headerForm_reads_record {members : List Member} :
    headerForm.Reads (.record members true) ↔ HeaderInForm (.record members true) := by
  have opened : headerForm.Reads (.record members true) ↔ _ := Json.Schema.record_reads (by decide)
  simp only [Json.Schema.fits_optional, Json.Schema.fits_required, Json.Schema.fits_nil,
    nullable_reads text_reads, nullable_reads texts_reads, nullable_reads key_reads,
    algorithm_reads] at opened
  rw [opened]
  constructor
  · rintro ⟨spelled, typ, ⟨document, named, names⟩, others⟩
    refine .record spelled (by simp [named]) ?_
    simp only [headerMembers, List.forall_mem_cons]
    exact ⟨typ, .inr ⟨document, named, names⟩, by simpa using others⟩
  · rintro (⟨spelled, named, kinds⟩ | _)
    simp only [headerMembers, List.forall_mem_cons] at kinds
    obtain ⟨typ, alg, others⟩ := kinds
    exact ⟨spelled, typ, alg.resolve_left named, by simpa using others⟩

theorem headerForm_reads_list {items : List Document} :
    headerForm.Reads (.list items true) ↔ HeaderInForm (.list items true) := by
  have opened : headerForm.Reads (.list items true) ↔ _ := Json.Schema.list_reads
  simp only [Json.Schema.fitsList_optional, Json.Schema.fitsList_required, Json.Schema.fitsList_nil,
    nullable_reads text_reads, nullable_reads texts_reads, nullable_reads key_reads,
    algorithm_reads] at opened
  rw [opened]
  have form : HeaderInForm (.list items true) ↔
      List.Forall₂ (fun member item => member.2 item) headerMembers items :=
    ⟨fun (.list kinds) => kinds, .list⟩
  rw [form]
  simp only [headerMembers, List.forall₂_cons_left_iff, List.forall₂_nil_left_iff]

theorem headerForm_reads {document : Document} :
    headerForm.Reads document ↔ HeaderInForm document := by
  constructor
  · intro reads
    obtain ⟨value, read⟩ := reads
    rcases Form.record_whole_of_read read with ⟨members, rfl⟩ | ⟨items, rfl⟩
    · exact headerForm_reads_record.mp ⟨value, read⟩
    · exact headerForm_reads_list.mp ⟨value, read⟩
  · intro form
    cases form with
    | record spelled named kinds => exact headerForm_reads_record.mpr (.record spelled named kinds)
    | list kinds => exact headerForm_reads_list.mpr (.list kinds)

/-- A header is accepted in its one written form. -/
theorem acceptsHeader_iff {header : Octets} :
    acceptsHeader header = true ↔
      ∃ octets, header = Base64url.encode octets ∧ (Json.read octets).clean = true ∧
        HeaderInForm (Json.read octets).document := by
  rw [acceptsHeader]
  cases decoded : Base64url.decode header with
  | none =>
      constructor
      · intro accepted
        cases accepted
      · rintro ⟨octets, rfl, -⟩
        rw [Base64url.decode_encode] at decoded
        cases decoded
  | some octets =>
      have written := Base64url.decode_eq_some_iff.mp decoded
      rw [Json.isOk_iff]
      simp only [Form.ofOctets_eq_ok, exists_and_left]
      constructor
      · rintro ⟨clean, reads⟩
        exact ⟨octets, written, clean, headerForm_reads.mp reads⟩
      · rintro ⟨other, writtenToo, clean, form⟩
        obtain rfl := Base64url.encode_injective (written.symm.trans writtenToo)
        exact ⟨clean, headerForm_reads.mpr form⟩

/-! ## Claims -/

/-- A text that is given at most once; null counts as none. -/
inductive GivesText (members : List Member) (key : String) : Option String → Prop
  | absent (unnamed : membersNamed members key = []) : GivesText members key none
  | null (named : membersNamed members key = [.null]) : GivesText members key none
  | text {document : Document} {text : String} (named : membersNamed members key = [document])
      (spelled : document.Spells text) : GivesText members key (some text)

/-- A whole number of sixty-four bits with a sign. -/
def IsWord (value : Int) : Prop :=
  -0x8000000000000000 ≤ value ∧ value ≤ 0x7FFFFFFFFFFFFFFF

/-- A whole number of sixty-four bits that is given once. -/
def GivesSecond (members : List Member) (key : String) (second : Int) : Prop :=
  ∃ numeral, membersNamed members key = [.number numeral] ∧ numeral.int? = some second ∧
    IsWord second

/-- A reader gets past a document, whether it has faults or not. -/
def PassedOver (document : Document) : Prop :=
  Json.Ending.ofDocument nestingLimit document ≠ .lost

/-- A reader of numbers gets past a document.  Of lists and records it gets past
the empty ones. -/
inductive PassedStart : Document → Prop
  | list (whole : Bool) : PassedStart (.list [] whole)
  | record (whole : Bool) : PassedStart (.record [] whole)
  | plain {document : Document} (noList : ∀ items whole, document ≠ .list items whole)
      (noRecord : ∀ members whole, document ≠ .record members whole)
      (passed : PassedOver document) : PassedStart document

/-- A document that names no audience. -/
structure NamesNobody (document : Document) : Prop where
  passed : PassedOver document
  noText : ¬document.IsText
  noTexts : ¬document.IsTexts

/-- The members of a record of claims say these claims. -/
structure Says (members : List Member) (claims : SessionClaims) : Prop where
  spelled : allSpelled members = true
  subject : GivesText members "sub" claims.subject
  email : GivesText members "email" claims.email
  name : GivesText members "name" claims.name
  issuedAt : GivesSecond members "iat" claims.issuedAt
  expiry : GivesSecond members "exp" claims.expiry
  start : MayHave members "nbf" PassedStart
  issuer : MayHave members "iss" PassedOver
  audience : MayHave members "aud" NamesNobody

theorem gives_silent_text {members : List Member} {key : String} {value : Option String} :
    Json.Field.Gives ⟨key, Form.text.nullable, .silent none Option.isNone⟩ members value ↔
      GivesText members key value := by
  constructor
  · rintro (⟨document, named, read⟩ | ⟨unnamed, missing⟩)
    · rcases Form.nullable_read_eq_ok.mp read with ⟨rfl, rfl⟩ | ⟨-, text, given, rfl⟩
      · exact .null named
      · exact .text named (Document.readText_eq_ok.mp given)
    · obtain rfl := Except.ok.inj missing
      exact .absent unnamed
  · intro gives
    cases gives with
    | absent unnamed => exact .inr ⟨unnamed, rfl⟩
    | null named => exact .inl ⟨.null, named, rfl⟩
    | @text document text named spelled =>
        refine .inl ⟨document, named, Form.nullable_read_eq_ok.mpr (.inr ⟨?_, text, ?_, rfl⟩)⟩
        · rintro rfl
          obtain ⟨spelling, same, -⟩ := spelled
          cases same
        · exact Document.readText_eq_ok.mpr spelled

theorem gives_required_second {members : List Member} {key : String} {value : Int} :
    Json.Field.Gives ⟨key, SessionClaims.secondForm, .required⟩ members value ↔
      GivesSecond members key value := by
  constructor
  · rintro (⟨document, named, read⟩ | ⟨-, missing⟩)
    · obtain ⟨numeral, rfl, whole, bounded⟩ := Document.readInt_eq_ok.mp read
      exact ⟨numeral, named, whole, bounded⟩
    · cases missing
  · rintro ⟨numeral, named, whole, bounded⟩
    exact .inl ⟨_, named, Document.readInt_eq_ok.mpr ⟨numeral, rfl, whole, bounded⟩⟩

theorem claimsForm_read_record {members : List Member} {claims : SessionClaims} :
    SessionClaims.form.read (.record members true) = .ok claims ↔
      allSpelled members = true ∧ GivesText members "sub" claims.subject ∧
        GivesText members "email" claims.email ∧ GivesText members "name" claims.name ∧
        GivesSecond members "iat" claims.issuedAt ∧ GivesSecond members "exp" claims.expiry := by
  have opened : SessionClaims.form.read (.record members true) = .ok claims ↔ _ :=
    Form.record_read_eq_ok (by decide)
  rw [opened]
  simp only [← gives_silent_text, ← gives_required_second]
  refine and_congr_right fun _ => ⟨?_, ?_⟩
  · rintro ⟨⟨subject, email, name, issuedAt, expiry, _⟩, gives, rfl⟩
    obtain ⟨subject, email, name, issuedAt, expiry, -⟩ := gives
    exact ⟨subject, email, name, issuedAt, expiry⟩
  · rintro ⟨subject, email, name, issuedAt, expiry⟩
    exact ⟨⟨_, _, _, _, _, ()⟩, ⟨subject, email, name, issuedAt, expiry, trivial⟩, rfl⟩

/-! ## Registered claims -/

theorem claimPasses_iff {members : List Member} {key : String} {test : Document → Bool}
    {kind : Document → Prop} (tests : ∀ document, test document = true ↔ kind document) :
    claimPasses members key test = true ↔ MayHave members key kind := by
  rw [claimPasses, MayHave, MustHave]
  rcases membersNamed members key with _ | ⟨document, _ | ⟨another, rest⟩⟩
  · simp
  · simp [tests]
  · simp

theorem isHarmlessIssuer_iff (document : Document) :
    isHarmlessIssuer document = true ↔ PassedOver document := by
  rw [isHarmlessIssuer, bne_iff_ne, PassedOver]

theorem isHarmlessStart_iff (document : Document) :
    isHarmlessStart document = true ↔ PassedStart document := by
  have plain (noList : ∀ items whole, document ≠ .list items whole)
      (noRecord : ∀ members whole, document ≠ .record members whole) :
      PassedOver document ↔ PassedStart document := by
    refine ⟨.plain noList noRecord, fun start => ?_⟩
    cases start with
    | list whole => exact absurd rfl (noList [] whole)
    | record whole => exact absurd rfl (noRecord [] whole)
    | plain _ _ passed => exact passed
  cases document with
  | list items whole =>
      refine List.isEmpty_iff.trans ⟨fun empty => empty ▸ .list whole, fun start => ?_⟩
      cases start with
      | list => rfl
      | plain noList => exact absurd rfl (noList items whole)
  | record members whole =>
      refine List.isEmpty_iff.trans ⟨fun empty => empty ▸ .record whole, fun start => ?_⟩
      cases start with
      | record => rfl
      | plain _ noRecord => exact absurd rfl (noRecord members whole)
  | _ => exact (isHarmlessIssuer_iff _).trans (plain (by simp) (by simp))

theorem namesAudience_iff {document : Document}
    (sound : Json.Ending.ofDocument nestingLimit document = .sound) :
    namesAudience document = true ↔ document.IsText ∨ document.IsTexts := by
  have spelled {spelling : Json.Spelling} {depth : Nat}
      (sound : Json.Ending.ofDocument depth (.text spelling) = .sound) :
      (Document.text spelling).IsText := by
    rw [Json.Ending.ofDocument] at sound
    obtain ⟨text, read⟩ :=
      Option.isSome_iff_exists.mp (Json.Ending.ofSpelling_eq_sound.mp sound)
    exact ⟨text, spelling, rfl, read⟩
  cases document with
  | text spelling => exact ⟨fun _ => .inl (spelled sound), fun _ => rfl⟩
  | list items whole =>
      cases whole with
      | false => cases sound
      | true =>
          have sound := Json.Ending.ofDocument_list_eq_sound.mp sound
          constructor
          · intro named
            refine .inr ⟨items, rfl, fun item member => ?_⟩
            have isText := List.all_eq_true.mp named item member
            have sound := sound item member
            cases item with
            | text spelling => exact spelled sound
            | _ => cases isText
          · rintro (⟨text, spelling, same, -⟩ | ⟨items, same, texts⟩)
            · cases same
            · cases same
              refine List.all_eq_true.mpr fun item member => ?_
              obtain ⟨text, spelling, rfl, -⟩ := texts item member
              rfl
  | _ => simp [namesAudience, Document.IsText, Document.IsTexts, Document.Spells]

theorem ofDocument_of_names {document : Document} (names : document.IsText ∨ document.IsTexts) :
    Json.Ending.ofDocument nestingLimit document = .sound := by
  rcases names with isText | ⟨items, rfl, texts⟩
  · exact Json.Ending.ofDocument_of_isText isText nestingLimit
  · exact Json.Ending.ofDocument_list_eq_sound.mpr fun item member =>
      Json.Ending.ofDocument_of_isText (texts item member) _

theorem isHarmlessAudience_iff (document : Document) :
    isHarmlessAudience document = true ↔ NamesNobody document := by
  rw [isHarmlessAudience]
  cases ending : Json.Ending.ofDocument nestingLimit document with
  | sound =>
      have names := namesAudience_iff ending
      have passed : PassedOver document := by simp [PassedOver, ending]
      rw [Bool.not_eq_true', Bool.eq_false_iff, Ne, names, not_or]
      exact ⟨fun ⟨noText, noTexts⟩ => ⟨passed, noText, noTexts⟩,
        fun nobody => ⟨nobody.noText, nobody.noTexts⟩⟩
  | passed =>
      have faulty : ¬(document.IsText ∨ document.IsTexts) := by
        intro names
        rw [ofDocument_of_names names] at ending
        cases ending
      obtain ⟨noText, noTexts⟩ := not_or.mp faulty
      exact iff_of_true rfl ⟨by simp [PassedOver, ending], noText, noTexts⟩
  | lost => exact iff_of_false Bool.false_ne_true fun nobody => nobody.passed ending

theorem acceptsRegistered_record {members : List Member} :
    acceptsRegistered (.record members true) = true ↔
      MayHave members "nbf" PassedStart ∧ MayHave members "iss" PassedOver ∧
        MayHave members "aud" NamesNobody := by
  simp only [acceptsRegistered, recordMembers?, Bool.and_eq_true, and_assoc,
    claimPasses_iff isHarmlessStart_iff, claimPasses_iff isHarmlessIssuer_iff,
    claimPasses_iff isHarmlessAudience_iff]

theorem says_iff {members : List Member} {claims : SessionClaims} :
    Says members claims ↔
      SessionClaims.form.read (.record members true) = .ok claims ∧
        acceptsRegistered (.record members true) = true := by
  rw [claimsForm_read_record, acceptsRegistered_record]
  constructor
  · rintro ⟨spelled, subject, email, name, issuedAt, expiry, start, issuer, audience⟩
    exact ⟨⟨spelled, subject, email, name, issuedAt, expiry⟩, start, issuer, audience⟩
  · rintro ⟨⟨spelled, subject, email, name, issuedAt, expiry⟩, start, issuer, audience⟩
    exact ⟨spelled, subject, email, name, issuedAt, expiry, start, issuer, audience⟩

theorem readClaims?_encode {octets : Octets} {claims : SessionClaims} :
    readClaims? (Base64url.encode octets) = some claims ↔
      SessionClaims.form.ofOctets octets = .ok claims ∧
        acceptsRegistered (Json.read octets).document = true := by
  rw [readClaims?, Base64url.decode_encode]
  change ((SessionClaims.form.ofOctets octets).toOption.bind fun claims =>
    if acceptsRegistered (Json.read octets).document then some claims else none) = _ ↔ _
  cases SessionClaims.form.ofOctets octets with
  | error fault => simp [Except.toOption]
  | ok read => cases acceptsRegistered (Json.read octets).document <;> simp [Except.toOption]

/-- Claims are read from the one written form of a record that says them. -/
theorem readClaims?_eq_some {payload : Octets} {claims : SessionClaims} :
    readClaims? payload = some claims ↔
      ∃ octets members, payload = Base64url.encode octets ∧
        Json.read octets = ⟨.record members true, true⟩ ∧ Says members claims := by
  constructor
  · intro read
    obtain ⟨octets, decoded, -⟩ := Option.bind_eq_some_iff.mp read
    obtain rfl := Base64url.decode_eq_some_iff.mp decoded
    obtain ⟨given, accepts⟩ := readClaims?_encode.mp read
    obtain ⟨clean, given⟩ := Form.ofOctets_eq_ok.mp given
    cases reading : Json.read octets with
    | mk document whole =>
        rw [reading] at clean given accepts
        obtain rfl : whole = true := clean
        cases document with
        | record members whole =>
            cases whole with
            | true => exact ⟨octets, members, rfl, reading, says_iff.mpr ⟨given, accepts⟩⟩
            | false => cases accepts
        | _ => cases accepts
  · rintro ⟨octets, members, rfl, reading, said⟩
    obtain ⟨given, accepts⟩ := says_iff.mp said
    rw [readClaims?_encode, Form.ofOctets_eq_ok, reading]
    exact ⟨⟨rfl, given⟩, accepts⟩

end Session

end Carpool
