import Carpool.Proofs.Json.RoundTrips
import Carpool.Proofs.LiveTokens
import Carpool.Proofs.Uuid

/-!
# Tokens of one's own

Whatever claims a token is signed with, it comes to what they say: validating
undoes signing.  A token that was issued to a user establishes that user until it
expires, and nothing under a secret that signs it differently.
-/

namespace Carpool

/-- The times are whole numbers of sixty-four bits. -/
structure SessionClaims.FitsWords (claims : SessionClaims) : Prop where
  issuedAt : Session.IsWord claims.issuedAt
  expiry : Session.IsWord claims.expiry

namespace Session

open Json (Form)

/-- What a token that says some claims comes to at a time. -/
inductive Outcome (claims : SessionClaims) (now : Instant) : Except AuthError Identity → Prop
  | expired (late : claims.expiry < now.second) : Outcome claims now (.error .invalidOrExpired)
  | subjectless (live : now.second ≤ claims.expiry) (lacking : Subjectless claims) :
      Outcome claims now (.error .missingSubject)
  | strange {text : String} (live : now.second ≤ claims.expiry)
      (given : claims.subject = some text) (nonempty : text ≠ "")
      (other : Uuid.ofText? text = none) : Outcome claims now (.error .invalidOrExpired)
  | known {identity : Identity} (live : now.second ≤ claims.expiry)
      (established : Establish claims identity) : Outcome claims now (.ok identity)

/-- Who a user is; an empty email counts as none. -/
def identityOfUser (user : User) : Identity where
  subject := user.userId
  email := if user.email = "" then none else some user.email

/-- The claims of a user's session that lasts until some second. -/
def userClaims (user : User) (start : Instant) (last : Int) : SessionClaims :=
  ⟨some user.userId.text, some user.email, some user.name, start.second, last⟩

/-- A token establishes an identity up to and including a second. -/
structure EstablishesUntil (secret : Octets) (token : String) (identity : Identity) (last : Int) :
    Prop where
  live : ∀ now : Instant, 0 ≤ now.second → now.second ≤ last →
    validate secret now token = .ok identity
  expired : ∀ now : Instant, 0 ≤ now.second → last < now.second →
    validate secret now token = .error .invalidOrExpired

/-- Signing with a secret and validating undo each other. -/
structure RoundTrips (secret : Octets) : Prop where
  signed : ∀ claims now, claims.FitsWords → 0 ≤ now.second →
    Outcome claims now (validate secret now (sign secret claims))
  issued : ∀ (user : User) (hours : UInt32) (start : Instant), 0 ≤ start.second →
    start.second + 3600 * hours.toNat ≤ Instant.lastSecond →
      ∃ token, issue? secret user hours start = some token ∧
        EstablishesUntil secret token (identityOfUser user) (start.second + 3600 * hours.toNat)
  lasting : ∀ (user : User) (start : Instant) (last : Int), IsWord last →
    EstablishesUntil secret (sign secret (userClaims user start last)) (identityOfUser user) last
  foreign : ∀ other claims now,
    Hmac.code other (signedPart claims) ≠ Hmac.code secret (signedPart claims) →
      validate other now (sign secret claims) = .error .invalidOrExpired

variable {secret : Octets} {now : Instant} {claims : SessionClaims}

/-! ## Claims in writing -/

theorem claimsForm_keeps (fits : claims.FitsWords) : SessionClaims.form.Keeps claims := by
  refine Form.record_keeps (by decide) rfl ⟨?_, ?_, ?_, ?_, ?_, trivial⟩
  · exact .silent (Form.nullable_text_keeps claims.subject)
  · exact .silent (Form.nullable_text_keeps claims.email)
  · exact .silent (Form.nullable_text_keeps claims.name)
  · exact .required (Form.int_keeps fits.issuedAt)
  · exact .required (Form.int_keeps fits.expiry)

/-- Claims are written as a record that says them. -/
theorem exists_says (fits : claims.FitsWords) :
    ∃ members, Json.read (SessionClaims.form.toOctets claims) = ⟨.record members true, true⟩ ∧
      Says members claims := by
  have keeps := claimsForm_keeps fits
  have written : (SessionClaims.form.write claims).asRead = _ := Form.record_write_asRead _ _ _ _
  have read := keeps.read
  rw [written] at read
  refine ⟨_, ?_, says_iff.mpr ⟨read, acceptsRegistered_record.mpr ?_⟩⟩
  · rw [Form.toOctets, Json.read_print keeps.whole, written]
  · refine ⟨.inl ?_, .inl ?_, .inl ?_⟩ <;> exact Json.Schema.members_unnamed _ _ (by decide)

/-! ## Signed octets -/

theorem ascii_of_mem_encode {octets : Octets} :
    ∀ octet ∈ Base64url.encode octets, octet.toNat < 128 :=
  fun _ member => (Base64url.of_mem_encode member).1

/-- The text of a token stands for its octets. -/
theorem ofText_sign : Octets.ofText (sign secret claims) = signOctets secret claims := by
  refine ofText_asciiText ?_
  have separator : dot.toNat < 128 := by decide
  simp only [signOctets, signedPart, signature, List.forall_mem_append, List.forall_mem_cons]
  exact ⟨⟨ascii_of_mem_encode, separator, ascii_of_mem_encode⟩, separator, ascii_of_mem_encode⟩

theorem verify?_sign (fits : claims.FitsWords) :
    verify? secret (Octets.ofText (sign secret claims)) = some claims := by
  obtain ⟨members, reading, said⟩ := exists_says fits
  have header : Json.read issuedHeader.print = ⟨issuedHeader, true⟩ := rfl
  refine verify?_eq_some.mpr
    ⟨issuedHeader.print, _, members, ofText_sign, congrArg Json.Reading.clean header, ?_,
      reading, said⟩
  rw [header]
  exact headerForm_reads.mp ⟨(), rfl⟩

theorem validate_sign (fits : claims.FitsWords) :
    validate secret now (sign secret claims) =
      if claims.isLive now then identityOf claims else .error .invalidOrExpired := by
  simp only [validate, verify?_sign fits]

/-- Under another secret a token needs another signature. -/
theorem validate_foreign {other : Octets}
    (differs : Hmac.code other (signedPart claims) ≠ Hmac.code secret (signedPart claims)) :
    validate other now (sign secret claims) = .error .invalidOrExpired := by
  by_contra answered
  obtain ⟨_, live⟩ := live_of_validate answered
  have mark : signature secret (signedPart claims) = signature other (signedPart claims) :=
    live.mark_eq ofText_sign (dot_not_mem_encode _)
  exact differs (Base64url.encode_injective mark).symm

/-! ## What claims come to in time -/

theorem strange_subject (strange : identityOf claims = .error .invalidOrExpired) :
    ∃ text, claims.subject = some text ∧ text ≠ "" ∧ Uuid.ofText? text = none := by
  rw [identityOf] at strange
  split at strange
  · cases strange
  · rename_i text given
    obtain ⟨given, nonempty⟩ := filter_nonempty.mp given
    split at strange
    · exact ⟨text, given, nonempty, ‹_›⟩
    · cases strange

/-- A clock that shows no time before 1970 makes a negative expiry a past one. -/
theorem isLive_iff_of_nonnegative (nonnegative : 0 ≤ now.second) :
    claims.isLive now = true ↔ now.second ≤ claims.expiry := by
  rw [isLive_iff]
  omega

theorem outcome_of_claims (nonnegative : 0 ≤ now.second) :
    Outcome claims now
      (if claims.isLive now then identityOf claims else .error .invalidOrExpired) := by
  by_cases live : now.second ≤ claims.expiry
  · rw [if_pos ((isLive_iff_of_nonnegative nonnegative).mpr live)]
    cases answer : identityOf claims with
    | ok identity => exact .known live (identityOf_eq_ok.mp answer)
    | error fault =>
        cases fault with
        | missingSubject => exact .subjectless live (identityOf_eq_missingSubject.mp answer)
        | invalidOrExpired =>
            obtain ⟨text, given, nonempty, other⟩ := strange_subject answer
            exact .strange live given nonempty other
  · rw [if_neg (mt (isLive_iff_of_nonnegative nonnegative).mp live)]
    exact .expired (by omega)

/-! ## Issued tokens -/

theorem uuid_text_ne_empty (uuid : Uuid) : uuid.text ≠ "" := by
  intro empty
  have parsed := uuid.ofText?_text
  rw [empty] at parsed
  cases parsed

theorem userClaims_establish (user : User) (start : Instant) (last : Int) :
    Establish (userClaims user start last) (identityOfUser user) where
  subject := ⟨_, rfl, uuid_text_ne_empty user.userId, user.userId.ofText?_text⟩
  email text := by
    rw [userClaims, identityOfUser, Option.some.injEq]
    split
    · rename_i empty
      refine iff_of_false nofun fun ⟨same, nonempty⟩ => nonempty ?_
      rw [← same, empty]
    · rename_i nonempty
      rw [Option.some.injEq]
      exact ⟨fun same => ⟨same, same ▸ nonempty⟩, And.left⟩

theorem ofUser?_eq_some (user : User) (hours : UInt32) {start : Instant}
    (nonnegative : 0 ≤ start.second)
    (representable : start.second + 3600 * hours.toNat ≤ Instant.lastSecond) :
    SessionClaims.ofUser? user hours start =
      some (userClaims user start (start.second + 3600 * hours.toNat)) := by
  have first : Instant.firstSecond ≤ start.second + 3600 * hours.toNat := by
    rw [Instant.firstSecond]
    omega
  rw [SessionClaims.ofUser?, Instant.make?, dif_pos ⟨first, representable, by decide, nofun⟩]
  rfl

theorem userClaims_fitsWords {user : User} {start : Instant} {last : Int} (fits : IsWord last) :
    (userClaims user start last).FitsWords where
  issuedAt := by
    have first := start.first_le
    have final := start.le_last
    rw [Instant.firstSecond] at first
    rw [Instant.lastSecond] at final
    dsimp only [userClaims, IsWord]
    omega
  expiry := fits

theorem establishesUntil_sign (user : User) (start : Instant) {last : Int} (fits : IsWord last) :
    EstablishesUntil secret (sign secret (userClaims user start last)) (identityOfUser user)
      last where
  live now nonnegative live := by
    rw [validate_sign (userClaims_fitsWords fits),
      if_pos ((isLive_iff_of_nonnegative nonnegative).mpr live)]
    exact identityOf_eq_ok.mpr (userClaims_establish user start last)
  expired now nonnegative late := by
    rw [validate_sign (userClaims_fitsWords fits)]
    exact if_neg (mt (isLive_iff_of_nonnegative nonnegative).mp (Int.not_le.mpr late))

theorem signed_tokens_round_trip (secret : Octets) : RoundTrips secret where
  signed claims now fits nonnegative := by
    rw [validate_sign fits]
    exact outcome_of_claims nonnegative
  issued user hours start nonnegative representable := by
    have fits : IsWord (start.second + 3600 * hours.toNat) := by
      rw [Instant.lastSecond] at representable
      rw [IsWord]
      omega
    exact ⟨_, congrArg _ (ofUser?_eq_some user hours nonnegative representable),
      establishesUntil_sign user start fits⟩
  lasting user start last fits := establishesUntil_sign user start fits
  foreign _ _ _ differs := validate_foreign differs

/-- Claims with a quote, a backslash, controls and a character of two units, and
with the first and the last second. -/
def oddClaims : SessionClaims where
  subject := some "a1b2c3d4-e5f6-4711-8899-aabbccddeeff"
  email := some "\"\\\x00\n\x7f🚗"
  name := some ""
  issuedAt := -0x8000000000000000
  expiry := 0x7FFFFFFFFFFFFFFF

theorem odd_claims_round_trip :
    (∃ identity, Establish oddClaims identity ∧
      validate (Octets.ofText "secret") .epoch (sign (Octets.ofText "secret") oddClaims) =
        .ok identity) ∧
    validate (Octets.ofText "other") .epoch (sign (Octets.ofText "secret") oddClaims) =
      .error .invalidOrExpired ∧
    ∀ user, ∃ token, issue? (Octets.ofText "secret") user 24 .epoch = some token ∧
      EstablishesUntil (Octets.ofText "secret") token (identityOfUser user) 86400 := by
  have trips := signed_tokens_round_trip (Octets.ofText "secret")
  have fits : oddClaims.FitsWords := ⟨⟨by decide, by decide⟩, ⟨by decide, by decide⟩⟩
  have outcome := trips.signed oddClaims .epoch fits (by decide)
  have foreign := trips.foreign (Octets.ofText "other") oddClaims .epoch (by decide +kernel)
  refine ⟨?_, foreign, fun user => trips.issued user 24 .epoch (by decide) (by decide)⟩
  generalize validate (Octets.ofText "secret") .epoch _ = answer at outcome ⊢
  cases outcome with
  | expired late => exact absurd late (by decide)
  | subjectless _ lacking => exact absurd lacking (by simp [Subjectless, oddClaims])
  | strange _ given _ other =>
      obtain rfl := Option.some.inj given
      exact absurd other (by decide +kernel)
  | @known identity _ established => exact ⟨identity, established, rfl⟩

end Session

end Carpool
