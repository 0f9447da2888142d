import Carpool.Proofs.Session.Contents

/-!
# Live tokens

A token is accepted exactly when it is live: written in its one form, signed with
the secret, in order in header and claims, and not expired.  Its subject is looked
at last.
-/

namespace Carpool

namespace Session

open Json (Document Member)

/-- A token of a header and a payload, signed with a secret. -/
def IsSigned (secret token header payload : Octets) : Prop :=
  let message := Base64url.encode header ++ dot :: Base64url.encode payload
  token = message ++ dot :: Base64url.encode (Hmac.code secret message)

/-- A token that is good at a time, and what it says. -/
structure LiveToken (secret : Octets) (now : Instant) (token : String) (claims : SessionClaims) :
    Prop where
  contents : ∃ header payload members, IsSigned secret (Octets.ofText token) header payload ∧
    (Json.read header).clean = true ∧ HeaderInForm (Json.read header).document ∧
    Json.read payload = ⟨.record members true, true⟩ ∧ Says members claims
  nonnegative : 0 ≤ claims.expiry
  unexpired : now.second ≤ claims.expiry

/-- The subject of claims is absent or empty. -/
def Subjectless (claims : SessionClaims) : Prop :=
  claims.subject = none ∨ claims.subject = some ""

/-- Claims establish an identity: their subject is the text of its identifier,
and their email is its own, unless it is empty. -/
structure Establish (claims : SessionClaims) (identity : Identity) : Prop where
  subject : ∃ text, claims.subject = some text ∧ text ≠ "" ∧
    Uuid.ofText? text = some identity.subject
  email : ∀ text, identity.email = some text ↔ claims.email = some text ∧ text ≠ ""

variable {secret : Octets} {now : Instant} {token : String} {claims : SessionClaims}

theorem verify?_eq_some {octets : Octets} :
    verify? secret octets = some claims ↔
      ∃ header payload members, IsSigned secret octets header payload ∧
        (Json.read header).clean = true ∧ HeaderInForm (Json.read header).document ∧
        Json.read payload = ⟨.record members true, true⟩ ∧ Says members claims := by
  constructor
  · intro verified
    obtain ⟨⟨message, mark⟩, split, parted⟩ := Option.bind_eq_some_iff.mp verified
    obtain ⟨⟨first, second⟩, splitMessage, tested⟩ := Option.bind_eq_some_iff.mp parted
    dsimp only at tested
    split at tested
    · rename_i passed
      obtain ⟨accepted, marked⟩ := Bool.and_eq_true_iff.mp passed
      obtain ⟨joined, -⟩ := splitLast?_eq_some.mp split
      obtain ⟨rfl, -⟩ := splitLast?_eq_some.mp splitMessage
      obtain ⟨header, rfl, clean, form⟩ := acceptsHeader_iff.mp accepted
      obtain ⟨payload, members, rfl, reading, said⟩ := readClaims?_eq_some.mp tested
      refine ⟨header, payload, members, ?_, clean, form, reading, said⟩
      rw [joined, eq_of_beq marked]
      rfl
    · cases tested
  · rintro ⟨header, payload, members, rfl, clean, form, reading, said⟩
    have accepted := acceptsHeader_iff.mpr ⟨header, rfl, clean, form⟩
    have read := readClaims?_eq_some.mpr ⟨payload, members, rfl, reading, said⟩
    rw [verify?, splitLast?_append (dot_not_mem_encode _)]
    simp only [Option.bind_eq_bind, Option.bind_some]
    rw [splitLast?_append (dot_not_mem_encode _)]
    simp only [Option.bind_some, accepted, signature, beq_self_eq_true, Bool.and_self, if_true,
      read]

theorem isLive_iff : claims.isLive now = true ↔ 0 ≤ claims.expiry ∧ now.second ≤ claims.expiry := by
  simp [SessionClaims.isLive]

/-- What a token comes to: either it is live, and its claims decide, or it is not. -/
theorem validate_of_live (live : LiveToken secret now token claims) :
    validate secret now token = identityOf claims := by
  have verified := verify?_eq_some.mpr live.contents
  simp only [validate, verified]
  exact if_pos (isLive_iff.mpr ⟨live.nonnegative, live.unexpired⟩)

theorem live_of_validate (answered : validate secret now token ≠ .error .invalidOrExpired) :
    ∃ claims, LiveToken secret now token claims := by
  rw [validate] at answered
  split at answered
  · exact absurd rfl answered
  · rename_i claims verified
    split at answered
    · rename_i live
      obtain ⟨nonnegative, unexpired⟩ := isLive_iff.mp live
      exact ⟨claims, verify?_eq_some.mp verified, nonnegative, unexpired⟩
    · exact absurd rfl answered

theorem LiveToken.unique {others : SessionClaims} (live : LiveToken secret now token claims)
    (liveToo : LiveToken secret now token others) : claims = others := by
  have verified := verify?_eq_some.mpr live.contents
  rw [verify?_eq_some.mpr liveToo.contents] at verified
  exact (Option.some.inj verified).symm

/-! ## What claims come to -/

theorem filter_nonempty {given : Option String} {text : String} :
    (given.filter fun text => !text.isEmpty) = some text ↔ given = some text ∧ text ≠ "" := by
  simp [Option.filter_eq_some_iff]

theorem givenSubject?_eq_none : claims.givenSubject? = none ↔ Subjectless claims := by
  rw [SessionClaims.givenSubject?, Subjectless]
  cases claims.subject <;> simp [Option.filter]

theorem identityOf_eq_missingSubject :
    identityOf claims = .error .missingSubject ↔ Subjectless claims := by
  rw [← givenSubject?_eq_none, identityOf]
  cases claims.givenSubject? with
  | none => simp
  | some subject => cases parsed : Uuid.ofText? subject <;> simp [parsed]

theorem identityOf_eq_ok {identity : Identity} :
    identityOf claims = .ok identity ↔ Establish claims identity := by
  constructor
  · intro established
    rw [identityOf] at established
    split at established
    · cases established
    · rename_i subject given
      obtain ⟨given, nonempty⟩ := filter_nonempty.mp given
      split at established
      · cases established
      · rename_i uuid parsed
        obtain rfl := Except.ok.inj established
        exact ⟨⟨subject, given, nonempty, parsed⟩, fun text => filter_nonempty⟩
  · rintro ⟨⟨subject, given, nonempty, parsed⟩, email⟩
    have given : claims.givenSubject? = some subject := filter_nonempty.mpr ⟨given, nonempty⟩
    have emails : identity.email = claims.email.filter fun text => !text.isEmpty := by
      refine Option.ext fun text => ?_
      rw [email, filter_nonempty]
    simp only [identityOf, given, parsed, Identity.ofSubject, ← emails]

/-! ## All tokens -/

theorem ofText_injective : Function.Injective Octets.ofText := by
  intro first second same
  exact String.toByteArray_inj.mp (ByteArray.ext (Array.toList_inj.mp same))

/-- Of all tokens exactly the live ones are accepted, and two of them differ in
more than their signatures. -/
structure AcceptsLive (secret : Octets) (now : Instant) (token : String) : Prop where
  accepted : ∀ identity, validate secret now token = .ok identity ↔
    ∃ claims, LiveToken secret now token claims ∧ Establish claims identity
  subjectless : validate secret now token = .error .missingSubject ↔
    ∃ claims, LiveToken secret now token claims ∧ Subjectless claims
  refused : validate secret now token = .error .invalidOrExpired ↔
    ∀ claims, LiveToken secret now token claims →
      ¬Subjectless claims ∧ ∀ identity, ¬Establish claims identity
  oneMark : ∀ other later identity identityToo message mark markToo,
    validate secret now token = .ok identity → validate secret later other = .ok identityToo →
    Octets.ofText token = message ++ dot :: mark → dot ∉ mark →
    Octets.ofText other = message ++ dot :: markToo → dot ∉ markToo → token = other
  oneAlgorithm : ∀ header rest members document name,
    Octets.ofText token = Base64url.encode header ++ dot :: rest →
    (Json.read header).document = .record members true →
    membersNamed members "alg" = [document] → document.Spells name → name ≠ algorithm →
    validate secret now token = .error .invalidOrExpired

/-- The signature of a live token is that of its message. -/
theorem LiveToken.mark_eq {message mark : Octets} (live : LiveToken secret now token claims)
    (parted : Octets.ofText token = message ++ dot :: mark) (free : dot ∉ mark) :
    mark = signature secret message := by
  obtain ⟨header, payload, members, signed, -⟩ := live.contents
  rw [parted] at signed
  obtain ⟨rfl, rfl⟩ := last_dot_inj free (dot_not_mem_encode _) signed
  rfl

theorem NamesAlgorithm.spells {document : Document} {name : String}
    (names : NamesAlgorithm document) (spells : document.Spells name) : name = algorithm := by
  obtain ⟨spelling, rfl, read⟩ := spells
  cases names with
  | name spelled =>
      rw [spelled] at read
      exact (Option.some.inj read).symm

theorem LiveToken.algorithm_eq {header rest : Octets} {members : List Member}
    {document : Document} {name : String} (live : LiveToken secret now token claims)
    (parted : Octets.ofText token = Base64url.encode header ++ dot :: rest)
    (record : (Json.read header).document = .record members true)
    (named : membersNamed members "alg" = [document]) (spells : document.Spells name) :
    name = algorithm := by
  obtain ⟨other, payload, _, signed, -, form, -⟩ := live.contents
  rw [parted, IsSigned, List.append_assoc] at signed
  obtain rfl := Base64url.encode_injective
    (first_dot_inj (dot_not_mem_encode _) (dot_not_mem_encode _) signed)
  rw [record] at form
  obtain ⟨-, -, kinds⟩ := form
  have kind := kinds ("alg", NamesAlgorithm) (by simp [headerMembers])
  rcases kind with unnamed | ⟨again, namedToo, names⟩
  · simp [named] at unnamed
  · obtain rfl : document = again := by simpa [named] using namedToo
    exact names.spells spells

/-- Of the answers to a token, all but a refusal come from the claims of a live
one. -/
theorem validate_eq_iff {answer : Except AuthError Identity}
    (informed : answer ≠ .error .invalidOrExpired) :
    validate secret now token = answer ↔
      ∃ claims, LiveToken secret now token claims ∧ identityOf claims = answer := by
  constructor
  · rintro rfl
    obtain ⟨claims, live⟩ := live_of_validate informed
    exact ⟨claims, live, (validate_of_live live).symm⟩
  · rintro ⟨claims, live, rfl⟩
    exact validate_of_live live

theorem identityOf_eq_invalidOrExpired :
    identityOf claims = .error .invalidOrExpired ↔
      ¬Subjectless claims ∧ ∀ identity, ¬Establish claims identity := by
  rw [← identityOf_eq_missingSubject]
  simp only [← identityOf_eq_ok]
  rcases identityOf claims with (_ | _) | identity <;> simp

theorem live_tokens_accepted (secret : Octets) (now : Instant) (token : String) :
    AcceptsLive secret now token where
  accepted identity := by
    simp only [← identityOf_eq_ok]
    exact validate_eq_iff (by simp)
  subjectless := by
    simp only [← identityOf_eq_missingSubject]
    exact validate_eq_iff (by simp)
  refused := by
    simp only [← identityOf_eq_invalidOrExpired]
    refine ⟨fun refused claims live => (validate_of_live live).symm.trans refused, fun all => ?_⟩
    by_contra answered
    obtain ⟨claims, live⟩ := live_of_validate answered
    exact answered ((validate_of_live live).trans (all claims live))
  oneMark other later identity identityToo message mark markToo accepted acceptedToo parted free
      partedToo freeToo := by
    obtain ⟨claims, live, -⟩ := (validate_eq_iff (by simp)).mp accepted
    obtain ⟨claimsToo, liveToo, -⟩ := (validate_eq_iff (by simp)).mp acceptedToo
    apply ofText_injective
    rw [parted, partedToo, live.mark_eq parted free, liveToo.mark_eq partedToo freeToo]
  oneAlgorithm header rest members document name parted record named spells other := by
    by_contra answered
    obtain ⟨claims, live⟩ := live_of_validate answered
    exact other (live.algorithm_eq parted record named spells)

/-! ## A token that is refused for its start of validity -/

/-- A token of the secret `secret` whose start of validity is a list of a number. -/
def listedStart : String :=
  "eyJ0eXAiOiJKV1QiLCJhbGciOiJIUzI1NiJ9." ++
    "eyJzdWIiOiJhMWIyYzNkNC1lNWY2LTQ3MTEtODg5OS1hYWJiY2NkZGVlZmYiLCJpYXQiOjAsImV4cCI6" ++
    "MzI1MDM2ODAwMDAsIm5iZiI6WzFdfQ." ++
    "mOu6ZQ-CquIMZlxczKBwGzYoadzxi6Uepqe_DU9sHjY"

def listedMembers : List Member :=
  [("sub", .ofText "a1b2c3d4-e5f6-4711-8899-aabbccddeeff"), ("iat", .ofInt 0),
    ("exp", .ofInt 32503680000), ("nbf", .ofItems [.ofInt 1])].map
      fun (key, value) => (Json.Spelling.ofText key, value)

def listedClaims : SessionClaims :=
  ⟨some "a1b2c3d4-e5f6-4711-8899-aabbccddeeff", none, none, 0, 32503680000⟩

/-- Such a token is refused, although it is signed, its header is in order, and its
claims establish an identity, have not expired and name no audience. -/
theorem listed_start_refused :
    ∃ header payload identity,
      IsSigned (Octets.ofText "secret") (Octets.ofText listedStart) header payload ∧
      Json.read header = ⟨issuedHeader, true⟩ ∧ HeaderInForm issuedHeader ∧
      Json.read payload = ⟨.record listedMembers true, true⟩ ∧
      SessionClaims.form.read (.record listedMembers true) = .ok listedClaims ∧
      (listedMembers.map Prod.fst).Nodup ∧ membersNamed listedMembers "aud" = [] ∧
      0 ≤ listedClaims.expiry ∧ Instant.epoch.second ≤ listedClaims.expiry ∧
      Establish listedClaims identity ∧
      validate (Octets.ofText "secret") .epoch listedStart = .error .invalidOrExpired := by
  have parsed : (Uuid.ofText? "a1b2c3d4-e5f6-4711-8899-aabbccddeeff").isSome := by decide +kernel
  obtain ⟨uuid, parsed⟩ := Option.isSome_iff_exists.mp parsed
  refine ⟨issuedHeader.print, (Document.record listedMembers true).print, ⟨uuid, none⟩, ?_, rfl,
    headerForm_reads.mp ⟨(), rfl⟩, rfl, rfl, by decide +kernel, by decide +kernel, by decide,
    by decide, ⟨⟨_, rfl, by decide, parsed⟩, by simp [listedClaims]⟩, by decide +kernel⟩
  unfold IsSigned
  decide +kernel

end Session

end Carpool
