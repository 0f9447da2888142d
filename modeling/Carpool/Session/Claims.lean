import Carpool.Identity
import Carpool.User

/-!
# Session claims

What a session token says: whom it is about, when it was issued, and the last
second at which it is good.
-/

namespace Carpool

/-- What a session token says.  Times are whole seconds from the start of
1970. -/
structure SessionClaims where
  subject : Option String
  email : Option String
  name : Option String
  issuedAt : Int
  expiry : Int
  deriving DecidableEq

namespace SessionClaims

/-- Whole numbers of sixty-four bits with a sign. -/
def secondForm : Json.Form Int :=
  .int (-0x8000000000000000) 0x7FFFFFFFFFFFFFFF

/-- Claims as documents.  Texts that are absent are left out. -/
def form : Json.Form SessionClaims :=
  .record
    (.silent "sub" .text <|
      .silent "email" .text <|
      .silent "name" .text <|
      .required "iat" secondForm <|
      .required "exp" secondForm .nil)
    (fun (subject, email, name, issuedAt, expiry, _) =>
      ⟨subject, email, name, issuedAt, expiry⟩)
    (fun claims =>
      (claims.subject, claims.email, claims.name, claims.issuedAt,
        claims.expiry, ()))

/-- The claims for a user's session that lasts some hours.  There are none when
its end is not an instant that can be represented. -/
def ofUser? (user : User) (hours : UInt32) (now : Instant) :
    Option SessionClaims :=
  (Instant.make? (now.second + 3600 * hours.toNat) 0).map fun last =>
    { subject := some user.userId.text
      email := some user.email
      name := some user.name
      issuedAt := now.second
      expiry := last.second }

/-- The claims have not expired at a time. -/
def isLive (claims : SessionClaims) (now : Instant) : Bool :=
  0 ≤ claims.expiry && now.second ≤ claims.expiry

/-- The subject, unless it is absent or empty. -/
def givenSubject? (claims : SessionClaims) : Option String :=
  claims.subject.filter fun text => !text.isEmpty

end SessionClaims

end Carpool
