import Carpool.Base64url
import Carpool.Digest.Hmac
import Carpool.Session.Claims
import Carpool.Session.Header

/-!
# Session tokens

A token is a header, claims and a signature, each in base64, with dots between
them.  The signature is the keyed hash of everything before the last dot.  A
token is accepted at a second when its parts are in form, its signature is that
of the server's secret, and it has not expired; only then is its subject looked
at.
-/

namespace Carpool

namespace Session

open Json (Document)

/-- Why a token is not accepted. -/
inductive AuthError
  | invalidOrExpired
  | missingSubject
  deriving DecidableEq

def AuthError.message : AuthError → String
  | .invalidOrExpired => "invalid or expired token"
  | .missingSubject => "token has no subject"

def dot : UInt8 := 46

def signature (secret message : Octets) : Octets :=
  Base64url.encode (Hmac.code secret message)

/-- The part of a token that is signed. -/
def signedPart (claims : SessionClaims) : Octets :=
  Base64url.encode issuedHeader.print
    ++ dot :: Base64url.encode (SessionClaims.form.toOctets claims)

/-- The octets of the token that says some claims. -/
def signOctets (secret : Octets) (claims : SessionClaims) : Octets :=
  let message := signedPart claims
  message ++ dot :: signature secret message

/-- The text of octets of the ASCII range. -/
def asciiText (octets : Octets) : String :=
  String.ofList (octets.map fun octet => Char.ofNat octet.toNat)

def sign (secret : Octets) (claims : SessionClaims) : String :=
  asciiText (signOctets secret claims)

/-- A token for a user's session that starts now and lasts some hours, if its
end can be represented. -/
def issue? (secret : Octets) (user : User) (hours : UInt32) (now : Instant) :
    Option String :=
  (SessionClaims.ofUser? user hours now).map (sign secret)

/-- What stands before and after the last dot. -/
def splitLast? (octets : Octets) : Option (Octets × Octets) :=
  let after := octets.reverse.takeWhile (· != dot)
  match octets.reverse.dropWhile (· != dot) with
  | [] => none
  | _ :: before => some (before.reverse, after.reverse)

/-- The members of a document that is a record. -/
def recordMembers? : Document → Option (List Json.Member)
  | .record members true => some members
  | _ => none

/-- A claim about the start of validity spoils a token when the reader is lost
in it.  Of a list or record it takes only the opening bracket, and then expects
it to close. -/
def isHarmlessStart : Document → Bool
  | .list items _ => items.isEmpty
  | .record members _ => members.isEmpty
  | document => Json.Ending.ofDocument nestingLimit document != .lost

/-- A claim about the issuer spoils a token when the reader is lost in it. -/
def isHarmlessIssuer (document : Document) : Bool :=
  Json.Ending.ofDocument nestingLimit document != .lost

/-- A claim that names an audience: a text, or a list of texts. -/
def namesAudience : Document → Bool
  | .text _ => true
  | .list items _ => items.all fun
      | .text _ => true
      | _ => false
  | _ => false

/-- A claim about the audience spoils a token when it names one and when the
reader is lost in it.  A faulty one names nobody. -/
def isHarmlessAudience (document : Document) : Bool :=
  match Json.Ending.ofDocument nestingLimit document with
  | .sound => !namesAudience document
  | .passed => true
  | .lost => false

/-- A claim that comes at most once and passes a test. -/
def claimPasses (members : List Json.Member) (key : String)
    (test : Document → Bool) : Bool :=
  match membersNamed members key with
  | [] => true
  | [document] => test document
  | _ => false

/-- The registered claims that are no session claims: the start of validity and
the issuer are ignored where they can be read past, an audience is not
accepted, and none may come twice. -/
def acceptsRegistered (document : Document) : Bool :=
  match recordMembers? document with
  | none => false
  | some members =>
      claimPasses members "nbf" isHarmlessStart
        && claimPasses members "iss" isHarmlessIssuer
        && claimPasses members "aud" isHarmlessAudience

/-- The claims in the middle part of a token. -/
def readClaims? (payload : Octets) : Option SessionClaims := do
  let octets ← Base64url.decode payload
  let claims ← (SessionClaims.form.ofOctets octets).toOption
  if acceptsRegistered (Json.read octets).document then some claims else none

/-- The header in the first part of a token is in form. -/
def acceptsHeader (header : Octets) : Bool :=
  match Base64url.decode header with
  | none => false
  | some octets => (headerForm.ofOctets octets).isOk

/-- The claims of a token whose form and signature are good. -/
def verify? (secret token : Octets) : Option SessionClaims := do
  let (message, mark) ← splitLast? token
  let (header, payload) ← splitLast? message
  if acceptsHeader header && mark == signature secret message then
    readClaims? payload
  else none

/-- The identity that accepted claims establish. -/
def identityOf (claims : SessionClaims) : Except AuthError Identity :=
  match claims.givenSubject? with
  | none => .error .missingSubject
  | some subject =>
      match Uuid.ofText? subject with
      | none => .error .invalidOrExpired
      | some uuid => .ok (.ofSubject uuid claims.email)

/-- The identity that a token establishes at a time. -/
def validate (secret : Octets) (now : Instant) (token : String) :
    Except AuthError Identity :=
  match verify? secret (Octets.ofText token) with
  | none => .error .invalidOrExpired
  | some claims =>
      if claims.isLive now then identityOf claims
      else .error .invalidOrExpired

end Session

end Carpool
