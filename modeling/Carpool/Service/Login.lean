import Carpool.Call
import Carpool.Login.Policy
import Carpool.Session.Token

/-!
# Logging in

A token of the identity provider is exchanged for a session token.  The first
login with an address creates the account.

A session has an end.  Where that end cannot be represented, the login breaks
off: it comes to nothing, neither to a session nor to a failure.
-/

namespace Carpool

namespace Login

/-- What a login needs to know about the service. -/
structure Settings where
  policy : LoginPolicy
  secret : Octets
  sessionHours : UInt32
  deriving DecidableEq

/-- A session: its token and the account that it is for. -/
structure Session where
  token : String
  user : User
  deriving DecidableEq

def introspect (idToken : String) : Attempt LoginError TokenInfo :=
  ExceptT.mk (.ask (.introspect idToken) fun reply => .done reply.read)

/-- The account for the address that the provider has verified, created if there
is none. -/
def account (info : TokenInfo) : Attempt LoginError User := do
  let email := Text.lower info.email
  let found ← Attempt.store .store (.findUserByEmail email)
  match found with
  | some user => pure user
  | none =>
      Attempt.store .store (.createUser {
        email
        name := info.name
        photoUrl := info.picture.filter fun text => !text.isEmpty })

/-- The session of a user that starts at some time, if it can be represented when
it ends. -/
def session? (settings : Settings) (user : User) (now : Instant) :
    Option Session :=
  (Session.issue? settings.secret user settings.sessionHours now).map
    fun token => ⟨token, user⟩

/-- Log in with a token of the identity provider.  A login without a session
has broken off. -/
def login (settings : Settings) (idToken : String) :
    Attempt LoginError (Option Session) := do
  let info ← introspect idToken
  let _ ← ExceptT.mk (pure (settings.policy.check info))
  let user ← account info
  let now ← Attempt.clock
  pure (session? settings user now)

end Login

end Carpool
