import Carpool.Session.Token
import Carpool.Store.Error

/-!
# Failures of logins

Why a login fails.  Some failures are about the token that was presented, and
the user is told; the others are about the service.
-/

namespace Carpool

open Session (AuthError)
open Store (StoreError)

/-- Why a login fails. -/
inductive LoginError
  | invalidToken
  | invalidAudience
  | emailNotVerified
  | unauthorizedDomain
  | introspection (reason : String)
  | store (error : StoreError)
  | session (error : AuthError)
  deriving DecidableEq

namespace LoginError

/-- The failure is about the presented token rather than about the service. -/
def isRejection : LoginError → Bool
  | .invalidToken | .invalidAudience | .emailNotVerified
  | .unauthorizedDomain => true
  | _ => false

def message : LoginError → String
  | .invalidToken => "invalid token"
  | .invalidAudience => "invalid audience"
  | .emailNotVerified => "email not verified"
  | .unauthorizedDomain => "unauthorized email domain"
  | .introspection reason => "token introspection failed: " ++ reason
  | .store error => "store error: " ++ error.message
  | .session error => error.message

end LoginError

end Carpool
