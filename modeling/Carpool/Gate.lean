import Carpool.Session.Token
import Carpool.Text.Blank

/-!
# The gate

Every call but those to public methods must carry exactly one authorization
header, of the word `Bearer` and a session token that is accepted.  The gate
tells who the caller is; nothing behind it trusts anything else.
-/

namespace Carpool

open Session (AuthError)

/-- Why the gate turns a call away. -/
inductive GateError
  | missing
  | ambiguous
  | malformed
  | rejected (error : AuthError)
  deriving DecidableEq

def GateError.message : GateError → String
  | .missing => "missing authorization header"
  | .ambiguous => "more than one authorization header"
  | .malformed => "authorization header must be `Bearer <token>`"
  | .rejected error => error.message

namespace Gate

/-- The octets that a header may show: visible ones, the space and the tab. -/
def isVisible (octet : UInt8) : Bool :=
  (32 ≤ octet && octet ≤ 126) || octet == 9

/-- The characters of a header value that shows nothing else than visible
characters, spaces and tabs. -/
def visibleChars? (value : Octets) : Option (List Char) :=
  if value.all isVisible then
    some (value.map fun octet => Char.ofNat octet.toNat)
  else none

/-- The word before the token, in any case. -/
def isBearer (word : List Char) : Bool :=
  word.map Char.toLower == ['b', 'e', 'a', 'r', 'e', 'r']

def bearerToken? (value : Octets) : Option String :=
  match (visibleChars? value).map Text.words with
  | some [scheme, token] =>
      if isBearer scheme then some (String.ofList token) else none
  | _ => none

/-- Who the caller is, by the values of the authorization header. -/
def identify (secret : Octets) (now : Instant) (values : List Octets) :
    Except GateError Identity :=
  match values with
  | [] => .error .missing
  | [value] =>
      match bearerToken? value with
      | none => .error .malformed
      | some token =>
          (Session.validate secret now token).mapError GateError.rejected
  | _ => .error .ambiguous

end Gate

end Carpool
