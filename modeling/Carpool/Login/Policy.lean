import Carpool.Login.Error
import Carpool.Login.TokenInfo
import Carpool.Text.Blank
import Carpool.Text.Lowercase

/-!
# Who may log in

Only tokens that were made for this service, with a verified email address in
one of the configured domains, are let in.
-/

namespace Carpool

/-- The client for which tokens must be made, and the domains of the addresses
that are let in. -/
structure LoginPolicy where
  clientId : String
  domains : List (List Char)
  deriving DecidableEq

namespace LoginPolicy

/-- A configured domain without blank ends and leading `@` signs, in lower
case. -/
def normalDomain (text : String) : List Char :=
  Text.lowerChars ((Text.trimBlank text.toList).dropWhile (· == '@'))

/-- The policy of a configuration.  Blank domains are passed over. -/
def ofConfig (clientId : String) (domains : List String) : LoginPolicy where
  clientId := clientId
  domains := (domains.map normalDomain).filter fun domain => !domain.isEmpty

/-- The address lies in one of the domains. -/
def allowsEmail (policy : LoginPolicy) (email : String) : Bool :=
  let lowered := Text.lowerChars email.toList
  policy.domains.any fun domain => ('@' :: domain).isSuffixOf lowered

/-- Check what the identity provider says about a token. -/
def check (policy : LoginPolicy) (info : TokenInfo) :
    Except LoginError Unit :=
  if info.audience ≠ policy.clientId then .error .invalidAudience
  else if info.emailVerified ≠ "true" then .error .emailNotVerified
  else if policy.allowsEmail info.email then .ok ()
  else .error .unauthorizedDomain

end LoginPolicy

def ProviderReply.read : ProviderReply → Except LoginError TokenInfo
  | .unreachable reason => .error (.introspection reason)
  | .answered status body =>
      if status / 100 = 2 then
        match TokenInfo.form.ofOctets body with
        | .ok info => .ok info
        | .error _ => .error (.introspection "no token information")
      else .error .invalidToken

end Carpool
