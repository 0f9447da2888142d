import Carpool.Json.Schema

/-!
# Token information

What the identity provider says about a token that a user presents at login,
and the answers that it can give when it is asked.
-/

namespace Carpool

/-- What the identity provider says about a token. -/
structure TokenInfo where
  audience : String
  email : String
  emailVerified : String
  name : String
  picture : Option String
  subject : String
  deriving DecidableEq

namespace TokenInfo

/-- Token information as documents.  All of it may be missing. -/
def form : Json.Form TokenInfo :=
  .record
    (.defaulted "aud" .text "" <|
      .defaulted "email" .text "" <|
      .defaulted "email_verified" .text "" <|
      .defaulted "name" .text "" <|
      .defaulted "picture" (.nullable .text) none <|
      .defaulted "sub" .text "" .nil)
    (fun (audience, email, emailVerified, name, picture, subject, _) =>
      ⟨audience, email, emailVerified, name, picture, subject⟩)
    (fun info =>
      (info.audience, info.email, info.emailVerified, info.name,
        info.picture, info.subject, ()))

end TokenInfo

/-- What comes back from the identity provider. -/
inductive ProviderReply
  | answered (status : Nat) (body : Octets)
  | unreachable (reason : String)
  deriving DecidableEq

end Carpool
