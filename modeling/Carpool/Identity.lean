import Carpool.Json.Schema
import Carpool.Uuid

/-!
# Identities

Who a caller is, as established by a verified session token.
-/

namespace Carpool

/-- A verified caller. -/
structure Identity where
  subject : Uuid
  email : Option String
  deriving DecidableEq

namespace Identity

/-- An identity with the email that a token gives; an empty one counts as
none. -/
def ofSubject (subject : Uuid) (email : Option String) : Identity where
  subject := subject
  email := email.filter fun text => !text.isEmpty

def form : Json.Form Identity :=
  .record
    (.required "subject_id" Uuid.form <|
      .optional "email" .text .nil)
    (fun (subject, email, _) => ⟨subject, email⟩)
    (fun identity => (identity.subject, identity.email, ()))

end Identity

end Carpool
