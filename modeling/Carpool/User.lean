import Carpool.Json.Schema
import Carpool.Text.Blank
import Carpool.Text.Lowercase
import Carpool.Time.Relaxed
import Carpool.Uuid

/-!
# Users

The people who offer and request rides.  A user has one account for each email
address, whatever the case and the blanks around it.
-/

namespace Carpool

structure User where
  userId : Uuid
  email : String
  name : String
  photoUrl : Option String
  geohash : Option String
  lastSeen : Instant
  deriving DecidableEq

/-- What is known of a user before the account exists. -/
structure NewUser where
  email : String
  name : String
  photoUrl : Option String
  deriving DecidableEq

/-- The form in which email addresses are stored and compared. -/
def normalEmail (email : String) : String :=
  Text.lower (Text.trim email)

namespace User

def form : Json.Form User :=
  .record
    (.required "user_id" Uuid.form <|
      .required "email" .text <|
      .required "name" .text <|
      .optional "photo_url" .text <|
      .optional "geohash" .text <|
      .required "last_seen" Instant.form .nil)
    (fun (userId, email, name, photoUrl, geohash, lastSeen, _) =>
      ⟨userId, email, name, photoUrl, geohash, lastSeen⟩)
    (fun user =>
      (user.userId, user.email, user.name, user.photoUrl, user.geohash,
        user.lastSeen, ()))

end User

end Carpool
