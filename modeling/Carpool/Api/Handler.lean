import Carpool.Api.Error
import Carpool.Api.MediaType
import Carpool.Api.Method
import Carpool.Service.Presence
import Carpool.Service.Publishing

/-!
# Handlers

What each method does: it takes the caller that the gate has let in, reads its
arguments from the body, calls a service, and shows the result as a record.
The caller is looked at before the body.  A method that breaks off has nothing
to show.
-/

namespace Carpool

namespace Api

open Json (Document Form)

/-- The most octets that a body may have. -/
def bodyLimit : Nat := 2097152

/-- Why a body cannot be used. -/
inductive BodyError
  | notJson
  | tooLong
  | malformed
  | mismatch
  deriving DecidableEq

def BodyError.message : BodyError → String
  | .notJson => "Expected request with `Content-Type: application/json`"
  | .tooLong => "Failed to buffer the request body: length limit exceeded"
  | .malformed =>
      "Failed to parse the request body as JSON: not a JSON text"
  | .mismatch =>
      "Failed to deserialize the JSON body into the target type: "
        ++ "not of the expected form"

/-- The first content type of a request is one of JSON. -/
def Request.declaresJson (request : Request) : Bool :=
  match request.headerValues "content-type" with
  | value :: _ => MediaType.isJson value
  | [] => false

def readBody {α : Type} (form : Form α) (request : Request) :
    Except BodyError α :=
  if !request.declaresJson then .error .notJson
  else if bodyLimit < request.body.length then .error .tooLong
  else
    match form.ofOctets request.body with
    | .ok value => .ok value
    | .error .malformed => .error .malformed
    | .error .mismatch => .error .mismatch

/-- The body of a request, or its failure. -/
def body {α : Type} (form : Form α) (request : Request) :
    Attempt ApiError α :=
  match readBody form request with
  | .ok value => pure value
  | .error error => throw (.invalidArgument error.message)

/-- The caller, who must have passed the gate. -/
def require (caller : Option Identity) : Attempt ApiError Identity :=
  match caller with
  | some identity => pure identity
  | none => throw (.unauthenticated "no authenticated caller")

/-- A call to a service, its failures as callers see them. -/
def serve {α : Type} (attempt : Attempt Failure α) : Attempt ApiError α :=
  attempt.adapt ApiError.ofFailure

def idForm (key : String) : Form Uuid :=
  .record (.required key Uuid.form .nil) (fun (id, _) => id)
    (fun id => (id, ()))

def loginForm : Form String :=
  .record (.required "id_token" .text .nil) (fun (token, _) => token)
    (fun token => (token, ()))

def reply {α : Type} (key : String) (form : Form α) (value : α) : Document :=
  .ofMembers [(key, form.write value)]

def loginReply (session : Login.Session) : Document :=
  .ofMembers
    [("jwt", .ofText session.token),
      ("user_id", Uuid.form.write session.user.userId),
      ("email", .ofText session.user.email),
      ("photo_url", (Form.nullable .text).write session.user.photoUrl)]

/-- Log in with the token in a body. -/
def login (config : ServerConfig) (request : Request) :
    Attempt ApiError (Option Document) := do
  let token ← body loginForm request
  let token := Text.trim token
  if token.isEmpty then throw (.invalidArgument "id_token is required")
  else
    let session? ←
      (Login.login config.loginSettings token).adapt ApiError.ofLogin
    pure (session?.map loginReply)

/-- A method that takes an identifier from a caller. -/
def onId {α : Type} (caller : Option Identity) (request : Request)
    (key : String) (action : Identity → Uuid → Attempt Failure α)
    (present : α → Document) : Attempt ApiError (Option Document) := do
  let identity ← require caller
  let id ← body (idForm key) request
  let result ← serve (action identity id)
  pure (some (present result))

def handle (config : ServerConfig) (method : Method)
    (caller : Option Identity) (request : Request) :
    Attempt ApiError (Option Document) :=
  let showMatch := reply "match" Match.form
  let showMatches := reply "matches" (.list Match.form)
  let showOffer := reply "offer" RideOffer.form
  let showRequest := reply "request" RideRequest.form
  let showUser := reply "user" User.form
  match method with
  | .login => login config request
  | .requestToJoin =>
      onId caller request "ride_id" Matching.requestToJoin showMatch
  | .acceptRideRequest =>
      onId caller request "request_id" Matching.acceptRideRequest
        Accepted.form.write
  | .acceptRequest =>
      onId caller request "match_id" Matching.acceptRequest showMatch
  | .rejectRequest =>
      onId caller request "match_id" Matching.rejectRequest showMatch
  | .completeMatch =>
      onId caller request "match_id"
        (Matching.completeMatch config.completionPolicy) showMatch
  | .getMatch =>
      onId caller request "match_id" (fun _ => Matching.getMatch) showMatch
  | .listMatchesByRide =>
      onId caller request "ride_id" (fun _ => Matching.listByRide) showMatches
  | .listMatchesByRider =>
      onId caller request "rider_id" (fun _ => Matching.listByRider)
        showMatches
  | .listMyMatches => do
      let identity ← require caller
      let found ← serve (Matching.listMine identity)
      pure (some (showMatches found))
  | .createOffer => do
      let identity ← require caller
      let draft ← body OfferDraft.form request
      let offer ← serve (Publishing.createOffer identity draft)
      pure (some (showOffer offer))
  | .getOffer =>
      onId caller request "offer_id" (fun _ => Publishing.getOffer) showOffer
  | .createRequest => do
      let identity ← require caller
      let draft ← body RequestDraft.form request
      let created ← serve (Publishing.createRequest identity draft)
      pure (some (showRequest created))
  | .getRequest =>
      onId caller request "request_id" (fun _ => Publishing.getRequest)
        showRequest
  | .getMe => do
      let identity ← require caller
      let user ← serve (Presence.me identity)
      pure (some (showUser user))
  | .touchLastSeen => do
      let identity ← require caller
      let user ← serve (Presence.touch identity)
      pure (some (showUser user))

end Api

end Carpool
