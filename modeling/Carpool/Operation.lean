import Carpool.Config
import Carpool.Service.Login
import Carpool.Service.Presence
import Carpool.Service.Publishing

/-!
# Operations

Everything that a client can ask of the services, as one type: each operation
says what it comes to, and by which call.
-/

namespace Carpool

/-- What a client can ask of the services. -/
inductive Operation
  | requestToJoin (caller : Identity) (ride : Uuid)
  | acceptRideRequest (caller : Identity) (request : Uuid)
  | acceptRequest (caller : Identity) (pairing : Uuid)
  | rejectRequest (caller : Identity) (pairing : Uuid)
  | completeMatch (caller : Identity) (pairing : Uuid)
  | getMatch (pairing : Uuid)
  | listByRide (ride : Uuid)
  | listByRider (rider : Uuid)
  | listMine (caller : Identity)
  | createOffer (caller : Identity) (draft : OfferDraft)
  | createRequest (caller : Identity) (draft : RequestDraft)
  | getOffer (offer : Uuid)
  | getRequest (request : Uuid)
  | me (caller : Identity)
  | touch (caller : Identity)
  | touchAt (caller : Identity) (now : Instant)
  | login (idToken : String)
  deriving DecidableEq

/-- What the operations need to know about the service. -/
structure Setup where
  policy : CompletionPolicy
  login : Login.Settings
  deriving DecidableEq

def ServerConfig.setup (config : ServerConfig) : Setup :=
  ⟨config.completionPolicy, config.loginSettings⟩

namespace Operation

def Reply : Operation → Type
  | .acceptRideRequest _ _ => Except Failure Accepted
  | .requestToJoin _ _ | .acceptRequest _ _ | .rejectRequest _ _
  | .completeMatch _ _ | .getMatch _ => Except Failure Match
  | .listByRide _ | .listByRider _ | .listMine _ => Except Failure (List Match)
  | .createOffer _ _ | .getOffer _ => Except Failure RideOffer
  | .createRequest _ _ | .getRequest _ => Except Failure RideRequest
  | .me _ | .touch _ | .touchAt _ _ => Except Failure User
  | .login _ => Except LoginError (Option Login.Session)

def call (setup : Setup) : (operation : Operation) → Call operation.Reply
  | .requestToJoin caller ride => Matching.requestToJoin caller ride
  | .acceptRideRequest caller request => Matching.acceptRideRequest caller request
  | .acceptRequest caller pairing => Matching.acceptRequest caller pairing
  | .rejectRequest caller pairing => Matching.rejectRequest caller pairing
  | .completeMatch caller pairing => Matching.completeMatch setup.policy caller pairing
  | .getMatch pairing => Matching.getMatch pairing
  | .listByRide ride => Matching.listByRide ride
  | .listByRider rider => Matching.listByRider rider
  | .listMine caller => Matching.listMine caller
  | .createOffer caller draft => Publishing.createOffer caller draft
  | .createRequest caller draft => Publishing.createRequest caller draft
  | .getOffer offer => Publishing.getOffer offer
  | .getRequest request => Publishing.getRequest request
  | .me caller => Presence.me caller
  | .touch caller => Presence.touch caller
  | .touchAt caller now => Presence.touchAt caller now
  | .login idToken => Login.login setup.login idToken

end Operation

end Carpool
