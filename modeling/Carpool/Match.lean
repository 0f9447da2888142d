import Carpool.Ride

/-!
# Matches

The binding of a rider and a driver to an offer.  Rider, driver and offer are
fixed when the match is made; only its status changes.
-/

namespace Carpool

/-- How far a match has got. -/
inductive MatchStatus
  | requested
  | accepted
  | rejected
  | completed
  deriving DecidableEq

namespace MatchStatus

def name : MatchStatus → String
  | .requested => "requested"
  | .accepted => "accepted"
  | .rejected => "rejected"
  | .completed => "completed"

def all : List MatchStatus := [.requested, .accepted, .rejected, .completed]

def ofName? (text : String) : Option MatchStatus :=
  all.find? fun status => status.name == text

/-- The driver has yet to decide. -/
def isPending (status : MatchStatus) : Bool :=
  status == .requested

/-- The driver may decide on the match and so bring it to the next status. -/
def canResolveTo : (status next : MatchStatus) → Bool
  | .requested, .accepted | .requested, .rejected => true
  | _, _ => false

def form : Json.Form MatchStatus := .named ofName? name

end MatchStatus

/-- A rider and a driver bound to an offer. -/
structure Match where
  matchId : Uuid
  riderId : Uuid
  driverId : Uuid
  rideId : Uuid
  status : MatchStatus
  createdAt : Instant
  deriving DecidableEq

/-- A match before it has an identifier. -/
structure NewMatch where
  riderId : Uuid
  driverId : Uuid
  rideId : Uuid
  status : MatchStatus
  deriving DecidableEq

namespace Match

/-- The user is the rider or the driver. -/
def involves (record : Match) (user : Uuid) : Bool :=
  record.riderId == user || record.driverId == user

def form : Json.Form Match :=
  .record
    (.required "match_id" Uuid.form <|
      .required "rider_id" Uuid.form <|
      .required "driver_id" Uuid.form <|
      .required "ride_id" Uuid.form <|
      .required "status" MatchStatus.form <|
      .required "created_at" Instant.form .nil)
    (fun (matchId, riderId, driverId, rideId, status, createdAt, _) =>
      ⟨matchId, riderId, driverId, rideId, status, createdAt⟩)
    (fun record =>
      (record.matchId, record.riderId, record.driverId, record.rideId,
        record.status, record.createdAt, ()))

end Match

/-- Who may complete a match, and from which status. -/
inductive CompletionPolicy
  /-- Anyone, from any status. -/
  | unrestricted
  /-- The rider or the driver, once the match is accepted. -/
  | participants
  deriving DecidableEq

namespace CompletionPolicy

def name : CompletionPolicy → String
  | .unrestricted => "unrestricted"
  | .participants => "participants"

def ofName? (text : String) : Option CompletionPolicy :=
  [unrestricted, participants].find? fun policy => policy.name == text

/-- The policy when none is configured. -/
def initial : CompletionPolicy := .unrestricted

def form : Json.Form CompletionPolicy := .named ofName? name

end CompletionPolicy

/-- The acceptance of a request by a driver: an offer and a match are made for
it. -/
structure Acceptance where
  requestId : Uuid
  riderId : Uuid
  driverId : Uuid
  fromGeo : String
  toGeo : String
  departAt : Instant
  seats : UInt32
  deriving DecidableEq

/-- The acceptance of a request by a driver, with its route and time and at
least one seat. -/
def Acceptance.ofRequest (request : RideRequest) (driver : Uuid) :
    Acceptance where
  requestId := request.requestId
  riderId := request.userId
  driverId := driver
  fromGeo := request.fromGeo
  toGeo := request.toGeo
  departAt := request.departAt
  seats := max request.seats 1

/-- What an acceptance has made. -/
structure Accepted where
  offer : RideOffer
  record : Match
  deriving DecidableEq

def Accepted.form : Json.Form Accepted :=
  .record
    (.required "offer" RideOffer.form <|
      .required "match" Match.form .nil)
    (fun (offer, record, _) => ⟨offer, record⟩)
    (fun accepted => (accepted.offer, accepted.record, ()))

end Carpool
