import Carpool.ErrorCode
import Carpool.Match
import Carpool.Store.Error

/-!
# Failures of the services

Why a service refuses or fails a call, the code under which callers see it, and
its wording.
-/

namespace Carpool

open Store (StoreError)

/-- What can be missing. -/
inductive Entity
  | user
  | rideOffer
  | rideRequest
  | pairing
  deriving DecidableEq

def Entity.name : Entity → String
  | .user => "user"
  | .rideOffer => "ride_offer"
  | .rideRequest => "ride_request"
  | .pairing => "match"

/-- What is wrong with an argument. -/
inductive Flaw
  | blankOrigin
  | blankDestination
  | departurePast
  | noSeats
  | badFare
  | unknownDriver
  | unknownUser
  | stated (text : String)
  deriving DecidableEq

def Flaw.message : Flaw → String
  | .blankOrigin => "from_geo is required"
  | .blankDestination => "to_geo is required"
  | .departurePast => "time cannot be in the past"
  | .noSeats => "seats must be positive"
  | .badFare => "fare must be a non-negative number"
  | .unknownDriver => "invalid driver"
  | .unknownUser => "invalid user"
  | .stated text => text

/-- What a caller may not do. -/
inductive Trespass
  | acceptByOther (id : Uuid)
  | rejectByOther (id : Uuid)
  | completeByOther (id : Uuid)
  | stated (text : String)
  deriving DecidableEq

def Trespass.message : Trespass → String
  | .acceptByOther id => "only the driver can accept match " ++ id.text
  | .rejectByOther id => "only the driver can reject match " ++ id.text
  | .completeByOther id =>
      "only the rider or driver can complete match " ++ id.text
  | .stated text => text

/-- What has changed under a caller's hands. -/
inductive Clash
  | lastSeen
  | stated (text : String)
  deriving DecidableEq

def Clash.message : Clash → String
  | .lastSeen => "user last_seen changed concurrently"
  | .stated text => text

/-- Why a service refuses or fails a call. -/
inductive Failure
  | invalid (flaw : Flaw)
  | unauthenticated (text : String)
  | forbidden (trespass : Trespass)
  | notFound (entity : Entity) (id : Uuid)
  | notActive (request : Uuid)
  | selfMatch
  | missingDriver (offer : Uuid)
  | invalidState (id : Uuid) (expected actual : MatchStatus)
  | conflict (clash : Clash)
  | store (error : StoreError)
  deriving DecidableEq

namespace Failure

/-- The code under which callers see a failure. -/
def code : Failure → ErrorCode
  | .invalid _ | .selfMatch => .invalidArgument
  | .unauthenticated _ => .unauthenticated
  | .forbidden _ => .permissionDenied
  | .notFound _ _ => .notFound
  | .notActive _ | .missingDriver _ | .invalidState _ _ _ | .conflict _ =>
      .failedPrecondition
  | .store _ => .internal

def message : Failure → String
  | .invalid flaw => flaw.message
  | .unauthenticated text => text
  | .forbidden trespass => "forbidden: " ++ trespass.message
  | .notFound entity id => entity.name ++ " " ++ id.text ++ " not found"
  | .notActive request => "ride request " ++ request.text ++ " is not active"
  | .selfMatch => "a user cannot be matched with themselves"
  | .missingDriver offer => "ride offer " ++ offer.text ++ " has no driver"
  | .invalidState id expected actual =>
      "match " ++ id.text ++ " is " ++ actual.name ++ ", expected "
        ++ expected.name
  | .conflict clash => "conflict: " ++ clash.message
  | .store error => "store error: " ++ error.message

end Failure

end Carpool
