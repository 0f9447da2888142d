import Carpool.Json.Schema
import Carpool.Time.Relaxed
import Carpool.Uuid

/-!
# Rides

Offers, which drivers publish, and requests, which riders publish.
-/

namespace Carpool

/-- How far an offer has got. -/
inductive OfferStatus
  | active
  | matched
  | completed
  deriving DecidableEq

namespace OfferStatus

def name : OfferStatus → String
  | .active => "active"
  | .matched => "matched"
  | .completed => "completed"

def all : List OfferStatus := [.active, .matched, .completed]

def ofName? (text : String) : Option OfferStatus :=
  all.find? fun status => status.name == text

/-- The status of an offer just published. -/
def initial : OfferStatus := .active

def form : Json.Form OfferStatus := .named ofName? name

end OfferStatus

/-- How far a request has got. -/
inductive RequestStatus
  | active
  | matched
  | completed
  deriving DecidableEq

namespace RequestStatus

def name : RequestStatus → String
  | .active => "active"
  | .matched => "matched"
  | .completed => "completed"

def all : List RequestStatus := [.active, .matched, .completed]

def ofName? (text : String) : Option RequestStatus :=
  all.find? fun status => status.name == text

/-- The status of a request just published. -/
def initial : RequestStatus := .active

def form : Json.Form RequestStatus := .named ofName? name

end RequestStatus

/-- A ride that a driver offers.  An offer outlives the account of its
driver. -/
structure RideOffer where
  offerId : Uuid
  driverId : Option Uuid
  fromGeo : String
  toGeo : String
  fare : Binary64
  departAt : Instant
  seats : UInt32
  status : OfferStatus
  deriving DecidableEq

/-- A ride that a rider asks for. -/
structure RideRequest where
  requestId : Uuid
  userId : Uuid
  fromGeo : String
  toGeo : String
  departAt : Instant
  seats : UInt32
  status : RequestStatus
  deriving DecidableEq

/-- An offer before it has an identifier. -/
structure NewOffer where
  driverId : Uuid
  fromGeo : String
  toGeo : String
  fare : Binary64
  departAt : Instant
  seats : UInt32
  status : OfferStatus
  deriving DecidableEq

/-- A request before it has an identifier. -/
structure NewRequest where
  userId : Uuid
  fromGeo : String
  toGeo : String
  departAt : Instant
  seats : UInt32
  deriving DecidableEq

def RideOffer.form : Json.Form RideOffer :=
  .record
    (.required "offer_id" Uuid.form <|
      .optional "driver_id" Uuid.form <|
      .required "from_geo" .text <|
      .required "to_geo" .text <|
      .required "fare" .double <|
      .required "depart_at" Instant.form <|
      .required "seats" .word32 <|
      .required "status" OfferStatus.form .nil)
    (fun (offerId, driverId, fromGeo, toGeo, fare, departAt, seats, status,
        _) =>
      ⟨offerId, driverId, fromGeo, toGeo, fare, departAt, seats, status⟩)
    (fun offer =>
      (offer.offerId, offer.driverId, offer.fromGeo, offer.toGeo, offer.fare,
        offer.departAt, offer.seats, offer.status, ()))

def RideRequest.form : Json.Form RideRequest :=
  .record
    (.required "request_id" Uuid.form <|
      .required "user_id" Uuid.form <|
      .required "from_geo" .text <|
      .required "to_geo" .text <|
      .required "depart_at" Instant.form <|
      .required "seats" .word32 <|
      .required "status" RequestStatus.form .nil)
    (fun (requestId, userId, fromGeo, toGeo, departAt, seats, status, _) =>
      ⟨requestId, userId, fromGeo, toGeo, departAt, seats, status⟩)
    (fun request =>
      (request.requestId, request.userId, request.fromGeo, request.toGeo,
        request.departAt, request.seats, request.status, ()))

end Carpool
