import Carpool.Match
import Carpool.Store.Error
import Carpool.Time.Print
import Carpool.Time.Strict
import Carpool.User

/-!
# Rows

The rows of the four tables as they are stored, and the codec between rows and
records.  Identifiers, times and statuses are stored as text, the last visit of
a user as whole seconds.  A row may hold texts that no record has; decoding
then fails at the first column that it cannot read.
-/

namespace Carpool

namespace Store

structure UserRow where
  userId : Option String
  email : String
  name : String
  photoUrl : Option String
  geohash : Option String
  lastSeen : Cell
  deriving DecidableEq

structure OfferRow where
  offerId : Option String
  driverId : Option String
  fromGeo : String
  toGeo : String
  fare : Cell
  departAt : String
  seats : Cell
  status : String
  deriving DecidableEq

structure RequestRow where
  requestId : Option String
  userId : String
  fromGeo : String
  toGeo : String
  departAt : String
  seats : Cell
  status : String
  deriving DecidableEq

structure MatchRow where
  matchId : Option String
  riderId : String
  driverId : String
  rideId : String
  status : String
  createdAt : String
  deriving DecidableEq

/-! ## Reading columns -/

/-- The text of a column that must not be null to be read. -/
def readKey (column : Column) : Option String → Except StoreError String
  | some text => .ok text
  | none => .error (.wrongKind .null column)

def readInteger (column : Column) : Cell → Except StoreError Int
  | .integer value => .ok value
  | cell => .error (.wrongKind cell.kind column)

def readReal (column : Column) : Cell → Except StoreError Binary64
  | .real value => .ok value
  | .integer value => .ok (Binary64.ofInt value)
  | .text _ => .error (.wrongKind .text column)

def decodeUuid (text : String) : Except StoreError Uuid :=
  match Uuid.ofText? text with
  | some uuid => .ok uuid
  | none => .error (.notUuid text)

def decodeTime (text : String) : Except StoreError Instant :=
  match Instant.ofStoredText? text with
  | some instant => .ok instant
  | none => .error (.notTime text)

/-- The instant at the start of a second. -/
def decodeSecond (second : Int) : Except StoreError Instant :=
  match Instant.make? second 0 with
  | some instant => .ok instant
  | none => .error (.secondOutOfRange second)

def decodeSeats (seats : Int) : Except StoreError UInt32 :=
  if 0 ≤ seats ∧ seats < 0x100000000 then .ok (UInt32.ofNat seats.toNat)
  else .error (.seatsOutOfRange seats)

def decodeStatus {α : Type} (ofName? : String → Option α) (text : String) :
    Except StoreError α :=
  match ofName? text with
  | some status => .ok status
  | none => .error (.unknownStatus text)

/-! ## Users -/

namespace UserRow

def ofUser (user : User) : UserRow where
  userId := some user.userId.text
  email := user.email
  name := user.name
  photoUrl := user.photoUrl
  geohash := user.geohash
  lastSeen := .integer user.lastSeen.second

def decode (row : UserRow) : Except StoreError User := do
  let userId ← readKey (.user .userId) row.userId
  let lastSeen ← readInteger (.user .lastSeen) row.lastSeen
  let userId ← decodeUuid userId
  let lastSeen ← decodeSecond lastSeen
  return {
    userId
    email := row.email
    name := row.name
    photoUrl := row.photoUrl
    geohash := row.geohash
    lastSeen }

end UserRow

/-! ## Offers -/

namespace OfferRow

/-- The row of an offer.  A fare that is not a number has no stored form. -/
def ofOffer (offer : RideOffer) : Except Violation OfferRow :=
  if offer.fare.isNaN then .error (.notNull (.offer .fare))
  else
    .ok {
      offerId := some offer.offerId.text
      driverId := offer.driverId.map Uuid.text
      fromGeo := offer.fromGeo
      toGeo := offer.toGeo
      fare := .real offer.fare.withoutNegativeZero
      departAt := offer.departAt.storedText
      seats := .integer offer.seats.toNat
      status := offer.status.name }

def decode (row : OfferRow) : Except StoreError RideOffer := do
  let offerId ← readKey (.offer .offerId) row.offerId
  let fare ← readReal (.offer .fare) row.fare
  let seats ← readInteger (.offer .seats) row.seats
  let offerId ← decodeUuid offerId
  let driverId ← row.driverId.mapM decodeUuid
  let departAt ← decodeTime row.departAt
  let seats ← decodeSeats seats
  let status ← decodeStatus OfferStatus.ofName? row.status
  return {
    offerId
    driverId
    fromGeo := row.fromGeo
    toGeo := row.toGeo
    fare
    departAt
    seats
    status }

end OfferRow

/-! ## Requests -/

namespace RequestRow

def ofRequest (request : RideRequest) : RequestRow where
  requestId := some request.requestId.text
  userId := request.userId.text
  fromGeo := request.fromGeo
  toGeo := request.toGeo
  departAt := request.departAt.storedText
  seats := .integer request.seats.toNat
  status := request.status.name

def decode (row : RequestRow) : Except StoreError RideRequest := do
  let requestId ← readKey (.request .requestId) row.requestId
  let seats ← readInteger (.request .seats) row.seats
  let requestId ← decodeUuid requestId
  let userId ← decodeUuid row.userId
  let departAt ← decodeTime row.departAt
  let seats ← decodeSeats seats
  let status ← decodeStatus RequestStatus.ofName? row.status
  return {
    requestId
    userId
    fromGeo := row.fromGeo
    toGeo := row.toGeo
    departAt
    seats
    status }

end RequestRow

/-! ## Matches -/

namespace MatchRow

def ofMatch (record : Match) : MatchRow where
  matchId := some record.matchId.text
  riderId := record.riderId.text
  driverId := record.driverId.text
  rideId := record.rideId.text
  status := record.status.name
  createdAt := record.createdAt.storedText

/-- The columns of a row are of the kinds that a match has. -/
def readable (row : MatchRow) : Except StoreError String :=
  readKey (.pairing .matchId) row.matchId

def decode (row : MatchRow) : Except StoreError Match := do
  let matchId ← row.readable
  let matchId ← decodeUuid matchId
  let riderId ← decodeUuid row.riderId
  let driverId ← decodeUuid row.driverId
  let rideId ← decodeUuid row.rideId
  let status ← decodeStatus MatchStatus.ofName? row.status
  let createdAt ← decodeTime row.createdAt
  return { matchId, riderId, driverId, rideId, status, createdAt }

end MatchRow

end Store

end Carpool
