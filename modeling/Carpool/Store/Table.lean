/-!
# Tables and columns

The names of the four tables and of their columns, in the order in which the
columns are declared.
-/

namespace Carpool

namespace Store

inductive Table
  | users
  | rideOffers
  | rideRequests
  | matches
  deriving DecidableEq

def Table.name : Table → String
  | .users => "users"
  | .rideOffers => "ride_offers"
  | .rideRequests => "ride_requests"
  | .matches => "matches"

inductive UserColumn
  | userId
  | email
  | name
  | photoUrl
  | geohash
  | lastSeen
  deriving DecidableEq

namespace UserColumn

def all : List UserColumn :=
  [.userId, .email, .name, .photoUrl, .geohash, .lastSeen]

def label : UserColumn → String
  | .userId => "user_id"
  | .email => "email"
  | .name => "name"
  | .photoUrl => "photo_url"
  | .geohash => "geohash"
  | .lastSeen => "last_seen"

end UserColumn

inductive OfferColumn
  | offerId
  | driverId
  | fromGeo
  | toGeo
  | fare
  | departAt
  | seats
  | status
  deriving DecidableEq

namespace OfferColumn

def all : List OfferColumn :=
  [.offerId, .driverId, .fromGeo, .toGeo, .fare, .departAt, .seats, .status]

def label : OfferColumn → String
  | .offerId => "offer_id"
  | .driverId => "driver_id"
  | .fromGeo => "from_geo"
  | .toGeo => "to_geo"
  | .fare => "fare"
  | .departAt => "depart_at"
  | .seats => "seats"
  | .status => "status"

end OfferColumn

inductive RequestColumn
  | requestId
  | userId
  | fromGeo
  | toGeo
  | departAt
  | seats
  | status
  deriving DecidableEq

namespace RequestColumn

def all : List RequestColumn :=
  [.requestId, .userId, .fromGeo, .toGeo, .departAt, .seats, .status]

def label : RequestColumn → String
  | .requestId => "request_id"
  | .userId => "user_id"
  | .fromGeo => "from_geo"
  | .toGeo => "to_geo"
  | .departAt => "depart_at"
  | .seats => "seats"
  | .status => "status"

end RequestColumn

inductive MatchColumn
  | matchId
  | riderId
  | driverId
  | rideId
  | status
  | createdAt
  deriving DecidableEq

namespace MatchColumn

def all : List MatchColumn :=
  [.matchId, .riderId, .driverId, .rideId, .status, .createdAt]

def label : MatchColumn → String
  | .matchId => "match_id"
  | .riderId => "rider_id"
  | .driverId => "driver_id"
  | .rideId => "ride_id"
  | .status => "status"
  | .createdAt => "created_at"

end MatchColumn

/-- A column of some table. -/
inductive Column
  | user (column : UserColumn)
  | offer (column : OfferColumn)
  | request (column : RequestColumn)
  | pairing (column : MatchColumn)
  deriving DecidableEq

namespace Column

def table : Column → Table
  | .user _ => .users
  | .offer _ => .rideOffers
  | .request _ => .rideRequests
  | .pairing _ => .matches

def label : Column → String
  | .user column => column.label
  | .offer column => column.label
  | .request column => column.label
  | .pairing column => column.label

/-- The name of a column together with its table. -/
def name (column : Column) : String :=
  column.table.name ++ "." ++ column.label

/-- The place of a column in its table, counted from zero. -/
def index : Column → Nat
  | .user column => UserColumn.all.idxOf column
  | .offer column => OfferColumn.all.idxOf column
  | .request column => RequestColumn.all.idxOf column
  | .pairing column => MatchColumn.all.idxOf column

def ofTable : Table → List Column
  | .users => UserColumn.all.map .user
  | .rideOffers => OfferColumn.all.map .offer
  | .rideRequests => RequestColumn.all.map .request
  | .matches => MatchColumn.all.map .pairing

end Column

end Store

end Carpool
