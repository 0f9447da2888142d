import Carpool.Store.Row

/-!
# The database

The four tables, each with its rows in the order in which they were inserted,
and the statements that the store issues.  A statement either keeps all
constraints or breaks one and changes nothing: columns that must not be null
come first, then the rule that nobody rides with themselves, then uniqueness,
and references to other tables last.
-/

namespace Carpool

namespace Store

/-- The contents of the four tables. -/
structure Database where
  userRows : List UserRow
  offerRows : List OfferRow
  requestRows : List RequestRow
  matchRows : List MatchRow
  deriving DecidableEq

namespace Database

def empty : Database := ⟨[], [], [], []⟩

/-! ## Looking up -/

/-- The row of the user with an identifier. -/
def findUser? (database : Database) (id : String) : Option UserRow :=
  database.userRows.find? fun row => row.userId == some id

/-- The row of the user with an email. -/
def findUserByEmail? (database : Database) (email : String) :
    Option UserRow :=
  database.userRows.find? fun row => row.email == email

def findOffer? (database : Database) (id : String) : Option OfferRow :=
  database.offerRows.find? fun row => row.offerId == some id

def findRequest? (database : Database) (id : String) : Option RequestRow :=
  database.requestRows.find? fun row => row.requestId == some id

def findMatch? (database : Database) (id : String) : Option MatchRow :=
  database.matchRows.find? fun row => row.matchId == some id

/-! ## Constraints -/

/-- An offer's driver is a stored user or nobody. -/
def refersToUser (database : Database) (row : OfferRow) : Bool :=
  match row.driverId with
  | none => true
  | some id => (database.findUser? id).isSome

/-- Every reference names a stored row. -/
def keepsReferences (database : Database) : Bool :=
  database.offerRows.all database.refersToUser
    && (database.requestRows.all fun row =>
      (database.findUser? row.userId).isSome)
    && (database.matchRows.all fun row =>
      (database.findOffer? row.rideId).isSome)

/-! ## Inserting -/

def insertUser (database : Database) (row : UserRow) :
    Except Violation Database :=
  if row.userId.isSome
      && database.userRows.any (fun other => other.userId == row.userId) then
    .error (.unique (.user .userId))
  else if database.userRows.any fun other => other.email == row.email then
    .error (.unique (.user .email))
  else .ok { database with userRows := database.userRows ++ [row] }

def insertOffer (database : Database) (row : OfferRow) :
    Except Violation Database :=
  if row.offerId.isSome
      && database.offerRows.any (fun other => other.offerId == row.offerId)
  then .error (.unique (.offer .offerId))
  else if !database.refersToUser row then .error .foreignKey
  else .ok { database with offerRows := database.offerRows ++ [row] }

def insertRequest (database : Database) (row : RequestRow) :
    Except Violation Database :=
  if row.requestId.isSome
      && database.requestRows.any
        (fun other => other.requestId == row.requestId)
  then .error (.unique (.request .requestId))
  else if (database.findUser? row.userId).isNone then .error .foreignKey
  else .ok { database with requestRows := database.requestRows ++ [row] }

def insertMatch (database : Database) (row : MatchRow) :
    Except Violation Database :=
  if row.riderId == row.driverId then .error .riderIsDriver
  else if row.matchId.isSome
      && database.matchRows.any (fun other => other.matchId == row.matchId)
  then .error (.unique (.pairing .matchId))
  else if (database.findOffer? row.rideId).isNone then .error .foreignKey
  else .ok { database with matchRows := database.matchRows ++ [row] }

/-! ## Changing rows in place -/

/-- Change the rows that pass a test, and count them. -/
def changeWhere {ρ : Type} (test : ρ → Bool) (change : ρ → ρ)
    (rows : List ρ) : List ρ × Nat :=
  (rows.map fun row => if test row then change row else row,
    rows.countP test)

/-- Set the second at which a user was last seen, if it is the expected one. -/
def swapLastSeen (database : Database) (id : String) (expected new : Int) :
    Database × Nat :=
  let (rows, count) :=
    changeWhere
      (fun row => row.userId == some id && row.lastSeen == .integer expected)
      (fun row => { row with lastSeen := .integer new }) database.userRows
  ({ database with userRows := rows }, count)

/-- Set the status of a request, if it is the expected one. -/
def swapRequestStatus (database : Database) (id expected new : String) :
    Database × Nat :=
  let (rows, count) :=
    changeWhere
      (fun row => row.requestId == some id && row.status == expected)
      (fun row => { row with status := new }) database.requestRows
  ({ database with requestRows := rows }, count)

/-- Set the status of a match, if it is the expected one. -/
def swapMatchStatus (database : Database) (id expected new : String) :
    Database × Nat :=
  let (rows, count) :=
    changeWhere
      (fun row => row.matchId == some id && row.status == expected)
      (fun row => { row with status := new }) database.matchRows
  ({ database with matchRows := rows }, count)

/-- Set the status of a match, whatever it is. -/
def setMatchStatus (database : Database) (id new : String) :
    Database × Nat :=
  let (rows, count) :=
    changeWhere (fun row => row.matchId == some id)
      (fun row => { row with status := new }) database.matchRows
  ({ database with matchRows := rows }, count)

/-! ## Deleting -/

def deleteMatch (database : Database) (id : String) : Database :=
  { database with
    matchRows := database.matchRows.filter fun row => row.matchId != some id }

def deleteRequest (database : Database) (id : String) : Database :=
  { database with
    requestRows := database.requestRows.filter fun row =>
      row.requestId != some id }

/-- Delete the offers with an identifier, and the matches made on them. -/
def deleteOffer (database : Database) (id : String) : Database :=
  { database with
    offerRows := database.offerRows.filter fun row => row.offerId != some id
    matchRows := database.matchRows.filter fun row => row.rideId != id }

/-- Delete the users with an identifier and their requests.  Their offers stay,
without a driver. -/
def deleteUser (database : Database) (id : String) : Database :=
  { database with
    userRows := database.userRows.filter fun row => row.userId != some id
    offerRows := database.offerRows.map fun row =>
      if row.driverId == some id then { row with driverId := none } else row
    requestRows := database.requestRows.filter fun row => row.userId != id }

/-! ## Listing -/

/-- One match was not stored before the other, by the text of its time. -/
def notEarlier (left right : MatchRow) : Bool :=
  !decide (left.createdAt.toList < right.createdAt.toList)

/-- The matches on an offer, latest first; of equal times the one inserted last
comes first. -/
def matchesByRide (database : Database) (id : String) : List MatchRow :=
  (database.matchRows.reverse.filter fun row => row.rideId == id).mergeSort
    notEarlier

/-- The matches of a rider, latest first; of equal times the one inserted last
comes first. -/
def matchesByRider (database : Database) (id : String) : List MatchRow :=
  (database.matchRows.reverse.filter fun row => row.riderId == id).mergeSort
    notEarlier

/-- The matches that a user is part of, latest first; of equal times those come
first in which the user rides, and among them the one inserted first. -/
def matchesForUser (database : Database) (id : String) : List MatchRow :=
  let riding := database.matchRows.filter fun row => row.riderId == id
  let driving := database.matchRows.filter fun row =>
    row.driverId == id && row.riderId != id
  (riding ++ driving).mergeSort notEarlier

end Database

end Store

end Carpool
