import Carpool.Store.Database

/-!
# Maintenance

Access to the rows past the services: counting them, looking at one column by
column, overwriting a column, and removing a row.  The constraints hold here as
well.
-/

namespace Carpool

namespace Store

/-- A value for a text column that must not be null. -/
def Value.requireText (column : Column) (value : Value) :
    Except Violation String :=
  match value.asText with
  | some kept => .ok kept
  | none => .error (.notNull column)

def Value.requireInteger (column : Column) (value : Value) :
    Except Violation Cell :=
  match value.asInteger with
  | some cell => .ok cell
  | none => .error (.notNull column)

def Value.requireReal (column : Column) (value : Value) :
    Except Violation Cell :=
  match value.asReal with
  | some cell => .ok cell
  | none => .error (.notNull column)

namespace UserRow

def cell (row : UserRow) : UserColumn → Option Cell
  | .userId => row.userId.map .text
  | .email => some (.text row.email)
  | .name => some (.text row.name)
  | .photoUrl => row.photoUrl.map .text
  | .geohash => row.geohash.map .text
  | .lastSeen => some row.lastSeen

/-- The row with another value in a column. -/
def overwrite (row : UserRow) (column : UserColumn) (value : Value) :
    Except Violation UserRow := do
  match column with
  | .userId => return { row with userId := value.asText }
  | .email => return { row with email := ← value.requireText (.user .email) }
  | .name => return { row with name := ← value.requireText (.user .name) }
  | .photoUrl => return { row with photoUrl := value.asText }
  | .geohash => return { row with geohash := value.asText }
  | .lastSeen =>
      return { row with
        lastSeen := ← value.requireInteger (.user .lastSeen) }

end UserRow

namespace OfferRow

def cell (row : OfferRow) : OfferColumn → Option Cell
  | .offerId => row.offerId.map .text
  | .driverId => row.driverId.map .text
  | .fromGeo => some (.text row.fromGeo)
  | .toGeo => some (.text row.toGeo)
  | .fare => some row.fare
  | .departAt => some (.text row.departAt)
  | .seats => some row.seats
  | .status => some (.text row.status)

def overwrite (row : OfferRow) (column : OfferColumn) (value : Value) :
    Except Violation OfferRow := do
  match column with
  | .offerId => return { row with offerId := value.asText }
  | .driverId => return { row with driverId := value.asText }
  | .fromGeo =>
      return { row with fromGeo := ← value.requireText (.offer .fromGeo) }
  | .toGeo => return { row with toGeo := ← value.requireText (.offer .toGeo) }
  | .fare => return { row with fare := ← value.requireReal (.offer .fare) }
  | .departAt =>
      return { row with departAt := ← value.requireText (.offer .departAt) }
  | .seats =>
      return { row with seats := ← value.requireInteger (.offer .seats) }
  | .status =>
      return { row with status := ← value.requireText (.offer .status) }

end OfferRow

namespace RequestRow

def cell (row : RequestRow) : RequestColumn → Option Cell
  | .requestId => row.requestId.map .text
  | .userId => some (.text row.userId)
  | .fromGeo => some (.text row.fromGeo)
  | .toGeo => some (.text row.toGeo)
  | .departAt => some (.text row.departAt)
  | .seats => some row.seats
  | .status => some (.text row.status)

def overwrite (row : RequestRow) (column : RequestColumn) (value : Value) :
    Except Violation RequestRow := do
  match column with
  | .requestId => return { row with requestId := value.asText }
  | .userId =>
      return { row with userId := ← value.requireText (.request .userId) }
  | .fromGeo =>
      return { row with fromGeo := ← value.requireText (.request .fromGeo) }
  | .toGeo =>
      return { row with toGeo := ← value.requireText (.request .toGeo) }
  | .departAt =>
      return { row with departAt := ← value.requireText (.request .departAt) }
  | .seats =>
      return { row with seats := ← value.requireInteger (.request .seats) }
  | .status =>
      return { row with status := ← value.requireText (.request .status) }

end RequestRow

namespace MatchRow

def cell (row : MatchRow) : MatchColumn → Option Cell
  | .matchId => row.matchId.map .text
  | .riderId => some (.text row.riderId)
  | .driverId => some (.text row.driverId)
  | .rideId => some (.text row.rideId)
  | .status => some (.text row.status)
  | .createdAt => some (.text row.createdAt)

def overwrite (row : MatchRow) (column : MatchColumn) (value : Value) :
    Except Violation MatchRow := do
  match column with
  | .matchId => return { row with matchId := value.asText }
  | .riderId =>
      return { row with riderId := ← value.requireText (.pairing .riderId) }
  | .driverId =>
      return { row with driverId := ← value.requireText (.pairing .driverId) }
  | .rideId =>
      return { row with rideId := ← value.requireText (.pairing .rideId) }
  | .status =>
      return { row with status := ← value.requireText (.pairing .status) }
  | .createdAt =>
      return { row with
        createdAt := ← value.requireText (.pairing .createdAt) }

end MatchRow

/-- Overwrite the rows that pass a test, and count them as they were. -/
def overwriteWhere {ρ : Type} (test : ρ → Bool)
    (change : ρ → Except Violation ρ) (rows : List ρ) :
    Except Violation (List ρ × Nat) := do
  let after ← rows.mapM fun row => if test row then change row else pure row
  return (after, rows.countP test)

/-- No two rows share a value, where nulls are never shared. -/
def allDistinct {α : Type} [BEq α] : List (Option α) → Bool
  | [] => true
  | none :: rest => allDistinct rest
  | some value :: rest =>
      !rest.contains (some value) && allDistinct rest

namespace Database

def counts (database : Database) : List (Table × Nat) :=
  [(.users, database.userRows.length),
    (.rideOffers, database.offerRows.length),
    (.rideRequests, database.requestRows.length),
    (.matches, database.matchRows.length)]

/-- The columns of the row with an identifier. -/
def row? (database : Database) (table : Table) (id : String) :
    Option (List (Column × Option Cell)) :=
  match table with
  | .users =>
      (database.findUser? id).map fun row =>
        UserColumn.all.map fun column => (.user column, row.cell column)
  | .rideOffers =>
      (database.findOffer? id).map fun row =>
        OfferColumn.all.map fun column => (.offer column, row.cell column)
  | .rideRequests =>
      (database.findRequest? id).map fun row =>
        RequestColumn.all.map fun column => (.request column, row.cell column)
  | .matches =>
      (database.findMatch? id).map fun row =>
        MatchColumn.all.map fun column => (.pairing column, row.cell column)

/-- The first unique column in which two rows share a value. -/
def repeatedColumn? (database : Database) : Option Column :=
  if !allDistinct (database.userRows.map UserRow.userId) then
    some (.user .userId)
  else if !allDistinct (database.userRows.map fun row => some row.email) then
    some (.user .email)
  else if !allDistinct (database.offerRows.map OfferRow.offerId) then
    some (.offer .offerId)
  else if !allDistinct (database.requestRows.map RequestRow.requestId) then
    some (.request .requestId)
  else if !allDistinct (database.matchRows.map MatchRow.matchId) then
    some (.pairing .matchId)
  else none

/-- The contents, if they keep the constraints between columns and rows. -/
def checked (database : Database) (changed : Nat) :
    Except Violation (Database × Nat) :=
  if database.matchRows.any fun row => row.riderId == row.driverId then
    .error .riderIsDriver
  else
    match database.repeatedColumn? with
    | some column => .error (.unique column)
    | none =>
        if database.keepsReferences then .ok (database, changed)
        else .error .foreignKey

/-- Overwrite a column of the row with an identifier, and count the rows. -/
def overwrite (database : Database) (column : Column) (id : String)
    (value : Value) : Except Violation (Database × Nat) := do
  match column with
  | .user column =>
      let (rows, found) ←
        overwriteWhere (fun row => row.userId == some id)
          (fun row => row.overwrite column value) database.userRows
      checked { database with userRows := rows } found
  | .offer column =>
      let (rows, found) ←
        overwriteWhere (fun row => row.offerId == some id)
          (fun row => row.overwrite column value) database.offerRows
      checked { database with offerRows := rows } found
  | .request column =>
      let (rows, found) ←
        overwriteWhere (fun row => row.requestId == some id)
          (fun row => row.overwrite column value) database.requestRows
      checked { database with requestRows := rows } found
  | .pairing column =>
      let (rows, found) ←
        overwriteWhere (fun row => row.matchId == some id)
          (fun row => row.overwrite column value) database.matchRows
      checked { database with matchRows := rows } found

/-- Remove the row with an identifier and what goes with it, and count the rows
of its own table that are gone. -/
def remove (database : Database) (table : Table) (id : String) :
    Database × Nat :=
  match table with
  | .users =>
      (database.deleteUser id,
        database.userRows.countP fun row => row.userId == some id)
  | .rideOffers =>
      (database.deleteOffer id,
        database.offerRows.countP fun row => row.offerId == some id)
  | .rideRequests =>
      (database.deleteRequest id,
        database.requestRows.countP fun row => row.requestId == some id)
  | .matches =>
      (database.deleteMatch id,
        database.matchRows.countP fun row => row.matchId == some id)

end Database

end Store

end Carpool
