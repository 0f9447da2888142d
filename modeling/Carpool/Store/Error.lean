import Carpool.Store.Cell
import Carpool.Store.Table
import Carpool.Text.Quoted

/-!
# Failures of the store

Why a store job can fail: a constraint of a table is violated, a stored value
is not of the kind or in the form that its reader wants, or the store itself
reports something.
-/

namespace Carpool

namespace Store

/-- A constraint that a statement would break. -/
inductive Violation
  | notNull (column : Column)
  | riderIsDriver
  | unique (column : Column)
  | foreignKey
  deriving DecidableEq

def Violation.message : Violation → String
  | .notNull column => "NOT NULL constraint failed: " ++ column.name
  | .riderIsDriver => "CHECK constraint failed: rider_id != driver_id"
  | .unique column => "UNIQUE constraint failed: " ++ column.name
  | .foreignKey => "FOREIGN KEY constraint failed"

/-- Why a store job failed. -/
inductive StoreError
  | violation (violation : Violation)
  /-- A column holds a value of a kind that is not read from it. -/
  | wrongKind (found : CellKind) (column : Column)
  /-- A column holds no identifier. -/
  | notUuid (text : String)
  /-- A column holds no time. -/
  | notTime (text : String)
  /-- A column holds seconds that no instant has. -/
  | secondOutOfRange (second : Int)
  /-- A column holds no status. -/
  | unknownStatus (text : String)
  /-- A column holds a number of seats that is out of range. -/
  | seatsOutOfRange (seats : Int)
  /-- The store reports a failure of its own. -/
  | reported (text : String)
  deriving DecidableEq

namespace StoreError

/-- The wording of a failure of the database. -/
def databaseMessage (text : String) : String :=
  "database error: Rusqlite(\"" ++ text ++ "\")"

def message : StoreError → String
  | .violation broken => databaseMessage broken.message
  | .wrongKind found column =>
      databaseMessage ("Invalid column type " ++ found.name ++ " at index: "
        ++ toString column.index ++ ", name: " ++ column.label)
  | .notUuid text => "uuid parse error: no identifier in " ++ Text.quoted text
  | .notTime text => "date/time parse error: no time in " ++ Text.quoted text
  | .secondOutOfRange second =>
      "date/time parse error: unix timestamp out of range: "
        ++ Value.integerText second
  | .unknownStatus text =>
      "decode error: unknown status: " ++ Text.quoted text
  | .seatsOutOfRange seats =>
      "decode error: seat count out of range: " ++ Value.integerText seats
  | .reported text => text

end StoreError

end Store

end Carpool
