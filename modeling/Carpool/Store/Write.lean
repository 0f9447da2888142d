import Carpool.Store.Database

/-!
# Writes

A write is carried out step by step on the connection: it checks whether its
caller is still there, executes statements, and may bracket them by a
transaction.  A write whose caller has left by the time of a check ends there.
However a write ends, what is not committed is undone.
-/

namespace Carpool

namespace Store

/-- A statement that changes rows. -/
inductive Statement
  | insertUser (row : UserRow)
  | insertOffer (offer : RideOffer)
  | insertRequest (row : RequestRow)
  | insertMatch (row : MatchRow)
  | swapLastSeen (id : String) (expected new : Int)
  | swapRequestStatus (id expected new : String)
  | swapMatchStatus (id expected new : String)
  | setMatchStatus (id new : String)
  deriving DecidableEq

/-- What a statement reports: how many rows it changed and, where a match was
set, the row as it is now. -/
structure Report where
  changed : Nat
  returned : Option MatchRow
  deriving DecidableEq

namespace Statement

def inserted (database : Database) : Database × Report :=
  (database, ⟨1, none⟩)

def changed (result : Database × Nat) : Database × Report :=
  (result.1, ⟨result.2, none⟩)

def run (statement : Statement) (database : Database) :
    Except Violation (Database × Report) :=
  match statement with
  | .insertUser row => (database.insertUser row).map inserted
  | .insertOffer offer => do
      let row ← OfferRow.ofOffer offer
      return inserted (← database.insertOffer row)
  | .insertRequest row => (database.insertRequest row).map inserted
  | .insertMatch row => (database.insertMatch row).map inserted
  | .swapLastSeen id expected new =>
      .ok (changed (database.swapLastSeen id expected new))
  | .swapRequestStatus id expected new =>
      .ok (changed (database.swapRequestStatus id expected new))
  | .swapMatchStatus id expected new =>
      .ok (changed (database.swapMatchStatus id expected new))
  | .setMatchStatus id new =>
      let (after, count) := database.setMatchStatus id new
      .ok (after, ⟨count, after.findMatch? id⟩)

end Statement

/-- A write, as the steps that are left of it. -/
inductive Write (α : Type)
  /-- The write has ended with a result. -/
  | done (result : α)
  /-- Go on only if the caller is still there. -/
  | check (next : Write α)
  /-- Open a transaction. -/
  | start (next : Write α)
  /-- Execute a statement; a broken constraint ends the write. -/
  | execute (statement : Statement) (next : Report → Write α)
  /-- Make the changes of the transaction permanent. -/
  | commit (next : Write α)

/-- The connection: the permanent contents, and those that an open transaction
sees. -/
structure Connection where
  permanent : Database
  pending : Option Database
  deriving DecidableEq

namespace Connection

def current (connection : Connection) : Database :=
  connection.pending.getD connection.permanent

/-- Put the result of a statement in place: into the open transaction, if there
is one, and permanently otherwise. -/
def put (connection : Connection) (database : Database) : Connection :=
  match connection.pending with
  | some _ => { connection with pending := some database }
  | none => { connection with permanent := database }

def start (connection : Connection) : Connection :=
  { connection with pending := some connection.current }

def commit (connection : Connection) : Connection :=
  ⟨connection.current, none⟩

end Connection

/-- How long a caller stays: for good, or for so many more steps. -/
abbrev Patience := Option Nat

/-- The patience that is left after a step. -/
def Patience.afterStep (patience : Patience) : Patience :=
  patience.map (· - 1)

/-- How a write ended. -/
inductive Ending (α : Type)
  | done (result : α)
  | violated (violation : Violation)
  | abandoned
  deriving DecidableEq

/-- What one step of a write leads to. -/
inductive Outcome (α : Type)
  | goesOn (rest : Write α) (connection : Connection)
  | ended (ending : Ending α) (after : Database)

namespace Write

/-- Take one step of a write, whose caller is still there or not. -/
def advance {α : Type} (present : Bool) :
    Write α → Connection → Outcome α
  | .done result, connection => .ended (.done result) connection.permanent
  | .check next, connection =>
      if present then .goesOn next connection
      else .ended .abandoned connection.permanent
  | .start next, connection => .goesOn next connection.start
  | .execute statement next, connection =>
      match statement.run connection.current with
      | .error violation => .ended (.violated violation) connection.permanent
      | .ok (database, report) =>
          .goesOn (next report) (connection.put database)
  | .commit next, connection => .goesOn next connection.commit

/-- Carry out the steps of a write.  The result is its ending and the permanent
contents after it. -/
def run {α : Type} : Write α → Patience → Connection → Ending α × Database
  | .done result, _, connection => (.done result, connection.permanent)
  | .check next, patience, connection =>
      if patience = some 0 then (.abandoned, connection.permanent)
      else next.run patience.afterStep connection
  | .start next, patience, connection =>
      next.run patience.afterStep connection.start
  | .execute statement next, patience, connection =>
      match statement.run connection.current with
      | .error violation => (.violated violation, connection.permanent)
      | .ok (database, report) =>
          (next report).run patience.afterStep (connection.put database)
  | .commit next, patience, connection =>
      next.run patience.afterStep connection.commit

/-- Carry out a write on contents without an open transaction. -/
def runOn {α : Type} (write : Write α) (patience : Patience)
    (database : Database) : Ending α × Database :=
  write.run patience ⟨database, none⟩

end Write

end Store

end Carpool
