import Carpool.Call
import Carpool.Failure
import Carpool.Identity

/-!
# The life of a match

A rider asks to join an offer, or a driver accepts a request; the driver of the
offer accepts or rejects the rider; the match is completed.  Who may do what is
decided by the verified caller alone.  A status is only changed from the value
that was read, so a call that loses a race fails instead of overwriting the
winner.
-/

namespace Carpool

namespace Matching

open Store (Job)

def ask (job : Job) : Attempt Failure job.Result :=
  Attempt.store .store job

def require {α : Type} (entity : Entity) (id : Uuid) :
    Option α → Attempt Failure α
  | some record => pure record
  | none => throw (.notFound entity id)

def getMatch (id : Uuid) : Attempt Failure Match := do
  let found ← ask (.getMatch id)
  require .pairing id found

def requestToJoin (caller : Identity) (ride : Uuid) :
    Attempt Failure Match := do
  let found ← ask (.getOffer ride)
  let offer ← require .rideOffer ride found
  match offer.driverId with
  | none => throw (.missingDriver ride)
  | some driver =>
      if driver = caller.subject then throw .selfMatch
      else
        ask (.createMatch {
          riderId := caller.subject
          driverId := driver
          rideId := ride
          status := .requested })

/-- The caller accepts an open request and becomes its driver. -/
def acceptRideRequest (caller : Identity) (id : Uuid) :
    Attempt Failure Accepted := do
  let found ← ask (.getRequest id)
  let request ← require .rideRequest id found
  if request.status ≠ .active then throw (.notActive id)
  else if request.userId = caller.subject then throw .selfMatch
  else
    let accepted ←
      ask (.acceptRideRequest (.ofRequest request caller.subject))
    match accepted with
    | some accepted => pure accepted
    | none => throw (.notActive id)

/-- The trespass of one who is not the driver and decides on a match. -/
def decisionByOther (next : MatchStatus) (id : Uuid) : Trespass :=
  match next with
  | .accepted => .acceptByOther id
  | _ => .rejectByOther id

/-- Bring a match from the status that was read to the next, or say what its
status is by now. -/
def advance (id : Uuid) (current : Match) (next : MatchStatus) :
    Attempt Failure Match := do
  let swap ← ask (.swapMatchStatus id current.status next)
  match swap with
  | .applied => pure { current with status := next }
  | .stale => do
      let now ← getMatch id
      throw (.invalidState id current.status now.status)

/-- The caller decides, as the driver, on a match. -/
def resolve (caller : Identity) (id : Uuid) (next : MatchStatus) :
    Attempt Failure Match := do
  let current ← getMatch id
  if current.driverId ≠ caller.subject then
    throw (.forbidden (decisionByOther next id))
  else if !current.status.canResolveTo next then
    throw (.invalidState id .requested current.status)
  else advance id current next

def acceptRequest (caller : Identity) (id : Uuid) : Attempt Failure Match :=
  resolve caller id .accepted

def rejectRequest (caller : Identity) (id : Uuid) : Attempt Failure Match :=
  resolve caller id .rejected

/-- The caller completes a match, as far as the policy allows. -/
def completeMatch (policy : CompletionPolicy) (caller : Identity) (id : Uuid) :
    Attempt Failure Match :=
  match policy with
  | .unrestricted => do
      let found ← ask (.forceMatchStatus id .completed)
      require .pairing id found
  | .participants => do
      let current ← getMatch id
      if !current.involves caller.subject then
        throw (.forbidden (.completeByOther id))
      else if current.status ≠ .accepted then
        throw (.invalidState id .accepted current.status)
      else advance id current .completed

def listByRide (ride : Uuid) : Attempt Failure (List Match) :=
  ask (.listMatchesByRide ride)

def listByRider (rider : Uuid) : Attempt Failure (List Match) :=
  ask (.listMatchesByRider rider)

/-- The matches that the caller is part of. -/
def listMine (caller : Identity) : Attempt Failure (List Match) :=
  ask (.listMatchesForUser caller.subject)

end Matching

end Carpool
