import Carpool.Ride.Draft
import Carpool.Service.Matching

/-!
# Publishing rides

Drivers publish offers and riders publish requests, each in their own name.  A
draft is checked against the clock before the account of the caller is looked
up.
-/

namespace Carpool

namespace Publishing

/-- The value, unless there is a flaw. -/
def withoutFlaw {α : Type} : Except Flaw α → Attempt Failure α
  | .ok value => pure value
  | .error flaw => throw (.invalid flaw)

/-- The caller must have an account. -/
def requireAccount (caller : Identity) (flaw : Flaw) :
    Attempt Failure Unit := do
  let found ← Matching.ask (.getUser caller.subject)
  match found with
  | some _ => pure ()
  | none => throw (.invalid flaw)

def createOffer (caller : Identity) (draft : OfferDraft) :
    Attempt Failure RideOffer := do
  let now ← Attempt.clock
  let offer ← withoutFlaw (draft.publish caller.subject now)
  requireAccount caller .unknownDriver
  Matching.ask (.createOffer offer)

def createRequest (caller : Identity) (draft : RequestDraft) :
    Attempt Failure RideRequest := do
  let now ← Attempt.clock
  let request ← withoutFlaw (draft.publish caller.subject now)
  requireAccount caller .unknownUser
  Matching.ask (.createRequest request)

def getOffer (id : Uuid) : Attempt Failure RideOffer := do
  let found ← Matching.ask (.getOffer id)
  Matching.require .rideOffer id found

def getRequest (id : Uuid) : Attempt Failure RideRequest := do
  let found ← Matching.ask (.getRequest id)
  Matching.require .rideRequest id found

end Publishing

end Carpool
