import Carpool.Failure
import Carpool.Text.Blank

/-!
# Drafts of rides

What callers submit to publish an offer or a request, and the checks that a
draft must pass.  The checks come in a fixed order; the first that fails names
the flaw.
-/

namespace Carpool

structure OfferDraft where
  fromGeo : String
  toGeo : String
  fare : Binary64
  departAt : Instant
  seats : UInt32
  deriving DecidableEq

structure RequestDraft where
  fromGeo : String
  toGeo : String
  departAt : Instant
  seats : UInt32
  deriving DecidableEq

/-- A place without its blank ends; a blank place is a flaw. -/
def requirePlace (flaw : Flaw) (place : String) : Except Flaw String :=
  let trimmed := Text.trim place
  if trimmed.isEmpty then .error flaw else .ok trimmed

/-- A departure must not be past, and there must be a seat. -/
def checkSchedule (departAt : Instant) (seats : UInt32) (now : Instant) :
    Except Flaw Unit :=
  if departAt.isBefore now then .error .departurePast
  else if seats = 0 then .error .noSeats
  else .ok ()

/-- A fare is a finite number that is not below zero. -/
def checkFare (fare : Binary64) : Except Flaw Unit :=
  if !fare.isFinite || fare.isBelowZero then .error .badFare else .ok ()

-- A draft passes its check or it does not.  Nothing that is proved of a call has to
-- compute how the check goes, so the two checks stay folded.

namespace OfferDraft

/-- The offer that a driver publishes with a draft. -/
@[irreducible]
def publish (draft : OfferDraft) (driver : Uuid) (now : Instant) :
    Except Flaw NewOffer := do
  let fromGeo ← requirePlace .blankOrigin draft.fromGeo
  let toGeo ← requirePlace .blankDestination draft.toGeo
  checkSchedule draft.departAt draft.seats now
  checkFare draft.fare
  return {
    driverId := driver
    fromGeo
    toGeo
    fare := draft.fare
    departAt := draft.departAt
    seats := draft.seats
    status := .active }

def form : Json.Form OfferDraft :=
  .record
    (.required "from_geo" .text <|
      .required "to_geo" .text <|
      .defaulted "fare" .double Binary64.zero <|
      .required "depart_at" Instant.form <|
      .required "seats" .word32 .nil)
    (fun (fromGeo, toGeo, fare, departAt, seats, _) =>
      ⟨fromGeo, toGeo, fare, departAt, seats⟩)
    (fun draft =>
      (draft.fromGeo, draft.toGeo, draft.fare, draft.departAt, draft.seats,
        ()))

end OfferDraft

namespace RequestDraft

/-- The request that a rider publishes with a draft. -/
@[irreducible]
def publish (draft : RequestDraft) (rider : Uuid) (now : Instant) :
    Except Flaw NewRequest := do
  let fromGeo ← requirePlace .blankOrigin draft.fromGeo
  let toGeo ← requirePlace .blankDestination draft.toGeo
  checkSchedule draft.departAt draft.seats now
  return {
    userId := rider
    fromGeo
    toGeo
    departAt := draft.departAt
    seats := draft.seats }

def form : Json.Form RequestDraft :=
  .record
    (.required "from_geo" .text <|
      .required "to_geo" .text <|
      .required "depart_at" Instant.form <|
      .required "seats" .word32 .nil)
    (fun (fromGeo, toGeo, departAt, seats, _) =>
      ⟨fromGeo, toGeo, departAt, seats⟩)
    (fun draft =>
      (draft.fromGeo, draft.toGeo, draft.departAt, draft.seats, ()))

end RequestDraft

end Carpool
