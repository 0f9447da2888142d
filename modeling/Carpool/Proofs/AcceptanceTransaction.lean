import Carpool.Proofs.Store.Evolution
import Carpool.Proofs.Store.GuardedColumns

/-!
# The transaction of an acceptance

What an acceptance does to contents that keep the schema, whatever it says and under
whatever new identifiers: it is carried out as a whole, or it leaves no trace.
-/

namespace Carpool

namespace Store

open Database

/-- The identifiers for the offer and the match are in use nowhere in their tables. -/
structure Fresh.IsNew (fresh : Fresh) (database : Database) : Prop where
  offer : some fresh.first.text ∉ database.offerRows.map OfferRow.offerId
  pairing : some fresh.second.text ∉ database.matchRows.map MatchRow.matchId

/-- The driver has an account. -/
def KnowsDriver (database : Database) (acceptance : Acceptance) : Prop :=
  (database.findUser? acceptance.driverId.text).isSome

/-- The three ways in which an acceptance can end.  If it goes through, the offer and
the match that it answers with are stored, the request is matched, and all else is as
before.  In all other cases everything is as before. -/
structure Settles (acceptance : Acceptance) (fresh : Fresh) (before : Database)
    (outcome : Except StoreError (Option Accepted) × Database) : Prop where
  accepted : KnowsDriver before acceptance → acceptance.riderId ≠ acceptance.driverId →
    before.Awaits acceptance.requestId →
    ∃ row, OfferRow.ofOffer (fresh.accepted acceptance).offer = .ok row ∧
      outcome = (.ok (some (fresh.accepted acceptance)),
        GuardedColumn.requestStatus.put acceptance.requestId .matched
          (before.booked row (.ofMatch (fresh.accepted acceptance).record)))
  declined : KnowsDriver before acceptance → acceptance.riderId ≠ acceptance.driverId →
    ¬before.Awaits acceptance.requestId → outcome = (.ok none, before)
  selfRide : KnowsDriver before acceptance → acceptance.riderId = acceptance.driverId →
    outcome = (.error (.violation .riderIsDriver), before)
  stranger : ¬KnowsDriver before acceptance →
    outcome = (.error (.violation .foreignKey), before)

variable {acceptance : Acceptance} {fresh : Fresh} {before : Database}

/-- What a caller who stays is answered, and the contents after it. -/
def settlement (accepted : Accepted) (before : Database) :
    Except Violation (Option Database) → Except StoreError (Option Accepted) × Database
  | .error violation => (.error (.violation violation), before)
  | .ok none => (.ok none, before)
  | .ok (some after) => (.ok (some accepted), after)

theorem Job.run_accept {result : Except Violation (Option Database)}
    (accepts : before.accept acceptance.requestId (fresh.accepted acceptance) = result) :
    (Job.acceptRideRequest acceptance).run fresh before =
      settlement (fresh.accepted acceptance) before result := by
  subst accepts
  apply Job.run_of_runWhile
  refine (Job.runWhile_accept acceptance).trans ?_
  rcases before.accept acceptance.requestId (fresh.accepted acceptance)
    with violation | (_ | after) <;> rfl

/-! ## What becomes of the request -/

/-- A request that is awaited is the one row that the last statement finds. -/
theorem takeRequest_of_awaits (kept : before.KeepsSchema) {request : Uuid}
    (awaits : before.Awaits request) (offer : OfferRow) (pairing : MatchRow) :
    ((before.booked offer pairing).takeRequest request).1 =
      GuardedColumn.requestStatus.put request .matched (before.booked offer pairing) := by
  obtain ⟨row, member, keyed, active⟩ := awaits
  have found := find?_of_keyed kept.requestIds member keyed
  let isActive (row : RequestRow) : Bool := row.status == RequestStatus.active.name
  let change (row : RequestRow) : RequestRow := { row with status := RequestStatus.matched.name }
  have met : isActive row = true := by simp [isActive, active]
  have replaced := (changeWhere_met kept.requestIds change found met).2
  exact congrArg (fun rows => { before.booked offer pairing with requestRows := rows }) replaced

/-- Every acceptance on contents that keep the schema ends in one of the three ways. -/
theorem acceptance_all_or_nothing (kept : before.KeepsSchema) (isNew : fresh.IsNew before)
    (acceptance : Acceptance) :
    Settles acceptance fresh before ((Job.acceptRideRequest acceptance).run fresh before) := by
  obtain ⟨row, encoded, -, -⟩ := exists_acceptedRow fresh acceptance
  let booked := before.booked row (.ofMatch (fresh.accepted acceptance).record)
  have reached (known : KnowsDriver before acceptance)
      (other : acceptance.riderId ≠ acceptance.driverId) :
      before.accept acceptance.requestId (fresh.accepted acceptance) =
        .ok (if (booked.takeRequest acceptance.requestId).2 = 0 then none
          else some (booked.takeRequest acceptance.requestId).1) :=
    accept_of_driver acceptance.requestId encoded isNew.offer isNew.pairing known other
  constructor
  case accepted =>
    intro known other awaits
    have committed := reached known other
    have counted : (booked.takeRequest acceptance.requestId).2 ≠ 0 := takeRequest_ne_zero.mpr awaits
    rw [if_neg counted, takeRequest_of_awaits kept awaits] at committed
    exact ⟨row, encoded, Job.run_accept committed⟩
  case declined =>
    intro known other gone
    have undone := reached known other
    have counted : (booked.takeRequest acceptance.requestId).2 = 0 :=
      not_not.mp (mt takeRequest_ne_zero.mp gone)
    rw [if_pos counted] at undone
    exact Job.run_accept undone
  case selfRide =>
    intro known alone
    exact Job.run_accept (accept_of_selfRide acceptance.requestId isNew.offer known alone)
  case stranger =>
    intro unknown
    have stranger : before.findUser? acceptance.driverId.text = none := by
      simpa [KnowsDriver] using unknown
    exact Job.run_accept (accept_of_unknown acceptance.requestId isNew.offer stranger)

/-- A driver, and a rider with an active request. -/
def awaiting : Database where
  userRows :=
    [.ofUser ⟨Uuid.ofNat 1, "driver@campus.edu", "Driver", none, none, .epoch⟩,
      .ofUser ⟨Uuid.ofNat 2, "rider@campus.edu", "Rider", none, none, .epoch⟩]
  offerRows := []
  requestRows :=
    [.ofRequest ⟨Uuid.ofNat 3, Uuid.ofNat 2, "tdr1w", "tdr1y", .epoch, 1, .active⟩]
  matchRows := []

def awaitingFresh : Fresh := ⟨Uuid.ofNat 4, Uuid.ofNat 5, .epoch⟩

def awaitingAcceptance : Acceptance where
  requestId := Uuid.ofNat 3
  riderId := Uuid.ofNat 2
  driverId := Uuid.ofNat 1
  fromGeo := "tdr1w"
  toGeo := "tdr1y"
  departAt := .epoch
  seats := 1

theorem awaiting_all_or_nothing :
    ((Job.acceptRideRequest awaitingAcceptance).run awaitingFresh awaiting).1 =
        .ok (some (awaitingFresh.accepted awaitingAcceptance)) ∧
      (Job.acceptRideRequest { awaitingAcceptance with requestId := Uuid.ofNat 9 }).run
        awaitingFresh awaiting = (.ok none, awaiting) ∧
      (Job.acceptRideRequest { awaitingAcceptance with driverId := Uuid.ofNat 2 }).run
        awaitingFresh awaiting = (.error (.violation .riderIsDriver), awaiting) := by
  have kept : awaiting.KeepsSchema := (keepsSchema_iff_checked 0).mpr rfl
  have isNew : awaitingFresh.IsNew awaiting := ⟨by simp [awaiting], by simp [awaiting]⟩
  have apart : Uuid.ofNat 2 ≠ Uuid.ofNat 1 := by decide
  have awaits : awaiting.Awaits (Uuid.ofNat 3) := ⟨_, List.mem_singleton.mpr rfl, rfl, rfl⟩
  have gone : ¬awaiting.Awaits (Uuid.ofNat 9) := by
    rintro ⟨row, member, keyed, -⟩
    obtain rfl := List.mem_singleton.mp member
    exact absurd (Uuid.text_inj.mp (Option.some.inj keyed)) (by decide)
  have settles := acceptance_all_or_nothing kept isNew
  obtain ⟨row, -, accepted⟩ := (settles awaitingAcceptance).accepted rfl apart awaits
  exact ⟨congrArg Prod.fst accepted, (settles _).declined rfl apart gone,
    (settles _).selfRide rfl rfl⟩

end Store

end Carpool
