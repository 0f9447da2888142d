import Carpool.Proofs.Store.Codec
import Carpool.Proofs.Store.Tables

/-!
# Integrity of the tables

Every stored row is the encoding of a record, and keys are distinct.  All store
jobs keep this, whatever they are given.
-/

namespace Carpool

namespace Store

/-- Every row encodes a record, and no key is used twice in its table. -/
structure Database.WellFormed (database : Database) : Prop where
  userEncoded : ∀ row ∈ database.userRows, ∃ user, row = UserRow.ofUser user
  offerEncoded : ∀ row ∈ database.offerRows, ∃ offer, OfferRow.ofOffer offer = .ok row
  requestEncoded : ∀ row ∈ database.requestRows, ∃ request, row = RequestRow.ofRequest request
  matchEncoded : ∀ row ∈ database.matchRows, ∃ record, row = MatchRow.ofMatch record
  userDistinct : (database.userRows.map UserRow.userId).Nodup
  emailDistinct : (database.userRows.map UserRow.email).Nodup
  offerDistinct : (database.offerRows.map OfferRow.offerId).Nodup
  requestDistinct : (database.requestRows.map RequestRow.requestId).Nodup
  matchDistinct : (database.matchRows.map MatchRow.matchId).Nodup

theorem Database.WellFormed.empty : Database.empty.WellFormed := by
  constructor <;> simp [Database.empty]

theorem OfferRow.ofOffer_eq_ok {offer : RideOffer} {row : OfferRow} :
    OfferRow.ofOffer offer = .ok row ↔ offer.fare.isNaN = false ∧
      row =
        { offerId := some offer.offerId.text
          driverId := offer.driverId.map Uuid.text
          fromGeo := offer.fromGeo
          toGeo := offer.toGeo
          fare := .real offer.fare.withoutNegativeZero
          departAt := offer.departAt.storedText
          seats := .integer offer.seats.toNat
          status := offer.status.name } := by
  rw [OfferRow.ofOffer]
  cases offer.fare.isNaN with
  | true => simp
  | false => simp [eq_comm]

theorem OfferRow.offerId_of_encoded {offer : RideOffer} {row : OfferRow}
    (encoded : OfferRow.ofOffer offer = .ok row) : row.offerId = some offer.offerId.text := by
  obtain ⟨-, rfl⟩ := OfferRow.ofOffer_eq_ok.mp encoded
  rfl

namespace Database

variable {before after : Database}

/-! ## Insertions -/

theorem WellFormed.insertUser {user : User} (formed : before.WellFormed)
    (inserted : before.insertUser (.ofUser user) = .ok after) : after.WellFormed := by
  obtain ⟨unused, newEmail, rfl⟩ := insertUser_eq_ok.mp inserted
  refine { formed with userEncoded := ?_, userDistinct := ?_, emailDistinct := ?_ }
  · intro row member
    rcases List.mem_append.mp member with old | new
    · exact formed.userEncoded row old
    · exact ⟨user, List.mem_singleton.mp new⟩
  · exact nodup_append_new formed.userDistinct (fun used => unused ⟨rfl, used⟩)
  · exact nodup_append_new formed.emailDistinct newEmail

theorem WellFormed.insertOffer {offer : RideOffer} {row : OfferRow} (formed : before.WellFormed)
    (encoded : OfferRow.ofOffer offer = .ok row) (inserted : before.insertOffer row = .ok after) :
    after.WellFormed := by
  obtain ⟨unused, -, rfl⟩ := insertOffer_eq_ok.mp inserted
  refine { formed with offerEncoded := ?_, offerDistinct := ?_ }
  · intro other member
    rcases List.mem_append.mp member with old | new
    · exact formed.offerEncoded other old
    · rw [List.mem_singleton.mp new]
      exact ⟨offer, encoded⟩
  · refine nodup_append_new formed.offerDistinct fun used => unused ⟨?_, used⟩
    rw [OfferRow.offerId_of_encoded encoded]
    rfl

theorem WellFormed.insertRequest {request : RideRequest} (formed : before.WellFormed)
    (inserted : before.insertRequest (.ofRequest request) = .ok after) : after.WellFormed := by
  obtain ⟨unused, -, rfl⟩ := insertRequest_eq_ok.mp inserted
  refine { formed with requestEncoded := ?_, requestDistinct := ?_ }
  · intro row member
    rcases List.mem_append.mp member with old | new
    · exact formed.requestEncoded row old
    · exact ⟨request, List.mem_singleton.mp new⟩
  · exact nodup_append_new formed.requestDistinct (fun used => unused ⟨rfl, used⟩)

theorem WellFormed.insertMatch {record : Match} (formed : before.WellFormed)
    (inserted : before.insertMatch (.ofMatch record) = .ok after) : after.WellFormed := by
  obtain ⟨-, unused, -, rfl⟩ := insertMatch_eq_ok.mp inserted
  refine { formed with matchEncoded := ?_, matchDistinct := ?_ }
  · intro row member
    rcases List.mem_append.mp member with old | new
    · exact formed.matchEncoded row old
    · exact ⟨record, List.mem_singleton.mp new⟩
  · exact nodup_append_new formed.matchDistinct (fun used => unused ⟨rfl, used⟩)

theorem findOffer?_inserted {offer : RideOffer} {row : OfferRow}
    (encoded : OfferRow.ofOffer offer = .ok row) (inserted : before.insertOffer row = .ok after) :
    after.findOffer? offer.offerId.text = some row := by
  obtain ⟨unused, -, rfl⟩ := insertOffer_eq_ok.mp inserted
  have keyed := OfferRow.offerId_of_encoded encoded
  refine find?_new (fun used => unused ⟨?_, used⟩) keyed
  rw [keyed]
  rfl

theorem findRequest?_inserted {request : RideRequest}
    (inserted : before.insertRequest (.ofRequest request) = .ok after) :
    after.findRequest? request.requestId.text = some (.ofRequest request) := by
  obtain ⟨unused, -, rfl⟩ := insertRequest_eq_ok.mp inserted
  exact find?_new (fun used => unused ⟨rfl, used⟩) rfl

/-! ## Changes in place -/

theorem WellFormed.swapLastSeen (formed : before.WellFormed) (id : String) (expected : Int)
    (new : Instant) : (before.swapLastSeen id expected new.second).1.WellFormed := by
  refine { formed with userEncoded := ?_, userDistinct := ?_, emailDistinct := ?_ }
  · intro row member
    obtain ⟨old, stored, rfl⟩ := mem_changeWhere.mp member
    obtain ⟨user, rfl⟩ := formed.userEncoded old stored
    split
    · exact ⟨{ user with lastSeen := new }, rfl⟩
    · exact ⟨user, rfl⟩
  · exact nodup_changeWhere formed.userDistinct fun _ => rfl
  · exact nodup_changeWhere formed.emailDistinct fun _ => rfl

theorem WellFormed.swapRequestStatus (formed : before.WellFormed) (id expected : String)
    (new : RequestStatus) : (before.swapRequestStatus id expected new.name).1.WellFormed := by
  refine { formed with requestEncoded := ?_, requestDistinct := ?_ }
  · intro row member
    obtain ⟨old, stored, rfl⟩ := mem_changeWhere.mp member
    obtain ⟨request, rfl⟩ := formed.requestEncoded old stored
    split
    · exact ⟨{ request with status := new }, rfl⟩
    · exact ⟨request, rfl⟩
  · exact nodup_changeWhere formed.requestDistinct fun _ => rfl

theorem WellFormed.swapMatchStatus (formed : before.WellFormed) (id expected : String)
    (new : MatchStatus) : (before.swapMatchStatus id expected new.name).1.WellFormed := by
  refine { formed with matchEncoded := ?_, matchDistinct := ?_ }
  · intro row member
    obtain ⟨old, stored, rfl⟩ := mem_changeWhere.mp member
    obtain ⟨record, rfl⟩ := formed.matchEncoded old stored
    split
    · exact ⟨{ record with status := new }, rfl⟩
    · exact ⟨record, rfl⟩
  · exact nodup_changeWhere formed.matchDistinct fun _ => rfl

theorem WellFormed.setMatchStatus (formed : before.WellFormed) (id : String)
    (new : MatchStatus) : (before.setMatchStatus id new.name).1.WellFormed := by
  refine { formed with matchEncoded := ?_, matchDistinct := ?_ }
  · intro row member
    obtain ⟨old, stored, rfl⟩ := mem_changeWhere.mp member
    obtain ⟨record, rfl⟩ := formed.matchEncoded old stored
    split
    · exact ⟨{ record with status := new }, rfl⟩
    · exact ⟨record, rfl⟩
  · exact nodup_changeWhere formed.matchDistinct fun _ => rfl

end Database

/-! ## Acceptances -/

theorem Database.accept_eq_ok {before after : Database} {request : Uuid} {accepted : Accepted}
    (committed : before.accept request accepted = .ok (some after)) :
    ∃ row offered paired, OfferRow.ofOffer accepted.offer = .ok row ∧
      before.insertOffer row = .ok offered ∧
      offered.insertMatch (.ofMatch accepted.record) = .ok paired ∧
      (paired.swapRequestStatus request.text RequestStatus.active.name
        RequestStatus.matched.name).2 ≠ 0 ∧
      after = (paired.swapRequestStatus request.text RequestStatus.active.name
        RequestStatus.matched.name).1 := by
  rw [Database.accept] at committed
  obtain ⟨row, encoded, committed⟩ := bind_eq_ok.mp committed
  obtain ⟨offered, offering, committed⟩ := bind_eq_ok.mp committed
  obtain ⟨paired, pairing, committed⟩ := bind_eq_ok.mp committed
  refine ⟨row, offered, paired, encoded, offering, pairing, ?_⟩
  have committed := Except.ok.inj committed
  split at committed
  · contradiction
  · exact ⟨‹_›, (Option.some.inj committed).symm⟩

variable {fresh : Fresh} {before after : Database}

/-- Every job keeps the tables well formed. -/
theorem Effect.wellFormed {job : Job} {answer : Option (Except StoreError job.Result)}
    (effect : Effect fresh before job answer after) (formed : before.WellFormed) :
    after.WellFormed := by
  cases effect with
  | read look planned => exact formed
  | abandoned => exact formed
  | refused violation => exact formed
  | declined acceptance => exact formed
  | userCreated input after inserted => exact formed.insertUser inserted
  | offerCreated input row after encoded inserted => exact formed.insertOffer encoded inserted
  | requestCreated input after inserted => exact formed.insertRequest inserted
  | matchCreated input after inserted => exact formed.insertMatch inserted
  | seenSwapped id expected new => exact formed.swapLastSeen _ _ new
  | requestSwapped id expected new => exact formed.swapRequestStatus _ _ new
  | matchSwapped id expected new => exact formed.swapMatchStatus _ _ new
  | matchForced id new => exact formed.setMatchStatus _ new
  | accepted acceptance after committed =>
      obtain ⟨row, offered, paired, encoded, offering, pairing, -, rfl⟩ :=
        Database.accept_eq_ok committed
      have offeredFormed := formed.insertOffer encoded offering
      have pairedFormed := offeredFormed.insertMatch pairing
      exact pairedFormed.swapRequestStatus _ _ .matched

/-! ## Tables that a job leaves alone -/

/-- The job may write to a table. -/
def Job.Writes : Job → Table → Prop
  | .createUser _, .users | .swapLastSeen _ _ _, .users => True
  | .createOffer _, .rideOffers | .acceptRideRequest _, .rideOffers => True
  | .createRequest _, .rideRequests | .swapRequestStatus _ _ _, .rideRequests
  | .acceptRideRequest _, .rideRequests => True
  | .createMatch _, .matches | .swapMatchStatus _ _ _, .matches
  | .forceMatchStatus _ _, .matches | .acceptRideRequest _, .matches => True
  | _, _ => False

/-- What a job does not write to stays as it was. -/
structure Job.Frame (job : Job) (before after : Database) : Prop where
  users : ¬job.Writes .users → after.userRows = before.userRows
  offers : ¬job.Writes .rideOffers → after.offerRows = before.offerRows
  requests : ¬job.Writes .rideRequests → after.requestRows = before.requestRows
  pairings : ¬job.Writes .matches → after.matchRows = before.matchRows

theorem Job.Frame.refl (job : Job) (database : Database) : job.Frame database database :=
  ⟨fun _ => rfl, fun _ => rfl, fun _ => rfl, fun _ => rfl⟩

theorem Effect.frame {job : Job} {answer : Option (Except StoreError job.Result)}
    (effect : Effect fresh before job answer after) : job.Frame before after := by
  cases effect with
  | read look planned => exact .refl _ _
  | abandoned => exact .refl _ _
  | refused violation => exact .refl _ _
  | declined acceptance => exact .refl _ _
  | userCreated input after inserted =>
      obtain ⟨-, -, rfl⟩ := Database.insertUser_eq_ok.mp inserted
      exact ⟨absurd trivial, fun _ => rfl, fun _ => rfl, fun _ => rfl⟩
  | offerCreated input row after encoded inserted =>
      obtain ⟨-, -, rfl⟩ := Database.insertOffer_eq_ok.mp inserted
      exact ⟨fun _ => rfl, absurd trivial, fun _ => rfl, fun _ => rfl⟩
  | requestCreated input after inserted =>
      obtain ⟨-, -, rfl⟩ := Database.insertRequest_eq_ok.mp inserted
      exact ⟨fun _ => rfl, fun _ => rfl, absurd trivial, fun _ => rfl⟩
  | matchCreated input after inserted =>
      obtain ⟨-, -, -, rfl⟩ := Database.insertMatch_eq_ok.mp inserted
      exact ⟨fun _ => rfl, fun _ => rfl, fun _ => rfl, absurd trivial⟩
  | seenSwapped id expected new => exact ⟨absurd trivial, fun _ => rfl, fun _ => rfl, fun _ => rfl⟩
  | requestSwapped id expected new =>
      exact ⟨fun _ => rfl, fun _ => rfl, absurd trivial, fun _ => rfl⟩
  | matchSwapped id expected new => exact ⟨fun _ => rfl, fun _ => rfl, fun _ => rfl, absurd trivial⟩
  | matchForced id new => exact ⟨fun _ => rfl, fun _ => rfl, fun _ => rfl, absurd trivial⟩
  | accepted acceptance after committed =>
      obtain ⟨row, offered, paired, -, offering, pairing, -, rfl⟩ := Database.accept_eq_ok committed
      obtain ⟨-, -, rfl⟩ := Database.insertOffer_eq_ok.mp offering
      obtain ⟨-, -, -, rfl⟩ := Database.insertMatch_eq_ok.mp pairing
      exact ⟨fun _ => rfl, absurd trivial, absurd trivial, absurd trivial⟩

end Store

end Carpool
