import Carpool.Proofs.Ride.Draft
import Carpool.Proofs.Store.Integrity
import Carpool.Proofs.Text.Blank

/-!
# Rides as they are stored

An offer is stored once and for all, when it is published or with an acceptance.
Of a request nothing but the status ever changes.
-/

namespace Carpool

theorem Binary64.IsFare.withoutNegativeZero {fare : Binary64} (sound : fare.IsFare) :
    fare.withoutNegativeZero.IsFare := by
  rw [Binary64.withoutNegativeZero]
  split
  · exact ⟨by decide, by decide⟩
  · exact sound

theorem Binary64.isFare_zero : Binary64.zero.IsFare := ⟨by decide, by decide⟩

namespace Store

/-! ## Sound rows -/

/-- A place as it is stored: a text without blank ends. -/
structure IsPlace (place : String) : Prop where
  present : place ≠ ""
  trimmed : Text.trim place = place

theorem IsPlace.trim {place : String} (present : Text.trim place ≠ "") :
    IsPlace (Text.trim place) :=
  ⟨present, Text.trim_trim place⟩

/-- The route of a ride leads from one place to another, and there is a seat. -/
structure SoundRoute (fromGeo toGeo : String) (seats : Cell) : Prop where
  fromGeo : IsPlace fromGeo
  toGeo : IsPlace toGeo
  seats : ∃ count : Nat, seats = .integer count ∧ 1 ≤ count

theorem SoundRoute.of_drafted {fromGeo toGeo : String} {departAt now : Instant} {seats : UInt32}
    (sound : ∀ flaw, ¬Flaw.OfRide fromGeo toGeo departAt seats now flaw) :
    SoundRoute (Text.trim fromGeo) (Text.trim toGeo) (.integer seats.toNat) where
  fromGeo := .trim fun blank => sound _ (.origin blank)
  toGeo := .trim fun blank => sound _ (.destination blank)
  seats := by
    refine ⟨seats.toNat, rfl, Nat.one_le_iff_ne_zero.mpr fun none => ?_⟩
    exact sound _ (.full (UInt32.toNat_inj.mp none))

/-- The row of an offer holds a ride that can be offered, for a fare that can be
asked. -/
structure OfferRow.Sound (row : OfferRow) : Prop where
  route : SoundRoute row.fromGeo row.toGeo row.seats
  fare : ∃ fare : Binary64, row.fare = .real fare ∧ fare.IsFare

def RequestRow.Sound (row : RequestRow) : Prop :=
  SoundRoute row.fromGeo row.toGeo row.seats

/-- A row with another status. -/
def RequestRow.withStatus (row : RequestRow) (status : String) : RequestRow :=
  { row with status }

namespace Database

/-- The request of a row is stored, with whatever status. -/
def HasRequest (database : Database) (row : RequestRow) : Prop :=
  ∃ status, row.withStatus status ∈ database.requestRows

variable {database : Database} {row : RequestRow}

theorem hasRequest_of_mem (member : row ∈ database.requestRows) : database.HasRequest row :=
  ⟨row.status, member⟩

theorem hasRequest_swapRequestStatus {id expected new : String} :
    (database.swapRequestStatus id expected new).1.HasRequest row ↔ database.HasRequest row := by
  constructor
  · rintro ⟨status, member⟩
    obtain ⟨old, stored, same⟩ := mem_changeWhere.mp member
    split at same
    · have unchanged : row.withStatus old.status = old := by
        have restored := congrArg (fun changed => RequestRow.withStatus changed old.status) same
        exact restored.symm
      exact ⟨old.status, unchanged ▸ stored⟩
    · exact ⟨status, same ▸ stored⟩
  · rintro ⟨status, stored⟩
    by_cases meant : (row.requestId == some id && status == expected) = true
    · exact ⟨new, mem_changeWhere.mpr ⟨_, stored, if_pos meant⟩⟩
    · exact ⟨status, mem_changeWhere.mpr ⟨_, stored, if_neg meant⟩⟩

end Database

/-! ## What jobs do to rides -/

/-- The offers after a job: as before, or one more. -/
inductive OffersMove (fresh : Fresh) (before after : Database) (job : Job) : Prop
  | same (offers : after.offerRows = before.offerRows)
  | published (input : NewOffer) (row : OfferRow) (creates : job = .createOffer input)
      (encoded : OfferRow.ofOffer (fresh.offer input) = .ok row)
      (offers : after.offerRows = before.offerRows ++ [row])
  | accepted (acceptance : Acceptance) (row : OfferRow)
      (accepts : job = .acceptRideRequest acceptance)
      (encoded : OfferRow.ofOffer (fresh.accepted acceptance).offer = .ok row)
      (offers : after.offerRows = before.offerRows ++ [row])

/-- The requests after a job: as before but for a status, or one more. -/
inductive RequestsMove (fresh : Fresh) (before after : Database) (job : Job) : Prop
  | same (requests : ∀ row, after.HasRequest row ↔ before.HasRequest row)
  | created (input : NewRequest) (creates : job = .createRequest input)
      (requests : after.requestRows = before.requestRows ++ [.ofRequest (fresh.request input)])

variable {fresh : Fresh} {before after : Database} {job : Job}
  {answer : Option (Except StoreError job.Result)}

theorem Effect.offersMove (effect : Effect fresh before job answer after) :
    OffersMove fresh before after job := by
  by_cases writes : job.Writes .rideOffers
  · cases effect with
    | abandoned => exact .same rfl
    | refused violation => exact .same rfl
    | read look planned => exact .same rfl
    | declined acceptance => exact .same rfl
    | offerCreated input row after encoded inserted =>
        obtain ⟨-, -, rfl⟩ := Database.insertOffer_eq_ok.mp inserted
        exact .published input row rfl encoded rfl
    | accepted acceptance after committed =>
        obtain ⟨row, offered, paired, encoded, offering, pairing, -, rfl⟩ :=
          Database.accept_eq_ok committed
        obtain ⟨-, -, rfl⟩ := Database.insertOffer_eq_ok.mp offering
        obtain ⟨-, -, -, rfl⟩ := Database.insertMatch_eq_ok.mp pairing
        exact .accepted acceptance row rfl encoded rfl
    | _ => exact writes.elim
  · exact .same (effect.frame.offers writes)

theorem Effect.requestsMove (effect : Effect fresh before job answer after) :
    RequestsMove fresh before after job := by
  by_cases writes : job.Writes .rideRequests
  · cases effect with
    | abandoned => exact .same fun row => .rfl
    | refused violation => exact .same fun row => .rfl
    | read look planned => exact .same fun row => .rfl
    | declined acceptance => exact .same fun row => .rfl
    | requestCreated input after inserted =>
        obtain ⟨-, -, rfl⟩ := Database.insertRequest_eq_ok.mp inserted
        exact .created input rfl rfl
    | requestSwapped id expected new =>
        exact .same fun row => Database.hasRequest_swapRequestStatus
    | accepted acceptance after committed =>
        obtain ⟨row, offered, paired, encoded, offering, pairing, -, rfl⟩ :=
          Database.accept_eq_ok committed
        obtain ⟨-, -, rfl⟩ := Database.insertOffer_eq_ok.mp offering
        obtain ⟨-, -, -, rfl⟩ := Database.insertMatch_eq_ok.mp pairing
        exact .same fun row => Database.hasRequest_swapRequestStatus
    | _ => exact writes.elim
  · refine .same fun row => ?_
    rw [Database.HasRequest, Database.HasRequest, effect.frame.requests writes]

theorem Effect.hasRequest (effect : Effect fresh before job answer after) {row : RequestRow}
    (has : before.HasRequest row) : after.HasRequest row := by
  cases effect.requestsMove with
  | same requests => exact (requests row).mpr has
  | created input creates requests =>
      obtain ⟨status, stored⟩ := has
      exact ⟨status, requests ▸ List.mem_append_left _ stored⟩

/-- A request that a job has stored is the one that it was to create. -/
theorem Effect.created_of_hasRequest (effect : Effect fresh before job answer after)
    {row : RequestRow} (new : ¬before.HasRequest row) (has : after.HasRequest row) :
    ∃ input status, job = .createRequest input ∧
      row.withStatus status = .ofRequest (fresh.request input) := by
  cases effect.requestsMove with
  | same requests => exact absurd ((requests row).mp has) new
  | created input creates requests =>
      obtain ⟨status, stored⟩ := has
      rw [requests] at stored
      rcases List.mem_append.mp stored with old | made
      · exact absurd ⟨status, old⟩ new
      · exact ⟨input, status, creates, List.mem_singleton.mp made⟩

/-- An offer that a job has stored is one that it was to publish or that comes
with its acceptance. -/
theorem Effect.stored_of_mem_offers (effect : Effect fresh before job answer after)
    {row : OfferRow} (new : row ∉ before.offerRows) (member : row ∈ after.offerRows) :
    (∃ input, job = .createOffer input ∧ OfferRow.ofOffer (fresh.offer input) = .ok row) ∨
      ∃ acceptance, job = .acceptRideRequest acceptance ∧
        OfferRow.ofOffer (fresh.accepted acceptance).offer = .ok row := by
  cases effect.offersMove with
  | same offers => exact absurd (offers ▸ member) new
  | published input stored creates encoded offers =>
      rw [offers] at member
      rcases List.mem_append.mp member with old | made
      · exact absurd old new
      · obtain rfl := List.mem_singleton.mp made
        exact .inl ⟨input, creates, encoded⟩
  | accepted acceptance stored accepts encoded offers =>
      rw [offers] at member
      rcases List.mem_append.mp member with old | made
      · exact absurd old new
      · obtain rfl := List.mem_singleton.mp made
        exact .inr ⟨acceptance, accepts, encoded⟩

end Store

end Carpool
