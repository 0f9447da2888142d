import Carpool.Proofs.Store.Integrity
import Carpool.Store.Maintenance

/-!
# References between the tables

Requests and offers refer to users, and matches refer to offers.  Every job of
the store keeps each reference on a row that is there, and so does the removal of
rows, which takes along what refers to them or makes it refer to nobody.
-/

namespace Carpool

namespace Store

namespace Database

/-- Every reference names a row that is there, and nobody rides with themselves. -/
structure Referential (database : Database) : Prop where
  owners : ∀ row ∈ database.requestRows,
    some row.userId ∈ database.userRows.map UserRow.userId
  drivers : ∀ row ∈ database.offerRows, ∀ id, row.driverId = some id →
    some id ∈ database.userRows.map UserRow.userId
  rides : ∀ row ∈ database.matchRows,
    some row.rideId ∈ database.offerRows.map OfferRow.offerId
  apart : ∀ row ∈ database.matchRows, row.riderId ≠ row.driverId

variable {before after : Database}

theorem Referential.empty : Database.empty.Referential := by
  constructor <;> simp [Database.empty]

theorem findUser?_isSome {database : Database} {id : String} :
    (database.findUser? id).isSome ↔ some id ∈ database.userRows.map UserRow.userId := by
  rw [Option.isSome_iff_ne_none, findUser?, Ne, find?_eq_none_iff, not_not]

theorem findOffer?_isSome {database : Database} {id : String} :
    (database.findOffer? id).isSome ↔ some id ∈ database.offerRows.map OfferRow.offerId := by
  rw [Option.isSome_iff_ne_none, findOffer?, Ne, find?_eq_none_iff, not_not]

/-! ## Insertions -/

theorem Referential.insertUser {row : UserRow} (kept : before.Referential)
    (inserted : before.insertUser row = .ok after) : after.Referential := by
  obtain ⟨-, -, rfl⟩ := insertUser_eq_ok.mp inserted
  have grown {id : Option String} (present : id ∈ before.userRows.map UserRow.userId) :
      id ∈ (before.userRows ++ [row]).map UserRow.userId := by
    rw [List.map_append]
    exact List.mem_append_left _ present
  exact { kept with
    owners := fun request member => grown (kept.owners request member)
    drivers := fun offer member id drives => grown (kept.drivers offer member id drives) }

theorem Referential.insertOffer {row : OfferRow} (kept : before.Referential)
    (inserted : before.insertOffer row = .ok after) : after.Referential := by
  obtain ⟨-, refers, rfl⟩ := insertOffer_eq_ok.mp inserted
  refine { kept with drivers := ?_, rides := ?_ }
  · intro offer member id drives
    rcases List.mem_append.mp member with old | new
    · exact kept.drivers offer old id drives
    · rw [List.mem_singleton.mp new] at drives
      rw [refersToUser, drives] at refers
      exact findUser?_isSome.mp refers
  · intro pairing member
    rw [List.map_append]
    exact List.mem_append_left _ (kept.rides pairing member)

theorem Referential.insertRequest {row : RequestRow} (kept : before.Referential)
    (inserted : before.insertRequest row = .ok after) : after.Referential := by
  obtain ⟨-, refers, rfl⟩ := insertRequest_eq_ok.mp inserted
  refine { kept with owners := ?_ }
  intro request member
  rcases List.mem_append.mp member with old | new
  · exact kept.owners request old
  · rw [List.mem_singleton.mp new]
    exact findUser?_isSome.mp refers

theorem Referential.insertMatch {row : MatchRow} (kept : before.Referential)
    (inserted : before.insertMatch row = .ok after) : after.Referential := by
  obtain ⟨other, -, refers, rfl⟩ := insertMatch_eq_ok.mp inserted
  refine { kept with rides := ?_, apart := ?_ }
  · intro pairing member
    rcases List.mem_append.mp member with old | new
    · exact kept.rides pairing old
    · rw [List.mem_singleton.mp new]
      exact findOffer?_isSome.mp refers
  · intro pairing member
    rcases List.mem_append.mp member with old | new
    · exact kept.apart pairing old
    · rw [List.mem_singleton.mp new]
      exact other

/-! ## Changes in place -/

theorem Referential.swapLastSeen (kept : before.Referential) (id : String) (expected new : Int) :
    (before.swapLastSeen id expected new).1.Referential := by
  have same : (before.swapLastSeen id expected new).1.userRows.map UserRow.userId =
      before.userRows.map UserRow.userId := map_changeWhere fun _ => rfl
  refine { kept with owners := ?_, drivers := ?_ }
  · intro request member
    rw [same]
    exact kept.owners request member
  · intro offer member driver drives
    rw [same]
    exact kept.drivers offer member driver drives

theorem Referential.swapRequestStatus (kept : before.Referential) (id expected new : String) :
    (before.swapRequestStatus id expected new).1.Referential := by
  refine { kept with owners := ?_ }
  intro request member
  obtain ⟨old, stored, rfl⟩ := mem_changeWhere.mp member
  split <;> exact kept.owners old stored

/-- A change of the statuses of some matches touches no reference. -/
theorem Referential.changeMatches {test : MatchRow → Bool} {status : String}
    (kept : before.Referential)
    (changed : after = { before with matchRows :=
      (changeWhere test (fun row => { row with status := status }) before.matchRows).1 }) :
    after.Referential := by
  subst changed
  refine { kept with rides := ?_, apart := ?_ }
  · intro pairing member
    obtain ⟨old, stored, rfl⟩ := mem_changeWhere.mp member
    split <;> exact kept.rides old stored
  · intro pairing member
    obtain ⟨old, stored, rfl⟩ := mem_changeWhere.mp member
    split <;> exact kept.apart old stored

/-! ## Removals -/

theorem Referential.deleteMatch (kept : before.Referential) (id : String) :
    (before.deleteMatch id).Referential where
  owners := kept.owners
  drivers := kept.drivers
  rides row member := kept.rides row (List.mem_filter.mp member).1
  apart row member := kept.apart row (List.mem_filter.mp member).1

theorem Referential.deleteRequest (kept : before.Referential) (id : String) :
    (before.deleteRequest id).Referential :=
  { kept with owners := fun row member => kept.owners row (List.mem_filter.mp member).1 }

/-- A key that is not removed is still there. -/
theorem mem_map_filter_of_ne {ρ : Type} {key : ρ → Option String} {rows : List ρ}
    {id other : String} (present : some other ∈ rows.map key) (different : other ≠ id) :
    some other ∈ (rows.filter fun row => key row != some id).map key := by
  obtain ⟨row, member, keyed⟩ := List.mem_map.mp present
  refine List.mem_map.mpr ⟨row, List.mem_filter.mpr ⟨member, ?_⟩, keyed⟩
  rw [keyed]
  simpa using different

/-- The matches on a removed offer go with it. -/
theorem Referential.deleteOffer (kept : before.Referential) (id : String) :
    (before.deleteOffer id).Referential where
  owners := kept.owners
  drivers row member := kept.drivers row (List.mem_filter.mp member).1
  rides row member := by
    obtain ⟨stored, other⟩ := List.mem_filter.mp member
    exact mem_map_filter_of_ne (kept.rides row stored) (by simpa using other)
  apart row member := kept.apart row (List.mem_filter.mp member).1

/-- Offers stay when their drivers go. -/
theorem offerIds_deleteUser (database : Database) (id : String) :
    (database.deleteUser id).offerRows.map OfferRow.offerId =
      database.offerRows.map OfferRow.offerId := by
  refine (List.map_map ..).trans (List.map_congr_left fun row member => ?_)
  dsimp only [Function.comp_apply]
  split <;> rfl

/-- The requests of a removed user go as well, and the offers have no driver any
more. -/
theorem Referential.deleteUser (kept : before.Referential) (id : String) :
    (before.deleteUser id).Referential where
  owners row member := by
    obtain ⟨stored, other⟩ := List.mem_filter.mp member
    exact mem_map_filter_of_ne (kept.owners row stored) (by simpa using other)
  drivers row member driver drives := by
    obtain ⟨old, stored, rfl⟩ := List.mem_map.mp member
    split at drives
    · cases drives
    · rename_i other
      have different : driver ≠ id := by
        rintro rfl
        exact other (by simp [drives])
      exact mem_map_filter_of_ne (kept.drivers old stored driver drives) different
  rides row member := by
    rw [offerIds_deleteUser]
    exact kept.rides row member
  apart := kept.apart

theorem Referential.remove (kept : before.Referential) (table : Table) (id : String) :
    (before.remove table id).1.Referential := by
  cases table with
  | users => exact kept.deleteUser id
  | rideOffers => exact kept.deleteOffer id
  | rideRequests => exact kept.deleteRequest id
  | «matches» => exact kept.deleteMatch id

/-- Rows that are left are still in order. -/
theorem nodup_filter {ρ σ : Type} {column : ρ → σ} {rows : List ρ}
    (distinct : (rows.map column).Nodup) (test : ρ → Bool) :
    ((rows.filter test).map column).Nodup :=
  distinct.sublist (List.filter_sublist.map column)

theorem WellFormed.deleteUser (formed : before.WellFormed) (id : String) :
    (before.deleteUser id).WellFormed := by
  refine { formed with
    userEncoded := fun row member => formed.userEncoded row (List.mem_filter.mp member).1
    userDistinct := nodup_filter formed.userDistinct _
    emailDistinct := nodup_filter formed.emailDistinct _
    requestEncoded := fun row member => formed.requestEncoded row (List.mem_filter.mp member).1
    requestDistinct := nodup_filter formed.requestDistinct _
    offerEncoded := ?_
    offerDistinct := ?_ }
  · intro row member
    obtain ⟨old, stored, rfl⟩ := List.mem_map.mp member
    obtain ⟨offer, encoded⟩ := formed.offerEncoded old stored
    split
    · refine ⟨{ offer with driverId := none }, ?_⟩
      obtain ⟨number, rfl⟩ := OfferRow.ofOffer_eq_ok.mp encoded
      exact OfferRow.ofOffer_eq_ok.mpr ⟨number, rfl⟩
    · exact ⟨offer, encoded⟩
  · rw [offerIds_deleteUser]
    exact formed.offerDistinct

theorem WellFormed.remove (formed : before.WellFormed) (table : Table) (id : String) :
    (before.remove table id).1.WellFormed := by
  cases table with
  | users => exact formed.deleteUser id
  | rideOffers =>
      exact { formed with
        offerEncoded := fun row member => formed.offerEncoded row (List.mem_filter.mp member).1
        offerDistinct := nodup_filter formed.offerDistinct _
        matchEncoded := fun row member => formed.matchEncoded row (List.mem_filter.mp member).1
        matchDistinct := nodup_filter formed.matchDistinct _ }
  | rideRequests =>
      exact { formed with
        requestEncoded := fun row member => formed.requestEncoded row (List.mem_filter.mp member).1
        requestDistinct := nodup_filter formed.requestDistinct _ }
  | «matches» =>
      exact { formed with
        matchEncoded := fun row member => formed.matchEncoded row (List.mem_filter.mp member).1
        matchDistinct := nodup_filter formed.matchDistinct _ }

end Database

/-! ## Every job -/

/-- Every job keeps the references, whatever it is given. -/
theorem Effect.referential {fresh : Fresh} {before after : Database} {job : Job}
    {answer : Option (Except StoreError job.Result)}
    (effect : Effect fresh before job answer after) (kept : before.Referential) :
    after.Referential := by
  cases effect with
  | read look planned => exact kept
  | abandoned => exact kept
  | refused violation => exact kept
  | declined acceptance => exact kept
  | userCreated input after inserted => exact kept.insertUser inserted
  | offerCreated input row after encoded inserted => exact kept.insertOffer inserted
  | requestCreated input after inserted => exact kept.insertRequest inserted
  | matchCreated input after inserted => exact kept.insertMatch inserted
  | seenSwapped id expected new => exact kept.swapLastSeen _ _ _
  | requestSwapped id expected new => exact kept.swapRequestStatus _ _ _
  | matchSwapped id expected new => exact kept.changeMatches rfl
  | matchForced id new => exact kept.changeMatches rfl
  | accepted acceptance after committed =>
      obtain ⟨row, offered, paired, -, offering, pairing, -, rfl⟩ :=
        Database.accept_eq_ok committed
      exact ((kept.insertOffer offering).insertMatch pairing).swapRequestStatus _ _ _

end Store

end Carpool
