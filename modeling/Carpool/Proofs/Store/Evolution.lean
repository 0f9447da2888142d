import Carpool.Proofs.Store.Growth
import Carpool.Proofs.Store.Reading

/-!
# While rides are published and matched

As long as nobody signs up or visits, users stay as they are.  Records that have
been read are read again with the same contents, but for their statuses, and an
acceptance under new identifiers fails just if its driver is nobody.
-/

namespace Carpool

namespace Store

/-! ## New identifiers -/

/-- No record is stored under an identifier. -/
structure Database.Unused (database : Database) (id : Uuid) : Prop where
  user : database.findUser? id.text = none
  offer : database.findOffer? id.text = none
  request : database.findRequest? id.text = none
  pairing : database.findMatch? id.text = none

instance (database : Database) (id : Uuid) : Decidable (database.Unused id) :=
  decidable_of_iff
    (database.findUser? id.text = none ∧ database.findOffer? id.text = none ∧
      database.findRequest? id.text = none ∧ database.findMatch? id.text = none)
    ⟨fun ⟨user, offer, request, pairing⟩ => ⟨user, offer, request, pairing⟩,
      fun unused => ⟨unused.user, unused.offer, unused.request, unused.pairing⟩⟩

/-- The identifiers under which a job stores new records. -/
def Job.draws (fresh : Fresh) : Job → List Uuid
  | .createUser _ | .createOffer _ | .createRequest _ | .createMatch _ => [fresh.first]
  | .acceptRideRequest _ => [fresh.first, fresh.second]
  | _ => []

/-- New records are stored under new identifiers. -/
def Job.DrawsUnused (job : Job) (fresh : Fresh) (database : Database) : Prop :=
  ∀ id ∈ job.draws fresh, database.Unused id

instance (job : Job) (fresh : Fresh) (database : Database) :
    Decidable (job.DrawsUnused fresh database) :=
  inferInstanceAs (Decidable (∀ id ∈ job.draws fresh, database.Unused id))

/-! ## Records whose status moves -/

theorem RequestRow.decode_withStatus {request : RideRequest}
    (decoded : (RequestRow.ofRequest request).decode = .ok request) (status : RequestStatus) :
    (RequestRow.ofRequest { request with status }).decode = .ok { request with status } := by
  rw [RequestRow.decode_ofRequest] at decoded ⊢
  dsimp only
  cases time : decodeTime request.departAt.storedText with
  | error error => simp [time, Except.map] at decoded
  | ok departAt =>
      rw [time] at decoded
      have same := congrArg RideRequest.departAt (Except.ok.inj decoded)
      simp only at same
      rw [same]
      rfl

theorem MatchRow.decode_withStatus {record : Match}
    (decoded : (MatchRow.ofMatch record).decode = .ok record) (status : MatchStatus) :
    (MatchRow.ofMatch { record with status }).decode = .ok { record with status } := by
  rw [MatchRow.decode_ofMatch] at decoded ⊢
  dsimp only
  cases time : decodeTime record.createdAt.storedText with
  | error error => simp [time, Except.map] at decoded
  | ok createdAt =>
      rw [time] at decoded
      have same := congrArg Match.createdAt (Except.ok.inj decoded)
      simp only at same
      rw [same]
      rfl

namespace Database

/-- What becomes of the contents while rides are published and matched. -/
structure Evolves (policy : CompletionPolicy) (before after : Database) : Prop where
  grown : before.Extends policy after
  users : after.userRows = before.userRows

variable {policy : CompletionPolicy} {before after later : Database} {id : Uuid}

theorem Evolves.refl (formed : before.WellFormed) : before.Evolves policy before :=
  ⟨.refl formed, rfl⟩

theorem Evolves.trans (first : before.Evolves policy after) (second : after.Evolves policy later) :
    before.Evolves policy later :=
  ⟨first.grown.trans second.grown, second.users.trans first.users⟩

theorem Evolves.findUser? (evolved : before.Evolves policy after) (id : String) :
    after.findUser? id = before.findUser? id := by
  rw [Database.findUser?, evolved.users]
  rfl

/-! ## Reading again -/

theorem Evolves.getOffer (evolved : before.Evolves policy after) {offer : RideOffer}
    (read : (before.findOffer? id.text).mapM OfferRow.decode = .ok (some offer)) :
    (after.findOffer? id.text).mapM OfferRow.decode = .ok (some offer) := by
  obtain ⟨row, found, decoded⟩ := mapM_eq_ok_some.mp read
  exact mapM_eq_ok_some.mpr ⟨row, evolved.grown.offers found, decoded⟩

theorem Evolves.getRequest (evolved : before.Evolves policy after) (formed : before.WellFormed)
    {request : RideRequest}
    (read : (before.findRequest? id.text).mapM RequestRow.decode = .ok (some request)) :
    ∃ status, request.status.Leads status ∧
      (after.findRequest? id.text).mapM RequestRow.decode = .ok (some { request with status }) := by
  obtain ⟨rfl, stored⟩ := formed.of_getRequest read
  obtain ⟨row, found, decoded⟩ := mapM_eq_ok_some.mp read
  obtain rfl := Option.some.inj (stored.symm.trans found)
  obtain ⟨status, leads, foundAfter⟩ := evolved.grown.requests request stored
  refine ⟨status, leads, mapM_eq_ok_some.mpr ⟨_, foundAfter, ?_⟩⟩
  exact RequestRow.decode_withStatus decoded status

theorem Evolves.getMatch (evolved : before.Evolves policy after) (formed : before.WellFormed)
    {record : Match}
    (read : (before.findMatch? id.text).mapM MatchRow.decode = .ok (some record)) :
    ∃ status, MatchStatus.Leads policy record.status status ∧
      (after.findMatch? id.text).mapM MatchRow.decode = .ok (some { record with status }) := by
  obtain ⟨rfl, stored⟩ := formed.of_getMatch read
  obtain ⟨row, found, decoded⟩ := mapM_eq_ok_some.mp read
  obtain rfl := Option.some.inj (stored.symm.trans found)
  obtain ⟨status, leads, foundAfter⟩ := evolved.grown.pairings record stored
  refine ⟨status, leads, mapM_eq_ok_some.mpr ⟨_, foundAfter, ?_⟩⟩
  exact MatchRow.decode_withStatus decoded status

/-! ## What has been read and what is changed -/

def Awaits (database : Database) (request : Uuid) : Prop :=
  ∃ row ∈ database.requestRows,
    row.requestId = some request.text ∧ row.status = RequestStatus.active.name

theorem WellFormed.awaits_iff (formed : before.WellFormed) {request : RideRequest}
    (read : (before.findRequest? id.text).mapM RequestRow.decode = .ok (some request)) :
    before.Awaits id ↔ request.status = .active := by
  obtain ⟨rfl, stored⟩ := formed.of_getRequest read
  constructor
  · rintro ⟨row, member, keyed, active⟩
    have found := find?_of_mem formed.requestDistinct member keyed
    obtain rfl := Option.some.inj (stored.symm.trans found)
    exact RequestStatus.name_inj.mp active
  · intro active
    obtain ⟨member, keyed⟩ := mem_of_find? stored
    exact ⟨_, member, keyed, congrArg RequestStatus.name active⟩

/-- A match that still has the expected status is changed. -/
theorem WellFormed.swap_applied (formed : before.WellFormed) {record : Match}
    {new : MatchStatus} {fresh : Fresh} {patience : Patience} {answer : Except StoreError Swap}
    (read : (before.findMatch? id.text).mapM MatchRow.decode = .ok (some record))
    (ran : (Job.swapMatchStatus id record.status new).runWhile fresh patience before =
      (some answer, after)) : answer = .ok .applied := by
  obtain ⟨rfl, stored⟩ := formed.of_getMatch read
  obtain ⟨rfl, -⟩ := Job.of_swapMatchStatus ran
  obtain ⟨member, keyed⟩ := mem_of_find? stored
  have changed : (before.swapMatchStatus record.matchId.text record.status.name new.name).2 ≠ 0 :=
    swapMatchStatus_ne_zero.mpr ⟨_, member, keyed, rfl⟩
  rw [Swap.ofChanged, if_neg changed]

/-- A match that has another status than the expected one stays as it is. -/
theorem WellFormed.swap_stale (formed : before.WellFormed) {record : Match}
    {expected new : MatchStatus} {fresh : Fresh} {patience : Patience}
    {answer : Except StoreError Swap}
    (read : (before.findMatch? id.text).mapM MatchRow.decode = .ok (some record))
    (other : record.status ≠ expected)
    (ran : (Job.swapMatchStatus id expected new).runWhile fresh patience before =
      (some answer, after)) : answer = .ok .stale ∧ after = before := by
  obtain ⟨rfl, stored⟩ := formed.of_getMatch read
  obtain ⟨rfl, rfl⟩ := Job.of_swapMatchStatus ran
  have unchanged : before.swapMatchStatus record.matchId.text expected.name new.name =
      (before, 0) := by
    apply swapMatchStatus_of_other
    intro row member keyed same
    have found := find?_of_mem formed.matchDistinct member keyed
    obtain rfl := Option.some.inj (stored.symm.trans found)
    exact other (MatchStatus.name_inj.mp same)
  rw [unchanged]
  exact ⟨rfl, rfl⟩

/-! ## Acceptances under new identifiers -/

theorem Evolves.unused (evolved : before.Evolves policy after) (formed : before.WellFormed)
    (unused : after.Unused id) : before.Unused id where
  user := by
    rw [← evolved.findUser?]
    exact unused.user
  offer := by
    cases found : before.findOffer? id.text with
    | none => rfl
    | some row => exact nomatch unused.offer.symm.trans (evolved.grown.offers found)
  request := by
    cases found : before.findRequest? id.text with
    | none => rfl
    | some row =>
        obtain ⟨member, keyed⟩ := mem_of_find? found
        obtain ⟨request, rfl⟩ := formed.requestEncoded row member
        obtain rfl := Uuid.text_inj.mp (Option.some.inj keyed)
        obtain ⟨status, -, foundAfter⟩ := evolved.grown.requests request found
        exact nomatch unused.request.symm.trans foundAfter
  pairing := by
    cases found : before.findMatch? id.text with
    | none => rfl
    | some row =>
        obtain ⟨member, keyed⟩ := mem_of_find? found
        obtain ⟨record, rfl⟩ := formed.matchEncoded row member
        obtain rfl := Uuid.text_inj.mp (Option.some.inj keyed)
        obtain ⟨status, -, foundAfter⟩ := evolved.grown.pairings record found
        exact nomatch unused.pairing.symm.trans foundAfter

theorem exists_acceptedRow (fresh : Fresh) (acceptance : Acceptance) :
    ∃ row, OfferRow.ofOffer (fresh.accepted acceptance).offer = .ok row ∧
      row.offerId = some fresh.first.text ∧ row.driverId = some acceptance.driverId.text := by
  have number : Binary64.zero.isNaN = false := by decide
  exact ⟨_, OfferRow.ofOffer_eq_ok.mpr ⟨number, rfl⟩, rfl, rfl⟩

variable {fresh : Fresh} {acceptance : Acceptance}

/-- The tables with an offer and a match more. -/
def booked (database : Database) (offer : OfferRow) (pairing : MatchRow) : Database :=
  { database with
    offerRows := database.offerRows ++ [offer]
    matchRows := database.matchRows ++ [pairing] }

/-- The last statement of an acceptance. -/
def takeRequest (database : Database) (request : Uuid) : Database × Nat :=
  database.swapRequestStatus request.text RequestStatus.active.name RequestStatus.matched.name

theorem takeRequest_ne_zero {database : Database} {request : Uuid} :
    (database.takeRequest request).2 ≠ 0 ↔ database.Awaits request :=
  swapRequestStatus_ne_zero

section NewRows

variable {row : OfferRow}

/-- Nobody without an account drives. -/
theorem accept_of_unknown (request : Uuid)
    (newOffer : some fresh.first.text ∉ before.offerRows.map OfferRow.offerId)
    (stranger : before.findUser? acceptance.driverId.text = none) :
    before.accept request (fresh.accepted acceptance) = .error .foreignKey := by
  obtain ⟨row, encoded, keyed, drives⟩ := exists_acceptedRow fresh acceptance
  have absent : before.offerRows.any (fun other => other.offerId == row.offerId) = false := by
    rw [keyed]
    simpa using newOffer
  have refused : before.insertOffer row = .error .foreignKey := by
    rw [insertOffer, absent, Bool.and_false, if_neg (by simp), if_pos]
    simp [refersToUser, drives, stranger]
  rw [Database.accept, encoded, ok_bind, refused]
  rfl

theorem insertOffer_of_accepted
    (encoded : OfferRow.ofOffer (fresh.accepted acceptance).offer = .ok row)
    (newOffer : some fresh.first.text ∉ before.offerRows.map OfferRow.offerId)
    (known : (before.findUser? acceptance.driverId.text).isSome) :
    before.insertOffer row = .ok { before with offerRows := before.offerRows ++ [row] } := by
  obtain ⟨-, rfl⟩ := OfferRow.ofOffer_eq_ok.mp encoded
  refine insertOffer_eq_ok.mpr ⟨fun used => newOffer used.2, ?_, rfl⟩
  exact known

/-- Nobody rides with themselves. -/
theorem accept_of_selfRide (request : Uuid)
    (newOffer : some fresh.first.text ∉ before.offerRows.map OfferRow.offerId)
    (known : (before.findUser? acceptance.driverId.text).isSome)
    (alone : acceptance.riderId = acceptance.driverId) :
    before.accept request (fresh.accepted acceptance) = .error .riderIsDriver := by
  obtain ⟨row, encoded, -, -⟩ := exists_acceptedRow fresh acceptance
  have offering := insertOffer_of_accepted encoded newOffer known
  let record := MatchRow.ofMatch (fresh.accepted acceptance).record
  have same : record.riderId = record.driverId := congrArg Uuid.text alone
  have refused (offered : Database) : offered.insertMatch record = .error .riderIsDriver := by
    rw [insertMatch, if_pos (by simpa using same)]
  rw [Database.accept, encoded, ok_bind, offering, ok_bind, refused]
  rfl

/-- The offer and the match of an acceptance by another user than the rider can always
be inserted; what becomes of them is up to the request. -/
theorem accept_of_driver (request : Uuid)
    (encoded : OfferRow.ofOffer (fresh.accepted acceptance).offer = .ok row)
    (newOffer : some fresh.first.text ∉ before.offerRows.map OfferRow.offerId)
    (newMatch : some fresh.second.text ∉ before.matchRows.map MatchRow.matchId)
    (known : (before.findUser? acceptance.driverId.text).isSome)
    (other : acceptance.riderId ≠ acceptance.driverId) :
    before.accept request (fresh.accepted acceptance) =
      let taken :=
        (before.booked row (.ofMatch (fresh.accepted acceptance).record)).takeRequest request
      .ok (if taken.2 = 0 then none else some taken.1) := by
  have offering := insertOffer_of_accepted encoded newOffer known
  let offered : Database := { before with offerRows := before.offerRows ++ [row] }
  let record := MatchRow.ofMatch (fresh.accepted acceptance).record
  have keyed : row.offerId = some fresh.first.text := OfferRow.offerId_of_encoded encoded
  have stored : offered.findOffer? record.rideId = some row := find?_new (keyed ▸ newOffer) keyed
  have pairing : offered.insertMatch record =
      .ok { offered with matchRows := offered.matchRows ++ [record] } := by
    refine insertMatch_eq_ok.mpr ⟨?_, fun used => newMatch used.2, by simp [stored], rfl⟩
    exact fun alike => other (Uuid.text_inj.mp alike)
  rw [Database.accept, encoded, ok_bind, offering, ok_bind, pairing, ok_bind]
  rfl

end NewRows

/-- Nobody accepts a request without an account. -/
theorem accept_of_stranger {request : Uuid} (unused : before.Unused fresh.first)
    (stranger : before.findUser? acceptance.driverId.text = none) :
    before.accept request (fresh.accepted acceptance) = .error .foreignKey :=
  accept_of_unknown request (find?_eq_none_iff.mp unused.offer) stranger

/-- An acceptance by another user than the rider goes through, unless the
request is no longer active. -/
theorem accept_of_user (request : Uuid)
    (unused : ∀ id ∈ [fresh.first, fresh.second], before.Unused id)
    (known : (before.findUser? acceptance.driverId.text).isSome)
    (other : acceptance.riderId ≠ acceptance.driverId) :
    ∃ outcome, before.accept request (fresh.accepted acceptance) = .ok outcome ∧
      (outcome.isSome ↔ before.Awaits request) := by
  obtain ⟨row, encoded, -, -⟩ := exists_acceptedRow fresh acceptance
  have newOffer := find?_eq_none_iff.mp (unused fresh.first (by simp)).offer
  have newMatch := find?_eq_none_iff.mp (unused fresh.second (by simp)).pairing
  refine ⟨_, accept_of_driver request encoded newOffer newMatch known other, ?_⟩
  refine Iff.trans ?_ (takeRequest_ne_zero : _ ↔
    (before.booked row (.ofMatch (fresh.accepted acceptance).record)).Awaits request)
  split
  · exact iff_of_false (by simp) (not_not.mpr ‹_›)
  · exact iff_of_true rfl ‹_›

end Database

end Store

end Carpool
