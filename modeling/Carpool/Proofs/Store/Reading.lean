import Carpool.Proofs.Store.Integrity

/-!
# Reading records

What the answer to a lookup says about the stored row, in well-formed tables.
-/

namespace Carpool

namespace Store

/-! ## Lookups that decode -/

section Lookup

variable {ε α ρ : Type} {found : Option ρ} {decode : ρ → Except ε α}

theorem mapM_eq_ok_some {value : α} :
    found.mapM decode = .ok (some value) ↔ ∃ row, found = some row ∧ decode row = .ok value := by
  cases found with
  | none => simp [pure, Except.pure]
  | some row =>
      rw [Option.mapM_some]
      cases decoded : decode row <;> simp [decoded]

theorem mapM_eq_ok_none : found.mapM decode = .ok none ↔ found = none := by
  cases found with
  | none => simp [pure, Except.pure]
  | some row =>
      rw [Option.mapM_some]
      cases decode row <;> simp

theorem mapM_eq_error {error : ε} :
    found.mapM decode = .error error ↔ ∃ row, found = some row ∧ decode row = .error error := by
  cases found with
  | none => simp [pure, Except.pure]
  | some row =>
      rw [Option.mapM_some]
      cases decoded : decode row <;> simp [decoded]

end Lookup

variable {fresh : Fresh} {patience : Patience} {before after : Database}

/-- A job that reads answers what it sees, and leaves everything as it is. -/
theorem Job.runWhile_read {job : Job} {look : Database → Except StoreError job.Result}
    (planned : job.plan fresh = .read look) :
    job.runWhile fresh patience before = (some (look before), before) := by
  rw [Job.runWhile, planned]

theorem Job.of_read {job : Job} {look : Database → Except StoreError job.Result}
    {answer : Except StoreError job.Result} (planned : job.plan fresh = .read look)
    (ran : job.runWhile fresh patience before = (some answer, after)) :
    answer = look before ∧ after = before := by
  rw [Job.runWhile_read planned] at ran
  obtain ⟨same, rfl⟩ := Prod.mk.inj ran
  exact ⟨(Option.some.inj same).symm, rfl⟩

namespace Database

variable {database : Database} {id : Uuid}

theorem WellFormed.of_getUser (formed : database.WellFormed) {user : User}
    (read : (database.findUser? id.text).mapM UserRow.decode = .ok (some user)) :
    user.userId = id ∧ ∃ row, database.findUser? id.text = some row := by
  obtain ⟨row, found, decoded⟩ := mapM_eq_ok_some.mp read
  refine ⟨?_, row, found⟩
  obtain ⟨member, keyed⟩ := mem_of_find? found
  obtain ⟨stored, rfl⟩ := formed.userEncoded row member
  rw [UserRow.decode_ofUser] at decoded
  obtain rfl := Except.ok.inj decoded
  exact Uuid.text_inj.mp (Option.some.inj keyed)

/-- An account can always be read. -/
theorem WellFormed.exists_getUser (formed : database.WellFormed) :
    ∃ found, (database.findUser? id.text).mapM UserRow.decode = .ok found := by
  cases found : database.findUser? id.text with
  | none => exact ⟨none, rfl⟩
  | some row =>
      obtain ⟨user, rfl⟩ := formed.userEncoded row (mem_of_find? found).1
      exact ⟨_, mapM_eq_ok_some.mpr ⟨_, rfl, UserRow.decode_ofUser user⟩⟩

theorem WellFormed.of_getOffer (formed : database.WellFormed) {offer : RideOffer}
    (read : (database.findOffer? id.text).mapM OfferRow.decode = .ok (some offer)) :
    offer.offerId = id ∧
      ∃ row, database.findOffer? id.text = some row ∧ OfferRow.ofOffer offer = .ok row := by
  obtain ⟨row, found, decoded⟩ := mapM_eq_ok_some.mp read
  obtain ⟨member, keyed⟩ := mem_of_find? found
  obtain ⟨stored, encoded⟩ := formed.offerEncoded row member
  have again := OfferRow.ofOffer_of_decode encoded decoded
  refine ⟨?_, row, found, again⟩
  rw [OfferRow.offerId_of_encoded again] at keyed
  exact Uuid.text_inj.mp (Option.some.inj keyed)

theorem WellFormed.of_getRequest (formed : database.WellFormed) {request : RideRequest}
    (read : (database.findRequest? id.text).mapM RequestRow.decode = .ok (some request)) :
    request.requestId = id ∧ database.findRequest? id.text = some (.ofRequest request) := by
  obtain ⟨row, found, decoded⟩ := mapM_eq_ok_some.mp read
  obtain ⟨member, keyed⟩ := mem_of_find? found
  obtain ⟨stored, rfl⟩ := formed.requestEncoded row member
  have same := RequestRow.ofRequest_of_decode decoded
  rw [← same] at keyed found
  exact ⟨Uuid.text_inj.mp (Option.some.inj keyed), found⟩

theorem WellFormed.of_getMatch (formed : database.WellFormed) {record : Match}
    (read : (database.findMatch? id.text).mapM MatchRow.decode = .ok (some record)) :
    record.matchId = id ∧ database.findMatch? id.text = some (.ofMatch record) := by
  obtain ⟨row, found, decoded⟩ := mapM_eq_ok_some.mp read
  obtain ⟨member, keyed⟩ := mem_of_find? found
  obtain ⟨stored, rfl⟩ := formed.matchEncoded row member
  have same := MatchRow.ofMatch_of_decode decoded
  rw [← same] at keyed found
  exact ⟨Uuid.text_inj.mp (Option.some.inj keyed), found⟩

/-! ## Stored rows are found -/

theorem WellFormed.find_user (formed : database.WellFormed) {row : UserRow}
    (member : row ∈ database.userRows) :
    ∃ user, row = .ofUser user ∧ database.findUser? user.userId.text = some (.ofUser user) := by
  obtain ⟨user, rfl⟩ := formed.userEncoded row member
  exact ⟨user, rfl, find?_of_mem formed.userDistinct member rfl⟩

theorem WellFormed.find_offer (formed : database.WellFormed) {row : OfferRow}
    (member : row ∈ database.offerRows) :
    ∃ offer, OfferRow.ofOffer offer = .ok row ∧
      database.findOffer? offer.offerId.text = some row := by
  obtain ⟨offer, encoded⟩ := formed.offerEncoded row member
  refine ⟨offer, encoded, ?_⟩
  exact find?_of_mem formed.offerDistinct member (OfferRow.offerId_of_encoded encoded)

theorem WellFormed.find_request (formed : database.WellFormed) {row : RequestRow}
    (member : row ∈ database.requestRows) :
    ∃ request, row = .ofRequest request ∧
      database.findRequest? request.requestId.text = some (.ofRequest request) := by
  obtain ⟨request, rfl⟩ := formed.requestEncoded row member
  exact ⟨request, rfl, find?_of_mem formed.requestDistinct member rfl⟩

theorem WellFormed.find_match (formed : database.WellFormed) {row : MatchRow}
    (member : row ∈ database.matchRows) :
    ∃ record, row = .ofMatch record ∧
      database.findMatch? record.matchId.text = some (.ofMatch record) := by
  obtain ⟨record, rfl⟩ := formed.matchEncoded row member
  exact ⟨record, rfl, find?_of_mem formed.matchDistinct member rfl⟩

end Database

end Store

end Carpool
