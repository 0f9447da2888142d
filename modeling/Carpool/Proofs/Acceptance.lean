import Carpool.Proofs.Acceptance.Ledger
import Mathlib.Logic.Equiv.Basic

/-!
# Requests are accepted exactly once

However many drivers race for a request, at most one acceptance of it is
committed.  What the committed acceptances leave behind fits together: matched
requests and matched offers correspond one to one, and each such offer came with
exactly one match.
-/

namespace Carpool

open Store

abbrev MatchedRequest (database : Database) :=
  { row : RequestRow // row ∈ database.requestRows ∧ row.status = RequestStatus.matched.name }

abbrev MatchedOffer (database : Database) :=
  { row : OfferRow // row ∈ database.offerRows ∧ row.status = OfferStatus.matched.name }

namespace Commit

/-- The commit accepted a request. -/
def Takes (commit : Commit) (row : RequestRow) : Bool :=
  some commit.request.text == row.requestId

/-- The commit made an offer: there was none under its identifier before, and
there it is after. -/
def MadeOffer (commit : Commit) (row : OfferRow) : Prop :=
  row.offerId ∉ commit.before.offerRows.map OfferRow.offerId ∧ row ∈ commit.after.offerRows

/-- The commit made a match, as an accepted one: there was none under its
identifier before.  Its status may have moved since. -/
def MadeMatch (commit : Commit) (row : MatchRow) : Prop :=
  row.matchId ∉ commit.before.matchRows.map MatchRow.matchId ∧
    { row with status := MatchStatus.accepted.name } ∈ commit.after.matchRows

/-- A commit binds the caller who accepted a request to its owner, by the offer
and by the one match that it has made. -/
structure Binds (commit : Commit) (caller : Identity) (request : RequestRow) (offer : OfferRow)
    (database : Database) : Prop where
  serves : commit.operation = .acceptRideRequest caller commit.request
  takes : commit.Takes request = true
  madeOffer : commit.MadeOffer offer
  driver : offer.driverId = some caller.subject.text
  fromGeo : offer.fromGeo = request.fromGeo
  toGeo : offer.toGeo = request.toGeo
  departAt : offer.departAt = request.departAt
  seats : ∃ seats : UInt32, request.seats = .integer seats.toNat ∧
    offer.seats = .integer (max seats 1).toNat
  fare : offer.fare = .real Binary64.zero
  pairing : ∃ row ∈ database.matchRows, commit.MadeMatch row ∧
    row.riderId = request.userId ∧ row.driverId = caller.subject.text ∧
    some row.rideId = offer.offerId ∧
    ∀ other ∈ database.matchRows, commit.MadeMatch other → other = row

end Commit

namespace System

variable {setup : Setup} {system : System}

/-- The acceptances of a request that have been committed. -/
def acceptances (system : System) (row : RequestRow) : Nat :=
  system.commits.countP fun commit => commit.Takes row

/-- Requests are accepted exactly once, and no acceptance leaves an orphan. -/
structure AcceptsOnce (system : System) : Prop where
  requestDistinct : (system.database.requestRows.map RequestRow.requestId).Nodup
  offerDistinct : (system.database.offerRows.map OfferRow.offerId).Nodup
  /-- An acceptance that was not committed has changed nothing. -/
  undone : ∀ entry ∈ system.history, ∀ acceptance, entry.job = .acceptRideRequest acceptance →
    entry.commit? = none → entry.after = entry.before
  once : ∀ row ∈ system.database.requestRows,
    row.status = RequestStatus.active.name ∧ system.acceptances row = 0 ∨
      row.status = RequestStatus.matched.name ∧ system.acceptances row = 1
  paired : ∃ offerOf : MatchedRequest system.database ≃ MatchedOffer system.database,
    ∀ request, ∃ commit ∈ system.commits, ∃ caller,
      commit.Binds caller request.val (offerOf request).val system.database

/-! ## Counting -/

theorem acceptances_eq (request : RideRequest) :
    system.acceptances (.ofRequest request) =
      (system.commits.map Commit.request).count request.requestId := by
  rw [acceptances, List.count, List.countP_map]
  congr 1
  funext commit
  rw [Bool.eq_iff_iff]
  simp [Commit.Takes, RequestRow.ofRequest]

theorem accepted_once (reachable : Reachable setup system) {row : RequestRow}
    (member : row ∈ system.database.requestRows) :
    row.status = RequestStatus.active.name ∧ system.acceptances row = 0 ∨
      row.status = RequestStatus.matched.name ∧ system.acceptances row = 1 := by
  have ledger := system.ledger reachable
  have formed := ((entitlements_lawful setup).holds reachable).formed
  obtain ⟨request, rfl, found⟩ := formed.find_request member
  rw [acceptances_eq]
  rcases ledger.statuses request found with ⟨active, uncommitted⟩ | ⟨matched, committed⟩
  · exact .inl ⟨RequestStatus.name_inj.mpr active, List.count_eq_zero_of_not_mem uncommitted⟩
  · exact .inr ⟨RequestStatus.name_inj.mpr matched,
      List.count_eq_one_of_mem ledger.requests committed⟩

/-! ## Who belongs to whom -/

/-- A commit in the ledger binds its caller to the owner of the request. -/
theorem binds_of_stands (formed : system.database.WellFormed) {commit : Commit}
    {caller : Identity} {request : RideRequest} {offer : OfferRow}
    (stands : commit.Stands system.database caller request offer) :
    commit.Binds caller (.ofRequest request) offer system.database := by
  obtain ⟨-, offerRow⟩ := OfferRow.ofOffer_eq_ok.mp stands.encoded
  obtain ⟨status, storedMatch⟩ := stands.storedMatch
  have named : commit.request = request.requestId := by
    rw [Commit.request, stands.takes]
    rfl
  constructor
  · rw [named]
    exact stands.serves
  · simp [Commit.Takes, named, RequestRow.ofRequest]
  · refine ⟨stands.offerUnused, ?_⟩
    rw [stands.offerMade]
    simp
  · rw [offerRow, Commit.made, stands.takes]
    rfl
  · rw [offerRow, Commit.made, stands.takes]
    rfl
  · rw [offerRow, Commit.made, stands.takes]
    rfl
  · rw [offerRow, Commit.made, stands.takes]
    exact request.departAt.storedText_toMicrosecond
  · refine ⟨request.seats, rfl, ?_⟩
    rw [offerRow, Commit.made, stands.takes]
    rfl
  · rw [offerRow]
    rfl
  · obtain ⟨member, -⟩ := Database.mem_of_find? storedMatch
    refine ⟨_, member, ⟨stands.matchUnused, ?_⟩, ?_, ?_, ?_, ?_⟩
    · rw [stands.matchMade]
      exact List.mem_append_right _ (List.mem_singleton_self _)
    · rw [Commit.made, stands.takes]
      rfl
    · rw [Commit.made, stands.takes]
      rfl
    · rw [offerRow]
      rfl
    · intro other otherMember made
      -- a match that was not there before the commit is the one that it appended
      have unique := List.inj_on_of_nodup_map formed.matchDistinct
      refine unique otherMember member ?_
      have born := made.2
      rw [stands.matchMade] at born
      rcases List.mem_append.mp born with old | new
      · exact absurd (List.mem_map_of_mem (f := MatchRow.matchId) old) made.1
      · have sameId := congrArg MatchRow.matchId (List.mem_singleton.mp new)
        exact sameId

/-- A commit of the ledger has made the offer for the request. -/
def Links (system : System) (request : RequestRow) (offer : OfferRow) : Prop :=
  ∃ commit ∈ system.commits, commit.Takes request = true ∧
    OfferRow.ofOffer commit.made.offer = .ok offer

/-- A link comes with its commit, in order and binding. -/
theorem Links.binds (reachable : Reachable setup system) {request : MatchedRequest system.database}
    {offer : OfferRow} (links : system.Links request.val offer) :
    (offer ∈ system.database.offerRows ∧ offer.status = OfferStatus.matched.name) ∧
      ∃ commit ∈ system.commits, ∃ caller,
        commit.Binds caller request.val offer system.database := by
  obtain ⟨commit, committed, takes, encoded⟩ := links
  have formed := ((entitlements_lawful setup).holds reachable).formed
  obtain ⟨caller, taken, made, stands⟩ := (system.ledger reachable).stands commit committed
  obtain rfl := Except.ok.inj (encoded.symm.trans stands.encoded)
  obtain ⟨takenMember, takenKey⟩ := Database.mem_of_find? stands.storedRequest
  have same : request.val = .ofRequest taken := by
    refine List.inj_on_of_nodup_map formed.requestDistinct request.property.1 takenMember ?_
    rw [takenKey, ← beq_iff_eq.mp takes, Commit.request, stands.takes]
    rfl
  refine ⟨⟨(Database.mem_of_find? stands.storedOffer).1, ?_⟩, commit, committed, caller, ?_⟩
  · obtain ⟨-, rfl⟩ := OfferRow.ofOffer_eq_ok.mp encoded
    rfl
  · rw [same]
    exact binds_of_stands formed stands

theorem exists_link (reachable : Reachable setup system)
    (request : MatchedRequest system.database) :
    ∃ offer, system.Links request.val offer := by
  have ledger := system.ledger reachable
  have formed := ((entitlements_lawful setup).holds reachable).formed
  obtain ⟨stored, same, found⟩ := formed.find_request request.property.1
  have matched : stored.status = .matched := by
    have status := request.property.2
    rw [same] at status
    exact RequestStatus.name_inj.mp status
  rcases ledger.statuses stored found with ⟨active, -⟩ | ⟨-, committed⟩
  · rw [matched] at active
    contradiction
  · obtain ⟨commit, member, named⟩ := List.mem_map.mp committed
    obtain ⟨_, _, offer, stands⟩ := ledger.stands commit member
    refine ⟨offer, commit, member, ?_, stands.encoded⟩
    rw [same]
    simp [Commit.Takes, named, RequestRow.ofRequest]

/-- Links are one to one, and no matched offer is without one. -/
theorem link_injective (reachable : Reachable setup system)
    {first second : MatchedRequest system.database} {offer : OfferRow}
    (firstLinks : system.Links first.val offer) (secondLinks : system.Links second.val offer) :
    first = second := by
  obtain ⟨commit, committed, takes, encoded⟩ := firstLinks
  obtain ⟨other, otherCommitted, otherTakes, otherEncoded⟩ := secondLinks
  have ledger := system.ledger reachable
  have formed := ((entitlements_lawful setup).holds reachable).formed
  have sameOffer : commit.made.offer.offerId = other.made.offer.offerId := by
    apply Uuid.text_injective
    apply Option.some.inj
    rw [← OfferRow.offerId_of_encoded encoded, ← OfferRow.offerId_of_encoded otherEncoded]
  have same := List.inj_on_of_nodup_map ledger.offers committed otherCommitted sameOffer
  subst same
  apply Subtype.ext
  refine List.inj_on_of_nodup_map formed.requestDistinct first.property.1 second.property.1 ?_
  rw [← beq_iff_eq.mp takes, ← beq_iff_eq.mp otherTakes]

theorem link_unique (reachable : Reachable setup system) {request : RequestRow}
    {first second : OfferRow} (firstLinks : system.Links request first)
    (secondLinks : system.Links request second) : first = second := by
  obtain ⟨commit, committed, takes, encoded⟩ := firstLinks
  obtain ⟨other, otherCommitted, otherTakes, otherEncoded⟩ := secondLinks
  have sameRequest : commit.request = other.request := by
    apply Uuid.text_injective
    apply Option.some.inj
    rw [beq_iff_eq.mp takes, beq_iff_eq.mp otherTakes]
  have same := List.inj_on_of_nodup_map (system.ledger reachable).requests committed
    otherCommitted sameRequest
  subst same
  exact Except.ok.inj (encoded.symm.trans otherEncoded)

theorem exists_linked (reachable : Reachable setup system) (offer : MatchedOffer system.database) :
    ∃ request : MatchedRequest system.database, system.Links request.val offer.val := by
  have ledger := system.ledger reachable
  obtain ⟨commit, committed, encoded⟩ := ledger.explained _ offer.property.1 offer.property.2
  obtain ⟨caller, request, _, stands⟩ := ledger.stands commit committed
  obtain ⟨member, -⟩ := Database.mem_of_find? stands.storedRequest
  have matched := RequestStatus.name_inj.mpr stands.matched
  refine ⟨⟨.ofRequest request, member, matched⟩, commit, committed, ?_, encoded⟩
  simp [Commit.Takes, Commit.request, stands.takes, RequestRow.ofRequest, Acceptance.ofRequest]

/-- In every state of every run, each request has been accepted once if it is
matched and never if it is active, and matched requests correspond to matched
offers, each with the one match that was made with it. -/
theorem requests_accepted_once (reachable : Reachable setup system) : AcceptsOnce system := by
  have holds := (entitlements_lawful setup).holds reachable
  choose offerOf links using exists_link reachable
  have matched (request : MatchedRequest system.database) :=
    ((links request).binds reachable).1
  have bijective : Function.Bijective fun request =>
      (⟨offerOf request, matched request⟩ : MatchedOffer system.database) := by
    constructor
    · intro first second same
      have same : offerOf first = offerOf second := congrArg Subtype.val same
      exact link_injective reachable (links first) (same ▸ links second)
    · intro offer
      obtain ⟨request, linked⟩ := exists_linked reachable offer
      exact ⟨request, Subtype.ext (link_unique reachable (links request) linked)⟩
  constructor
  · exact holds.formed.requestDistinct
  · exact holds.formed.offerDistinct
  · intro entry member acceptance accepts uncommitted
    obtain ⟨operation, job, fresh, answer, before, after⟩ := entry
    have effect : Effect fresh before job answer after := holds.effects _ member
    obtain rfl : job = .acceptRideRequest acceptance := accepts
    cases effect with
    | read look planned => rfl
    | abandoned => rfl
    | refused violation => rfl
    | declined acceptance => rfl
    | accepted acceptance after committed => cases uncommitted
  · intro row member
    exact accepted_once reachable member
  · exact ⟨.ofBijective _ bijective, fun request => ((links request).binds reachable).2⟩

/-- Of two drivers who race for a request, one accepts it. -/
theorem race_accepted_once :
    ∃ system, run (Sample.setup .participants) initial Sample.accepted = some system ∧
      system.database.requestRows.map system.acceptances = [1] ∧ AcceptsOnce system := by
  obtain ⟨system, ran, counted⟩ := Option.map_eq_some_iff.mp
    (by decide +kernel : (run (Sample.setup .participants) initial Sample.accepted).map
      (fun system => system.database.requestRows.map system.acceptances) = some [1])
  exact ⟨system, ran, counted, requests_accepted_once ⟨Sample.accepted, ran⟩⟩

end System

end Carpool
