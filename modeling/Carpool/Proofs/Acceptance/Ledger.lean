import Carpool.Proofs.Ride.Draft
import Carpool.Proofs.Service.Entitlement

/-!
# The ledger of acceptances

The acceptances that have been committed, read off the history of store jobs,
and the invariant that ties them to the tables: one commit for each matched
request, one matched offer for each commit, and the match that came with it.
-/

namespace Carpool

open Store

/-! ## Commits -/

/-- An acceptance that was committed: for which operation, with which fresh
identifiers, and the contents before and after it. -/
structure Commit where
  operation : Operation
  acceptance : Acceptance
  fresh : Fresh
  before : Database
  after : Database

/-- The commit that a store job was, if it was an acceptance that went through. -/
def Entry.commit? : Entry → Option Commit
  | ⟨operation, .acceptRideRequest acceptance, fresh, some (.ok (some _)), before, after⟩ =>
      some ⟨operation, acceptance, fresh, before, after⟩
  | _ => none

/-- The acceptances that have been committed, in their order. -/
def System.commits (system : System) : List Commit :=
  system.history.filterMap Entry.commit?

namespace Commit

def made (commit : Commit) : Accepted :=
  commit.fresh.accepted commit.acceptance

def request (commit : Commit) : Uuid :=
  commit.acceptance.requestId

end Commit

namespace Store.Database

variable {before after : Database} {request : Uuid} {accepted : Accepted}

/-- What a committed acceptance leaves behind. -/
structure Accepts (before after : Database) (request : Uuid) (accepted : Accepted)
    (row : OfferRow) : Prop where
  encoded : OfferRow.ofOffer accepted.offer = .ok row
  offerUnused : row.offerId ∉ before.offerRows.map OfferRow.offerId
  offerRows : after.offerRows = before.offerRows ++ [row]
  matchUnused : some accepted.record.matchId.text ∉ before.matchRows.map MatchRow.matchId
  matchRows : after.matchRows = before.matchRows ++ [.ofMatch accepted.record]
  active : ∃ stored ∈ before.requestRows, stored.requestId = some request.text ∧
    stored.status = RequestStatus.active.name
  findRequest (id : String) : after.findRequest? id =
    (before.findRequest? id).map fun stored =>
      if stored.requestId == some request.text && stored.status == RequestStatus.active.name then
        { stored with status := RequestStatus.matched.name }
      else stored

theorem accepts_of_accept (committed : before.accept request accepted = .ok (some after)) :
    ∃ row, before.Accepts after request accepted row := by
  obtain ⟨row, offered, paired, encoded, offering, pairing, changed, rfl⟩ :=
    accept_eq_ok committed
  have active := swapRequestStatus_ne_zero.mp changed
  obtain ⟨offerUnused, -, rfl⟩ := insertOffer_eq_ok.mp offering
  obtain ⟨-, matchUnused, -, rfl⟩ := insertMatch_eq_ok.mp pairing
  have keyed := OfferRow.offerId_of_encoded encoded
  refine ⟨row, encoded, ?_, rfl, ?_, rfl, ?_, ?_⟩
  · intro used
    refine offerUnused ⟨?_, used⟩
    rw [keyed]
    rfl
  · intro used
    exact matchUnused ⟨rfl, used⟩
  · exact active
  · intro id
    exact findRequest?_swapRequestStatus request.text id _ _

end Store.Database

/-! ## The ledger -/

/-- A commit served a caller's acceptance of a request that is stored as
matched, and what it made is stored as well. -/
structure Commit.Stands (commit : Commit) (database : Database) (caller : Identity)
    (request : RideRequest) (offer : OfferRow) : Prop where
  serves : commit.operation = .acceptRideRequest caller request.requestId
  takes : commit.acceptance = .ofRequest request caller.subject
  matched : request.status = .matched
  storedRequest : database.findRequest? request.requestId.text = some (.ofRequest request)
  encoded : OfferRow.ofOffer commit.made.offer = .ok offer
  storedOffer : database.findOffer? commit.made.offer.offerId.text = some offer
  storedMatch : ∃ status, database.findMatch? commit.made.record.matchId.text =
    some (.ofMatch { commit.made.record with status })
  offerUnused : offer.offerId ∉ commit.before.offerRows.map OfferRow.offerId
  offerMade : commit.after.offerRows = commit.before.offerRows ++ [offer]
  matchUnused : some commit.made.record.matchId.text ∉
    commit.before.matchRows.map MatchRow.matchId
  matchMade : commit.after.matchRows =
    commit.before.matchRows ++ [.ofMatch commit.made.record]

/-- The commits account for the statuses of requests and for the matched
offers. -/
structure Ledger (database : Database) (commits : List Commit) : Prop where
  requests : (commits.map Commit.request).Nodup
  offers : (commits.map fun commit => commit.made.offer.offerId).Nodup
  statuses : ∀ request : RideRequest,
    database.findRequest? request.requestId.text = some (.ofRequest request) →
    request.status = .active ∧ request.requestId ∉ commits.map Commit.request ∨
      request.status = .matched ∧ request.requestId ∈ commits.map Commit.request
  stands : ∀ commit ∈ commits, ∃ caller request offer,
    commit.Stands database caller request offer
  explained : ∀ row ∈ database.offerRows, row.status = OfferStatus.matched.name →
    ∃ commit ∈ commits, OfferRow.ofOffer commit.made.offer = .ok row

variable {policy : CompletionPolicy} {before after : Database} {commits : List Commit}

theorem Commit.Stands.later {commit : Commit} {caller : Identity} {request : RideRequest}
    {offer : OfferRow} (stands : commit.Stands before caller request offer)
    (grown : before.Extends policy after) : commit.Stands after caller request offer := by
  obtain ⟨status, leads, storedRequest⟩ := grown.requests request stands.storedRequest
  obtain ⟨first, storedMatch⟩ := stands.storedMatch
  obtain ⟨last, -, storedMatch⟩ :=
    grown.pairings { commit.made.record with status := first } storedMatch
  have matched : status = request.status := by
    rcases leads with same | ⟨active, -⟩
    · exact same
    · rw [stands.matched] at active
      contradiction
  rw [matched] at storedRequest
  exact { stands with
    storedRequest := storedRequest
    storedOffer := grown.offers stands.storedOffer
    storedMatch := ⟨last, storedMatch⟩ }

namespace Ledger

theorem empty : Ledger .empty [] where
  requests := List.nodup_nil
  offers := List.nodup_nil
  statuses request found := by cases found
  stands commit member := by cases member
  explained row member := by cases member

theorem stored (ledger : Ledger before commits) {id : Uuid}
    (committed : id ∈ commits.map Commit.request) : before.findRequest? id.text ≠ none := by
  obtain ⟨commit, member, rfl⟩ := List.mem_map.mp committed
  obtain ⟨caller, request, offer, stands⟩ := ledger.stands commit member
  rw [Commit.request, stands.takes]
  intro absent
  exact Option.some_ne_none _ (stands.storedRequest.symm.trans absent)

/-- New requests are active and new offers are not matched: nothing to account
for. -/
theorem keep (ledger : Ledger before commits) (grown : before.Extends policy after)
    (requests : ∀ request : RideRequest,
      after.findRequest? request.requestId.text = some (.ofRequest request) →
      before.findRequest? request.requestId.text = some (.ofRequest request) ∨
        before.findRequest? request.requestId.text = none ∧ request.status = .active)
    (offers : ∀ row ∈ after.offerRows,
      row ∈ before.offerRows ∨ row.status ≠ OfferStatus.matched.name) :
    Ledger after commits where
  requests := ledger.requests
  offers := ledger.offers
  statuses request found := by
    rcases requests request found with old | ⟨absent, active⟩
    · exact ledger.statuses request old
    · exact .inl ⟨active, fun committed => ledger.stored committed absent⟩
  stands commit member := by
    obtain ⟨caller, request, offer, stands⟩ := ledger.stands commit member
    exact ⟨caller, request, offer, stands.later grown⟩
  explained row member matched := by
    rcases offers row member with old | other
    · exact ledger.explained row old matched
    · exact absurd matched other

def newCommit (before after : Database) (caller : Identity) (request : RideRequest)
    (fresh : Fresh) : Commit :=
  ⟨.acceptRideRequest caller request.requestId, .ofRequest request caller.subject, fresh, before,
    after⟩

variable {caller : Identity} {request : RideRequest} {fresh : Fresh} {row : OfferRow}

/-- The request of an acceptance that goes through was active, and is matched
from then on. -/
theorem newCommit_stands (formed : before.WellFormed) (formedAfter : after.WellFormed)
    (stored : before.findRequest? request.requestId.text = some (.ofRequest request))
    (accepts : before.Accepts after request.requestId
      (newCommit before after caller request fresh).made row) :
    request.status = .active ∧
      (newCommit before after caller request fresh).Stands after caller
        { request with status := .matched } row := by
  have active : request.status = .active := by
    obtain ⟨other, member, keyed, active⟩ := accepts.active
    have found := Database.find?_of_mem formed.requestDistinct member keyed
    obtain rfl := Option.some.inj (found.symm.trans stored)
    exact RequestStatus.name_inj.mp active
  have offerMade : row ∈ after.offerRows := by
    rw [accepts.offerRows]
    simp
  have matchMade : MatchRow.ofMatch (newCommit before after caller request fresh).made.record ∈
      after.matchRows := by
    rw [accepts.matchRows]
    simp
  refine ⟨active, ?_⟩
  constructor
  · rfl
  · rfl
  · rfl
  · rw [accepts.findRequest, stored, Option.map_some]
    simp [RequestRow.ofRequest, active]
  · exact accepts.encoded
  · exact Database.find?_of_mem formedAfter.offerDistinct offerMade
      (OfferRow.offerId_of_encoded accepts.encoded)
  · refine ⟨.accepted, ?_⟩
    exact Database.find?_of_mem formedAfter.matchDistinct matchMade rfl
  · exact accepts.offerUnused
  · exact accepts.offerRows
  · exact accepts.matchUnused
  · exact accepts.matchRows

/-- An acceptance that goes through adds one commit. -/
theorem commit (ledger : Ledger before commits) (formed : before.WellFormed)
    (grown : before.Extends policy after)
    (stored : before.findRequest? request.requestId.text = some (.ofRequest request))
    (accepts : before.Accepts after request.requestId
      (newCommit before after caller request fresh).made row) :
    Ledger after (commits ++ [newCommit before after caller request fresh]) := by
  obtain ⟨active, standing⟩ := newCommit_stands formed grown.formed stored accepts
  have uncommitted : request.requestId ∉ commits.map Commit.request := by
    rcases ledger.statuses request stored with ⟨-, absent⟩ | ⟨matched, -⟩
    · exact absent
    · rw [active] at matched
      contradiction
  constructor
  · exact Database.nodup_append_new ledger.requests uncommitted
  · refine Database.nodup_append_new ledger.offers fun used => accepts.offerUnused ?_
    obtain ⟨other, member, same⟩ := List.mem_map.mp used
    obtain ⟨_, _, offer, stands⟩ := ledger.stands other member
    obtain ⟨offerMember, keyed⟩ := Database.mem_of_find? stands.storedOffer
    rw [OfferRow.offerId_of_encoded accepts.encoded, ← same, ← keyed]
    exact List.mem_map_of_mem offerMember
  · intro other found
    rw [List.map_append, List.mem_append]
    -- the accepted request is matched from now on, all others are as they were
    by_cases same : other.requestId = request.requestId
    · have matched : RequestRow.ofRequest other = .ofRequest { request with status := .matched } :=
        Option.some.inj (found.symm.trans (same ▸ standing.storedRequest))
      refine .inr ⟨?_, .inr ?_⟩
      · exact RequestStatus.name_inj.mp (congrArg RequestRow.status matched)
      · rw [same]
        exact List.mem_singleton_self _
    · rw [accepts.findRequest] at found
      obtain ⟨old, foundBefore, unchanged⟩ := Option.map_eq_some_iff.mp found
      have keyed := (Database.mem_of_find? foundBefore).2
      rw [if_neg (by simp [keyed, same])] at unchanged
      rw [unchanged] at foundBefore
      have apart : other.requestId ∉ [newCommit before after caller request fresh].map
          Commit.request := by
        simpa [newCommit, Commit.request, Acceptance.ofRequest] using same
      rw [or_iff_left apart]
      exact ledger.statuses other foundBefore
  · intro other member
    rcases List.mem_append.mp member with old | new
    · obtain ⟨caller, request, offer, stands⟩ := ledger.stands other old
      exact ⟨caller, request, offer, stands.later grown⟩
    · rw [List.mem_singleton.mp new]
      exact ⟨caller, _, row, standing⟩
  · intro offer member matched
    rw [accepts.offerRows] at member
    rcases List.mem_append.mp member with old | new
    · obtain ⟨commit, made, encoded⟩ := ledger.explained offer old matched
      exact ⟨commit, List.mem_append_left _ made, encoded⟩
    · rw [List.mem_singleton.mp new]
      exact ⟨_, List.mem_append_right _ (List.mem_singleton_self _), accepts.encoded⟩

theorem same (ledger : Ledger before commits) (grown : before.Extends policy after)
    (sameRequests : after.requestRows = before.requestRows)
    (sameOffers : after.offerRows = before.offerRows) : Ledger after commits := by
  refine ledger.keep grown (fun request found => .inl ?_) (fun row member => .inl ?_)
  · rw [Database.findRequest?, sameRequests] at found
    exact found
  · rw [sameOffers] at member
    exact member

theorem record {operation : Operation} {job : Job}
    {answer : Option (Except StoreError job.Result)} (ledger : Ledger before commits)
    (formed : before.WellFormed) (effect : Effect fresh before job answer after)
    (entitled : Entitled policy operation before job) :
    Ledger after
      (commits ++ (Entry.commit? ⟨operation, job, fresh, answer, before, after⟩).toList) := by
  have grown : before.Extends policy after := effect.grows entitled.permitted formed
  have plain (none_ : Entry.commit? ⟨operation, job, fresh, answer, before, after⟩ = none)
      (kept : Ledger after commits) : Ledger after
        (commits ++ (Entry.commit? ⟨operation, job, fresh, answer, before, after⟩).toList) := by
    rw [none_, Option.toList_none, List.append_nil]
    exact kept
  have frame := effect.frame
  cases effect with
  | read look planned =>
      refine plain ?_ ledger
      cases job <;> first | rfl | cases planned
  | abandoned =>
      refine plain ?_ ledger
      cases job <;> rfl
  | refused violation =>
      refine plain ?_ ledger
      cases job <;> rfl
  | declined acceptance => exact plain rfl ledger
  | requestSwapped id expected new =>
      cases entitled with
      | lookUp lookup => exact lookup.elim
  | offerCreated input row after encoded inserted =>
      obtain ⟨-, -, rfl⟩ := Database.insertOffer_eq_ok.mp inserted
      refine plain rfl (ledger.keep grown (fun request found => .inl found) ?_)
      intro other member
      rcases List.mem_append.mp member with old | new
      · exact .inl old
      · obtain rfl := List.mem_singleton.mp new
        obtain ⟨-, rfl⟩ := OfferRow.ofOffer_eq_ok.mp encoded
        have active : input.status = .active := by
          cases entitled with
          | lookUp lookup => exact lookup.elim
          | offer published => exact (OfferDraft.of_publish published).2.2.2
        refine .inr ?_
        simp only [Fresh.offer, active]
        decide
  | requestCreated input after inserted =>
      obtain ⟨-, -, rfl⟩ := Database.insertRequest_eq_ok.mp inserted
      refine plain rfl (ledger.keep grown ?_ fun row member => .inl member)
      intro request found
      have lookup := Database.findRequest?_appended before (.ofRequest (fresh.request input))
        request.requestId.text
      rw [lookup] at found
      cases old : before.findRequest? request.requestId.text with
      | some row =>
          rw [old, Option.some_or] at found
          exact .inl found
      | none =>
          rw [old, Option.none_or] at found
          split at found
          · have status : RequestStatus.active.name = request.status.name :=
              congrArg RequestRow.status (Option.some.inj found)
            exact .inr ⟨rfl, (RequestStatus.name_inj.mp status).symm⟩
          · cases found
  | accepted acceptance after committed =>
      cases entitled with
      | lookUp lookup => exact lookup.elim
      | take stored other =>
          obtain ⟨row, accepts⟩ := Database.accepts_of_accept committed
          exact ledger.commit formed grown stored accepts
  | _ => exact plain rfl (ledger.same grown (frame.requests id) (frame.offers id))

end Ledger

namespace System

variable {setup : Setup} {system : System}

theorem commits_append (history : List Entry) (entry : Entry) (database : Database)
    (running : List Running) :
    (System.mk database running (history ++ [entry])).commits =
      history.filterMap Entry.commit? ++ entry.commit?.toList := by
  rw [commits, List.filterMap_append]
  cases made : entry.commit? <;> simp [made]

/-- In every reachable state the commits so far account for what is stored. -/
theorem ledger (reachable : Reachable setup system) : Ledger system.database system.commits := by
  refine reachable.induct (motive := fun state => Ledger state.database state.commits)
    .empty ?_
  intro system event after reached ledger stepped
  have holds := (entitlements_lawful setup).holds reached
  have unchanged : system.database.Extends setup.policy system.database := .refl holds.formed
  cases stepped_of_step stepped with
  | arrived operation => exact ledger
  | left place => exact ledger
  | timed given asks => exact ledger
  | introspected given asks => exact ledger
  | answered given asks ran =>
      have entitled := (holds.asking asks _ unchanged).1
      rw [commits_append]
      exact ledger.record holds.formed (Job.runWhile_effect ran) entitled
  | abandoned given asks ran =>
      have entitled := (holds.asking asks _ unchanged).1
      rw [commits_append]
      exact ledger.record holds.formed (Job.runWhile_effect ran) entitled

end System

end Carpool
