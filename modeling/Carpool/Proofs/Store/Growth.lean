import Carpool.Proofs.Store.Integrity
import Mathlib.Logic.Relation

/-!
# Growth of the tables

Rows are only added, and of a row that is there only one column ever moves: the
last visit of a user, the status of a request from active to matched, and the
status of a match along the steps that the completion policy allows.
-/

namespace Carpool

/-! ## Steps of a status -/

namespace MatchStatus

/-- The steps that a status can take under a policy. -/
inductive Moves (policy : CompletionPolicy) : MatchStatus → MatchStatus → Prop
  | accept : Moves policy .requested .accepted
  | reject : Moves policy .requested .rejected
  | complete : Moves policy .accepted .completed
  | override (status : MatchStatus) (anyone : policy = .unrestricted) :
      Moves policy status .completed

/-- One status leads to another by such steps. -/
abbrev Leads (policy : CompletionPolicy) : MatchStatus → MatchStatus → Prop :=
  Relation.ReflTransGen (Moves policy)

variable {policy : CompletionPolicy} {first last : MatchStatus}

theorem Leads.of_completed (leads : Leads policy .completed last) : last = .completed := by
  induction leads with
  | refl => rfl
  | tail _ moves ih =>
      subst ih
      cases moves
      rfl

theorem Leads.of_rejected (leads : Leads .participants .rejected last) : last = .rejected := by
  induction leads with
  | refl => rfl
  | tail _ moves ih =>
      subst ih
      cases moves
      contradiction

theorem Leads.to_requested (leads : Leads policy first .requested) : first = .requested := by
  cases leads with
  | refl => rfl
  | tail _ moves => cases moves

theorem Leads.of_accepted (leads : Leads policy .accepted last) :
    last = .accepted ∨ last = .completed := by
  induction leads with
  | refl => exact .inl rfl
  | tail _ moves ih =>
      rcases ih with rfl | rfl
      · cases moves <;> exact .inr rfl
      · cases moves
        exact .inr rfl

/-- Only the driver's decision on a request is open. -/
theorem requested_of_canResolveTo {status next : MatchStatus}
    (resolvable : status.canResolveTo next = true) : status = .requested := by
  cases status <;> first | rfl | cases next <;> contradiction

end MatchStatus

/-- A request stays as it is or goes from active to matched. -/
def RequestStatus.Leads (first last : RequestStatus) : Prop :=
  last = first ∨ first = .active ∧ last = .matched

theorem RequestStatus.Leads.trans {first second third : RequestStatus}
    (earlier : first.Leads second) (later : second.Leads third) : first.Leads third := by
  rcases earlier with rfl | ⟨rfl, rfl⟩
  · exact later
  · rcases later with rfl | ⟨impossible, -⟩
    · exact .inr ⟨rfl, rfl⟩
    · contradiction

namespace Store

/-- The jobs that the services issue under a policy. -/
def Job.Permitted (policy : CompletionPolicy) : Job → Prop
  | .swapRequestStatus _ _ _ => False
  | .swapMatchStatus _ expected new => MatchStatus.Moves policy expected new
  | .forceMatchStatus _ new => policy = .unrestricted ∧ new = .completed
  | _ => True

namespace Database

/-- What is stored is still there, and only the columns that may move have
moved. -/
structure Extends (policy : CompletionPolicy) (before after : Database) : Prop where
  formed : after.WellFormed
  users : ∀ {id : String} {row : UserRow}, before.findUser? id = some row →
    ∃ seen, after.findUser? id = some { row with lastSeen := seen }
  offers : ∀ {id : String} {row : OfferRow}, before.findOffer? id = some row →
    after.findOffer? id = some row
  requests : ∀ request : RideRequest,
    before.findRequest? request.requestId.text = some (.ofRequest request) →
    ∃ status, request.status.Leads status ∧
      after.findRequest? request.requestId.text = some (.ofRequest { request with status })
  pairings : ∀ record : Match,
    before.findMatch? record.matchId.text = some (.ofMatch record) →
    ∃ status, MatchStatus.Leads policy record.status status ∧
      after.findMatch? record.matchId.text = some (.ofMatch { record with status })

variable {policy : CompletionPolicy} {before after later : Database}

theorem Extends.refl (formed : before.WellFormed) : before.Extends policy before where
  formed := formed
  users {_ row} found := ⟨row.lastSeen, found⟩
  offers found := found
  requests request found := ⟨request.status, .inl rfl, found⟩
  pairings record found := ⟨record.status, .refl, found⟩

theorem Extends.trans (first : before.Extends policy after) (second : after.Extends policy later) :
    before.Extends policy later where
  formed := second.formed
  users found := by
    obtain ⟨_, foundAfter⟩ := first.users found
    obtain ⟨seen, foundLater⟩ := second.users foundAfter
    exact ⟨seen, foundLater⟩
  offers found := second.offers (first.offers found)
  requests request found := by
    obtain ⟨middle, leads, foundAfter⟩ := first.requests request found
    obtain ⟨status, leadsOn, foundLater⟩ :=
      second.requests { request with status := middle } foundAfter
    exact ⟨status, leads.trans leadsOn, foundLater⟩
  pairings record found := by
    obtain ⟨middle, leads, foundAfter⟩ := first.pairings record found
    obtain ⟨status, leadsOn, foundLater⟩ :=
      second.pairings { record with status := middle } foundAfter
    exact ⟨status, leads.trans leadsOn, foundLater⟩

/-! ## Statements -/

theorem Extends.insertUser {user : User} (formed : before.WellFormed)
    (inserted : before.insertUser (.ofUser user) = .ok after) : before.Extends policy after := by
  have formedAfter := formed.insertUser inserted
  obtain ⟨-, -, rfl⟩ := insertUser_eq_ok.mp inserted
  refine { (refl formed : before.Extends policy before) with
    formed := formedAfter, users := fun {_ row} found => ?_ }
  exact ⟨row.lastSeen, find?_append_of_found found⟩

theorem Extends.insertOffer {offer : RideOffer} {row : OfferRow} (formed : before.WellFormed)
    (encoded : OfferRow.ofOffer offer = .ok row) (inserted : before.insertOffer row = .ok after) :
    before.Extends policy after := by
  have formedAfter := formed.insertOffer encoded inserted
  obtain ⟨-, -, rfl⟩ := insertOffer_eq_ok.mp inserted
  exact { (refl formed : before.Extends policy before) with
    formed := formedAfter, offers := find?_append_of_found }

theorem Extends.insertRequest {request : RideRequest} (formed : before.WellFormed)
    (inserted : before.insertRequest (.ofRequest request) = .ok after) :
    before.Extends policy after := by
  have formedAfter := formed.insertRequest inserted
  obtain ⟨-, -, rfl⟩ := insertRequest_eq_ok.mp inserted
  refine { (refl formed : before.Extends policy before) with
    formed := formedAfter, requests := fun request found => ?_ }
  exact ⟨request.status, .inl rfl, find?_append_of_found found⟩

theorem Extends.insertMatch {record : Match} (formed : before.WellFormed)
    (inserted : before.insertMatch (.ofMatch record) = .ok after) :
    before.Extends policy after := by
  have formedAfter := formed.insertMatch inserted
  obtain ⟨-, -, -, rfl⟩ := insertMatch_eq_ok.mp inserted
  refine { (refl formed : before.Extends policy before) with
    formed := formedAfter, pairings := fun record found => ?_ }
  exact ⟨record.status, .refl, find?_append_of_found found⟩

theorem Extends.swapLastSeen (formed : before.WellFormed) (id : String) (expected : Int)
    (new : Instant) : before.Extends policy (before.swapLastSeen id expected new.second).1 := by
  refine { (refl formed : before.Extends policy before) with
    formed := formed.swapLastSeen id expected new, users := fun {key row} found => ?_ }
  rw [findUser?_swapLastSeen, found, Option.map_some]
  split
  · exact ⟨_, rfl⟩
  · exact ⟨row.lastSeen, rfl⟩

theorem Extends.swapRequestStatus (formed : before.WellFormed) (id : String) :
    before.Extends policy (before.swapRequestStatus id RequestStatus.active.name
      RequestStatus.matched.name).1 := by
  refine { (refl formed : before.Extends policy before) with
    formed := formed.swapRequestStatus id _ .matched, requests := fun request found => ?_ }
  rw [findRequest?_swapRequestStatus, found, Option.map_some]
  by_cases chosen : request.requestId.text = id ∧ request.status = .active
  · refine ⟨.matched, .inr ⟨chosen.2, rfl⟩, ?_⟩
    simp [RequestRow.ofRequest, chosen]
  · refine ⟨request.status, .inl rfl, ?_⟩
    simp [RequestRow.ofRequest, RequestStatus.name_inj, chosen]

theorem Extends.swapMatchStatus (formed : before.WellFormed) (id : String)
    {expected new : MatchStatus} (moves : MatchStatus.Moves policy expected new) :
    before.Extends policy (before.swapMatchStatus id expected.name new.name).1 := by
  refine { (refl formed : before.Extends policy before) with
    formed := formed.swapMatchStatus id _ new, pairings := fun record found => ?_ }
  rw [findMatch?_swapMatchStatus, found, Option.map_some]
  by_cases chosen : record.matchId.text = id ∧ record.status = expected
  · refine ⟨new, .single (chosen.2 ▸ moves), ?_⟩
    simp [MatchRow.ofMatch, chosen]
  · refine ⟨record.status, .refl, ?_⟩
    simp [MatchRow.ofMatch, MatchStatus.name_inj, chosen]

theorem Extends.setMatchStatus (formed : before.WellFormed) (id : String)
    (anyone : policy = .unrestricted) :
    before.Extends policy (before.setMatchStatus id MatchStatus.completed.name).1 := by
  refine { (refl formed : before.Extends policy before) with
    formed := formed.setMatchStatus id .completed, pairings := fun record found => ?_ }
  rw [findMatch?_setMatchStatus, found, Option.map_some]
  by_cases chosen : record.matchId.text = id
  · refine ⟨.completed, .single (.override _ anyone), ?_⟩
    simp [MatchRow.ofMatch, chosen]
  · refine ⟨record.status, .refl, ?_⟩
    simp [MatchRow.ofMatch, chosen]

theorem Extends.accept {request : Uuid} {accepted : Accepted} (formed : before.WellFormed)
    (committed : before.accept request accepted = .ok (some after)) :
    before.Extends policy after := by
  obtain ⟨row, offered, paired, encoded, offering, pairing, -, rfl⟩ := accept_eq_ok committed
  have offer : before.Extends policy offered := .insertOffer formed encoded offering
  have pair : offered.Extends policy paired := .insertMatch offer.formed pairing
  exact (offer.trans pair).trans (.swapRequestStatus pair.formed _)

end Database

/-- A job that the services issue extends what is stored. -/
theorem Effect.grows {fresh : Fresh} {before after : Database} {policy : CompletionPolicy}
    {job : Job} {answer : Option (Except StoreError job.Result)}
    (effect : Effect fresh before job answer after) (permitted : job.Permitted policy)
    (formed : before.WellFormed) : before.Extends policy after := by
  cases effect with
  | read look planned => exact .refl formed
  | abandoned => exact .refl formed
  | refused violation => exact .refl formed
  | declined acceptance => exact .refl formed
  | userCreated input after inserted => exact .insertUser formed inserted
  | offerCreated input row after encoded inserted => exact .insertOffer formed encoded inserted
  | requestCreated input after inserted => exact .insertRequest formed inserted
  | matchCreated input after inserted => exact .insertMatch formed inserted
  | seenSwapped id expected new => exact .swapLastSeen formed _ _ new
  | requestSwapped id expected new => exact permitted.elim
  | matchSwapped id expected new => exact .swapMatchStatus formed _ permitted
  | matchForced id new =>
      obtain ⟨anyone, rfl⟩ := permitted
      exact .setMatchStatus formed _ anyone
  | accepted acceptance after committed => exact .accept formed committed

end Store

end Carpool
