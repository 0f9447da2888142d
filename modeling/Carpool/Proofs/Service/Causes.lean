import Carpool.Proofs.Conversation
import Carpool.Proofs.Ride.Draft

/-!
# Why operations fail

The causes of failures, each with its code.  Which cause a failure has can be
read off what was said in the course of the call; there is never more than one.
-/

namespace Carpool

open Store

/-- Why a request fails. -/
inductive Cause
  | undecodable
  | invalid
  | selfMatch
  | turnedAway
  | loginRejected
  | trespass
  | unknownId
  | wrongStatus
  | lostRace
  | inactiveRequest
  | missingDriver
  | overdue
  | internal
  deriving DecidableEq

def Cause.code : Cause → ErrorCode
  | .undecodable | .invalid | .selfMatch => .invalidArgument
  | .turnedAway | .loginRejected => .unauthenticated
  | .trespass => .permissionDenied
  | .unknownId => .notFound
  | .wrongStatus | .lostRace | .inactiveRequest | .missingDriver => .failedPrecondition
  | .overdue => .deadlineExceeded
  | .internal => .internal

/-- A look for a record that is not there. -/
inductive Exchange.Misses : Exchange → Prop
  | user (id : Uuid) : Misses (.store (.getUser id) (.ok none))
  | offer (id : Uuid) : Misses (.store (.getOffer id) (.ok none))
  | request (id : Uuid) : Misses (.store (.getRequest id) (.ok none))
  | pairing (id : Uuid) : Misses (.store (.getMatch id) (.ok none))
  | completion (id : Uuid) (next : MatchStatus) :
      Misses (.store (.forceMatchStatus id next) (.ok none))

/-- The identity provider does not know the token, or the policy does not let its
holder in. -/
inductive LoginPolicy.Rejects (policy : LoginPolicy) : ProviderReply → Prop
  | token {status : Nat} (body : Octets) (bad : status / 100 ≠ 2) :
      Rejects policy (.answered status body)
  | holder {reply : ProviderReply} {info : TokenInfo} {error : LoginError}
      (read : reply.read = .ok info) (refused : policy.check info = .error error) :
      Rejects policy reply

namespace Operation

def Publishes : Operation → Prop
  | .createOffer _ _ | .createRequest _ _ => True
  | _ => False

/-- The caller, as its driver, decides on a match. -/
inductive Decides (caller : Identity) (id : Uuid) : Operation → Prop
  | accept : Decides caller id (.acceptRequest caller id)
  | reject : Decides caller id (.rejectRequest caller id)

/-- The caller has no say in a match. -/
def HasNoSay (current : Match) : Operation → Prop
  | .acceptRequest caller _ | .rejectRequest caller _ => current.driverId ≠ caller.subject
  | .completeMatch caller _ => current.involves caller.subject = false
  | _ => False

theorem Decides.hasNoSay_iff {operation : Operation} {caller : Identity} {id : Uuid}
    {current : Match} (decides : operation.Decides caller id) :
    operation.HasNoSay current ↔ current.driverId ≠ caller.subject := by
  cases decides <;> rfl

/-- The causes for which an operation fails, by what has been said in the course
of it, the latest first. -/
inductive FailsBy (setup : Setup) : Operation → List Exchange → Cause → Prop
  | store {operation : Operation} {job : Job} (error : StoreError) (past : List Exchange) :
      FailsBy setup operation (.store job (.error error) :: past) .internal
  | unknown {operation : Operation} {exchange : Exchange} (past : List Exchange)
      (looksUp : ¬operation.Publishes) (misses : exchange.Misses) :
      FailsBy setup operation (exchange :: past) .unknownId
  | stranger {operation : Operation} {id : Uuid} (past : List Exchange)
      (publishes : operation.Publishes) :
      FailsBy setup operation (.store (.getUser id) (.ok none) :: past) .invalid
  | flawedOffer {caller : Identity} {draft : OfferDraft} {now : Instant} {flaw : Flaw}
      (flawed : draft.Has now flaw) :
      FailsBy setup (.createOffer caller draft) [.clock now] .invalid
  | flawedRequest {caller : Identity} {draft : RequestDraft} {now : Instant} {flaw : Flaw}
      (flawed : draft.Has now flaw) :
      FailsBy setup (.createRequest caller draft) [.clock now] .invalid
  | driverless {caller : Identity} {ride : Uuid} {offer : RideOffer}
      (driverless : offer.driverId = none) :
      FailsBy setup (.requestToJoin caller ride) [.store (.getOffer ride) (.ok (some offer))]
        .missingDriver
  | ownOffer {caller : Identity} {ride : Uuid} {offer : RideOffer}
      (own : offer.driverId = some caller.subject) :
      FailsBy setup (.requestToJoin caller ride) [.store (.getOffer ride) (.ok (some offer))]
        .selfMatch
  | inactive {caller : Identity} {id : Uuid} {request : RideRequest}
      (inactive : request.status ≠ .active) :
      FailsBy setup (.acceptRideRequest caller id)
        [.store (.getRequest id) (.ok (some request))] .inactiveRequest
  | ownRequest {caller : Identity} {id : Uuid} {request : RideRequest}
      (active : request.status = .active) (own : request.userId = caller.subject) :
      FailsBy setup (.acceptRideRequest caller id)
        [.store (.getRequest id) (.ok (some request))] .selfMatch
  /-- Somebody else has accepted the request since it was read. -/
  | taken {operation : Operation} {acceptance : Acceptance} (past : List Exchange) :
      FailsBy setup operation (.store (.acceptRideRequest acceptance) (.ok none) :: past) .lostRace
  | notDriver {operation : Operation} {caller : Identity} {id : Uuid} {current : Match}
      (decides : operation.Decides caller id) (other : current.driverId ≠ caller.subject) :
      FailsBy setup operation [.store (.getMatch id) (.ok (some current))] .trespass
  | decided {operation : Operation} {caller : Identity} {id : Uuid} {current : Match}
      (decides : operation.Decides caller id) (own : current.driverId = caller.subject)
      (decided : current.status ≠ .requested) :
      FailsBy setup operation [.store (.getMatch id) (.ok (some current))] .wrongStatus
  | notInvolved {caller : Identity} {id : Uuid} {current : Match}
      (other : current.involves caller.subject = false) :
      FailsBy setup (.completeMatch caller id) [.store (.getMatch id) (.ok (some current))]
        .trespass
  | notAccepted {caller : Identity} {id : Uuid} {current : Match}
      (involved : current.involves caller.subject = true) (early : current.status ≠ .accepted) :
      FailsBy setup (.completeMatch caller id) [.store (.getMatch id) (.ok (some current))]
        .wrongStatus
  /-- Somebody else has changed the status of the match since it was read. -/
  | movedOn {operation : Operation} {id : Uuid} {expected next : MatchStatus} {current : Match}
      (past : List Exchange) :
      FailsBy setup operation (.store (.getMatch id) (.ok (some current)) ::
        .store (.swapMatchStatus id expected next) (.ok .stale) :: past) .lostRace
  /-- Another visit has been recorded since the account was read. -/
  | seenSince {operation : Operation} {id : Uuid} {expected seen : Instant}
      (past : List Exchange) :
      FailsBy setup operation (.store (.swapLastSeen id expected seen) (.ok .stale) :: past)
        .lostRace
  | unheard {idToken : String} {reply : ProviderReply} (breaks : reply.Breaks) :
      FailsBy setup (.login idToken) [.introspect idToken reply] .internal
  | rejected {idToken : String} {reply : ProviderReply}
      (rejects : setup.login.policy.Rejects reply) :
      FailsBy setup (.login idToken) [.introspect idToken reply] .loginRejected

end Operation

theorem LoginPolicy.Rejects.not_breaks {policy : LoginPolicy} {reply : ProviderReply}
    (rejects : policy.Rejects reply) : ¬reply.Breaks := by
  rintro (reason | ⟨good, garbled⟩)
  · cases rejects with
    | holder read refused => cases read
  · cases rejects with
    | token body bad => exact bad good
    | holder read refused =>
        simp only [ProviderReply.read, if_pos good, garbled] at read
        cases read

namespace Operation

variable {setup : Setup} {operation : Operation} {past : List Exchange} {cause other : Cause}

/-! ### What has been said last tells the cause -/

theorem FailsBy.of_error {job : Job} {error : StoreError}
    (fails : operation.FailsBy setup (.store job (.error error) :: past) cause) :
    cause = .internal := by
  cases fails with
  | store => rfl
  | unknown _ _ misses => cases misses

theorem FailsBy.of_misses {exchange : Exchange} (looksUp : ¬operation.Publishes)
    (misses : exchange.Misses) (fails : operation.FailsBy setup (exchange :: past) cause) :
    cause = .unknownId := by
  cases misses <;> cases fails <;> first | rfl | contradiction

theorem FailsBy.of_stranger {id : Uuid} (publishes : operation.Publishes)
    (fails : operation.FailsBy setup (.store (.getUser id) (.ok none) :: past) cause) :
    cause = .invalid := by
  cases fails with
  | stranger => rfl
  | unknown _ looksUp => exact absurd publishes looksUp

theorem FailsBy.of_clock {now : Instant}
    (fails : operation.FailsBy setup (.clock now :: past) cause) : cause = .invalid := by
  cases fails with
  | flawedOffer | flawedRequest => rfl
  | unknown _ _ misses => cases misses

theorem FailsBy.of_offer {id : Uuid} {offer : RideOffer}
    (fails : operation.FailsBy setup [.store (.getOffer id) (.ok (some offer))] cause) :
    cause = if offer.driverId = none then .missingDriver else .selfMatch := by
  cases fails with
  | driverless driverless => rw [if_pos driverless]
  | ownOffer own => rw [if_neg (own ▸ Option.some_ne_none _)]
  | unknown _ _ misses => cases misses

theorem FailsBy.of_request {id : Uuid} {request : RideRequest}
    (fails : operation.FailsBy setup [.store (.getRequest id) (.ok (some request))] cause) :
    cause = if request.status = .active then .selfMatch else .inactiveRequest := by
  cases fails with
  | inactive inactive => rw [if_neg inactive]
  | ownRequest active own => rw [if_pos active]
  | unknown _ _ misses => cases misses

theorem FailsBy.of_acceptance {acceptance : Acceptance}
    (fails : operation.FailsBy setup (.store (.acceptRideRequest acceptance) (.ok none) :: past)
      cause) : cause = .lostRace := by
  cases fails with
  | taken => rfl
  | unknown _ _ misses => cases misses

theorem FailsBy.of_pairing {id : Uuid} {current : Match}
    (fails : operation.FailsBy setup [.store (.getMatch id) (.ok (some current))] cause) :
    operation.HasNoSay current ∧ cause = .trespass ∨
      ¬operation.HasNoSay current ∧ cause = .wrongStatus := by
  cases fails with
  | notDriver decides other => exact .inl ⟨decides.hasNoSay_iff.mpr other, rfl⟩
  | decided decides own => exact .inr ⟨fun other => decides.hasNoSay_iff.mp other own, rfl⟩
  | notInvolved other => exact .inl ⟨other, rfl⟩
  | notAccepted involved =>
      exact .inr ⟨fun other => Bool.false_ne_true (other.symm.trans involved), rfl⟩
  | unknown _ _ misses => cases misses

theorem FailsBy.of_stale {id other : Uuid} {expected next : MatchStatus} {current : Match}
    (fails : operation.FailsBy setup (.store (.getMatch id) (.ok (some current)) ::
      .store (.swapMatchStatus other expected next) (.ok .stale) :: past) cause) :
    cause = .lostRace := by
  cases fails with
  | movedOn => rfl
  | unknown _ _ misses => cases misses

theorem FailsBy.of_visit {id : Uuid} {expected seen : Instant}
    (fails : operation.FailsBy setup (.store (.swapLastSeen id expected seen) (.ok .stale) :: past)
      cause) : cause = .lostRace := by
  cases fails with
  | seenSince => rfl
  | unknown _ _ misses => cases misses

theorem FailsBy.of_breaks {idToken : String} {reply : ProviderReply} (breaks : reply.Breaks)
    (fails : operation.FailsBy setup [.introspect idToken reply] cause) : cause = .internal := by
  cases fails with
  | unheard => rfl
  | rejected rejects => exact absurd breaks rejects.not_breaks
  | unknown _ _ misses => cases misses

theorem FailsBy.of_rejects {idToken : String} {reply : ProviderReply}
    (rejects : setup.login.policy.Rejects reply)
    (fails : operation.FailsBy setup [.introspect idToken reply] cause) :
    cause = .loginRejected := by
  cases fails with
  | unheard breaks => exact absurd breaks rejects.not_breaks
  | rejected => rfl
  | unknown _ _ misses => cases misses

/-- There is never more than one cause. -/
theorem FailsBy.unique (fails : operation.FailsBy setup past cause)
    (otherwise : operation.FailsBy setup past other) : cause = other := by
  cases otherwise with
  | store error past => exact fails.of_error
  | unknown past looksUp misses => exact fails.of_misses looksUp misses
  | stranger past publishes => exact fails.of_stranger publishes
  | flawedOffer flawed => exact fails.of_clock
  | flawedRequest flawed => exact fails.of_clock
  | driverless driverless => exact fails.of_offer.trans (if_pos driverless)
  | ownOffer own => exact fails.of_offer.trans (if_neg (own ▸ Option.some_ne_none _))
  | inactive inactive => exact fails.of_request.trans (if_neg inactive)
  | ownRequest active own => exact fails.of_request.trans (if_pos active)
  | taken past => exact fails.of_acceptance
  | notDriver decides other =>
      exact (fails.of_pairing.resolve_right fun say => say.1 (decides.hasNoSay_iff.mpr other)).2
  | decided decides own =>
      exact (fails.of_pairing.resolve_left fun say => decides.hasNoSay_iff.mp say.1 own).2
  | notInvolved other => exact (fails.of_pairing.resolve_right fun say => say.1 other).2
  | notAccepted involved early =>
      refine (fails.of_pairing.resolve_left fun say => ?_).2
      exact Bool.false_ne_true (Eq.trans say.1.symm involved)
  | movedOn past => exact fails.of_stale
  | seenSince past => exact fails.of_visit
  | unheard breaks => exact fails.of_breaks breaks
  | rejected rejects => exact fails.of_rejects rejects

end Operation

end Carpool
