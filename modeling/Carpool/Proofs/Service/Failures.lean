import Carpool.Proofs.Api.Shape
import Carpool.Proofs.Service.Causes

/-!
# Operations fail by their causes

An operation fails exactly when there is a cause, and with the code of it.  A
failure inside the service ends the operation at once, and nothing else is shown
of it.
-/

namespace Carpool

open Store

variable {α β ε : Type}

/-- What is no failure has no cause, and a failure has one, of whose code it is. -/
def Operation.Accounts (setup : Setup) (operation : Operation) (shown : ε → ApiError)
    (past : List Exchange) : Except ε α → Prop
  | .ok _ => ∀ cause, ¬operation.FailsBy setup past cause
  | .error error => ∃ cause, operation.FailsBy setup past cause ∧ (shown error).code = cause.code

/-- The result shows nothing but that something inside the service has failed. -/
def Veiled (shown : ε → ApiError) (result : Except ε α) : Prop :=
  ∃ error, result = .error error ∧ shown error = .internal

namespace Call

/-- An operation that goes on so fails when there is a cause, and then by it. -/
abbrev Explains (setup : Setup) (operation : Operation) (shown : ε → ApiError) :
    List Exchange → Call (Except ε α) → Prop :=
  Upholds (operation.Accounts setup shown) (Veiled shown)

variable {setup : Setup} {operation : Operation} {shown : ε → ApiError} {past : List Exchange}
  {wrap : StoreError → ε} {job : Job}

theorem Explains.error {error : ε} {cause : Cause} (fails : operation.FailsBy setup past cause)
    (code : (shown error).code = cause.code) :
    (Call.done (.error error : Except ε α)).Explains setup operation shown past :=
  ⟨cause, fails, code⟩

theorem Explains.go {next : job.Result → Call (Except ε α)}
    (hides : ∀ error, shown (wrap error) = .internal)
    (goesOn : ∀ result,
      (next result).Explains setup operation shown (.store job (.ok result) :: past)) :
    (Attempt.go wrap job next).Explains setup operation shown past := by
  intro answer
  cases answer with
  | error error =>
      have code : (shown (wrap error)).code = Cause.internal.code := congrArg _ (hides error)
      exact ⟨⟨.internal, .store error past, code⟩, fun _ => ⟨_, rfl, _, rfl, hides error⟩⟩
  | ok result =>
      refine ⟨goesOn result, ?_⟩
      rintro ⟨error, ⟨⟩⟩

theorem close_eq_go :
    Attempt.close wrap job = Attempt.go wrap job fun result => .done (.ok result) := by
  rw [Attempt.close, Attempt.go]
  congr 1
  funext answer
  cases answer <;> rfl

theorem Explains.close (hides : ∀ error, shown (wrap error) = .internal)
    (sound : ∀ result cause, ¬operation.FailsBy setup (.store job (.ok result) :: past) cause) :
    (Attempt.close wrap job).Explains setup operation shown past := by
  rw [close_eq_go]
  exact .go hides sound

theorem Explains.clock {next : Instant → Call (Except ε α)}
    (goesOn : ∀ now, (next now).Explains setup operation shown (.clock now :: past)) :
    Explains setup operation shown past (.ask .clock next) :=
  fun now => ⟨goesOn now, False.elim⟩

theorem Explains.introspect {idToken : String} {next : ProviderReply → Call (Except ε α)}
    (hears : ∀ reply,
      (next reply).Explains setup operation shown (.introspect idToken reply :: past))
    (ends : ∀ reply, reply.Breaks → ∃ result, next reply = .done result ∧ Veiled shown result) :
    Explains setup operation shown past (.ask (.introspect idToken) next) :=
  fun reply => ⟨hears reply, ends reply⟩

theorem Explains.ite {condition : Prop} [Decidable condition] {first second : Call (Except ε α)}
    (yes : condition → first.Explains setup operation shown past)
    (no : ¬condition → second.Explains setup operation shown past) :
    (if condition then first else second).Explains setup operation shown past := by
  split
  · exact yes ‹_›
  · exact no ‹_›

theorem Explains.whenFound {entity : Entity} {id : Uuid} {found : Option β} {exchange : Exchange}
    {next : β → Call (Except Failure α)} (looksUp : ¬operation.Publishes)
    (misses : found = none → exchange.Misses)
    (goesOn : ∀ record, found = some record →
      (next record).Explains setup operation ApiError.ofFailure (exchange :: past)) :
    (Matching.whenFound entity id next found).Explains setup operation ApiError.ofFailure
      (exchange :: past) := by
  cases found with
  | none => exact .error (.unknown past looksUp (misses rfl)) rfl
  | some record => exact goesOn record rfl

end Call

namespace Matching

variable {setup : Setup}

open Call (Explains)

theorem hidden (error : StoreError) : ApiError.ofFailure (.store error) = .internal := rfl

theorem requestToJoin_explains (setup : Setup) (caller : Identity) (ride : Uuid) :
    Explains setup (.requestToJoin caller ride) ApiError.ofFailure []
      (requestToJoin caller ride : Call (Except Failure Match)) := by
  rw [requestToJoin_shape]
  refine .go hidden fun found => .whenFound not_false ?_ ?_
  · rintro rfl
    exact .offer ride
  rintro offer rfl
  cases driven : offer.driverId with
  | none => exact .error (.driverless driven) rfl
  | some driver =>
      refine .ite (fun own => ?_) fun _ => .close hidden fun record cause fails => ?_
      · exact .error (.ownOffer (driven.trans (congrArg some own))) rfl
      · cases fails with
        | unknown _ _ misses => cases misses

theorem acceptRideRequest_explains (setup : Setup) (caller : Identity) (id : Uuid) :
    Explains setup (.acceptRideRequest caller id) ApiError.ofFailure []
      (acceptRideRequest caller id : Call (Except Failure Accepted)) := by
  rw [acceptRideRequest_shape]
  refine .go hidden fun found => .whenFound not_false ?_ ?_
  · rintro rfl
    exact .request id
  rintro request rfl
  refine .ite (fun inactive => .error (.inactive inactive) rfl) fun active => ?_
  refine .ite (fun own => .error (.ownRequest (not_not.mp active) own) rfl) fun _ => ?_
  refine .go hidden fun accepted => ?_
  cases accepted with
  | none => exact .error (.taken _) rfl
  | some accepted =>
      intro cause fails
      cases fails with
      | unknown _ _ misses => cases misses

theorem advance_explains {operation : Operation} {past : List Exchange}
    (looksUp : ¬operation.Publishes) (id : Uuid) (current : Match) (next : MatchStatus) :
    Explains setup operation ApiError.ofFailure past
      (advance id current next : Call (Except Failure Match)) := by
  rw [advance_shape]
  refine .go hidden fun swap => ?_
  cases swap with
  | applied =>
      intro cause fails
      cases fails with
      | unknown _ _ misses => cases misses
  | stale =>
      refine .go hidden fun found => .whenFound looksUp ?_ ?_
      · rintro rfl
        exact .pairing id
      · rintro now rfl
        exact .error (.movedOn _) rfl

theorem resolve_explains {operation : Operation} {caller : Identity} {id : Uuid}
    {next : MatchStatus} (decides : operation.Decides caller id)
    (decision : next = .accepted ∨ next = .rejected) :
    Explains setup operation ApiError.ofFailure []
      (resolve caller id next : Call (Except Failure Match)) := by
  have looksUp : ¬operation.Publishes := by cases decides <;> exact not_false
  rw [resolve_shape]
  refine .go hidden fun found => .whenFound looksUp ?_ ?_
  · rintro rfl
    exact .pairing id
  rintro current rfl
  refine .ite (fun other => .error (.notDriver decides other) rfl) fun own => ?_
  refine .ite (fun settled => .error (.decided decides (not_not.mp own) ?_) rfl) fun _ => ?_
  · intro pending
    obtain rfl | rfl := decision <;> rw [pending] at settled <;> cases settled
  · exact advance_explains looksUp id current next

theorem completeMatch_explains (setup : Setup) (caller : Identity) (id : Uuid) :
    Explains setup (.completeMatch caller id) ApiError.ofFailure []
      (completeMatch setup.policy caller id : Call (Except Failure Match)) := by
  cases setup.policy with
  | unrestricted =>
      rw [completeMatch_unrestricted_shape]
      refine .go hidden fun found => .whenFound not_false ?_ ?_
      · rintro rfl
        exact .completion id .completed
      · rintro record rfl cause fails
        cases fails with
        | unknown _ _ misses => cases misses
  | participants =>
      rw [completeMatch_participants_shape]
      refine .go hidden fun found => .whenFound not_false ?_ ?_
      · rintro rfl
        exact .pairing id
      rintro current rfl
      refine .ite (fun other => .error (.notInvolved (by simpa using other)) rfl) fun involved => ?_
      have looksUp : ¬(Operation.completeMatch caller id).Publishes := not_false
      have involved : current.involves caller.subject = true := by simpa using involved
      refine .ite (fun early => .error (.notAccepted involved early) rfl) fun _ => ?_
      exact advance_explains looksUp id current .completed

theorem getMatch_explains (setup : Setup) (id : Uuid) :
    Explains setup (.getMatch id) ApiError.ofFailure []
      (getMatch id : Call (Except Failure Match)) := by
  rw [getMatch_shape]
  refine .go hidden fun found => .whenFound not_false ?_ ?_
  · rintro rfl
    exact .pairing id
  · rintro record rfl cause fails
    cases fails with
    | unknown _ _ misses => cases misses
    | notDriver decides => cases decides
    | decided decides => cases decides

/-- The jobs that look for all matches of somebody or of a ride. -/
inductive Lists : Job → Prop
  | byRide (ride : Uuid) : Lists (.listMatchesByRide ride)
  | byRider (rider : Uuid) : Lists (.listMatchesByRider rider)
  | forUser (user : Uuid) : Lists (.listMatchesForUser user)

/-- Nobody is told that there are no matches; the list is empty then. -/
theorem list_explains {operation : Operation} {job : Job} {list : Call (Except Failure job.Result)}
    (lists : Lists job) (shape : list = Attempt.close Failure.store job) :
    Explains setup operation ApiError.ofFailure [] list := by
  rw [shape]
  refine .close hidden fun result cause fails => ?_
  cases lists <;>
    cases fails with
    | unknown _ _ misses => cases misses

end Matching

namespace Publishing

open Call (Explains)

variable {setup : Setup}

theorem publication_explains {operation : Operation} {caller : Identity}
    {check : Instant → Except Flaw α} {stranger : Flaw} {write : α → Call (Except Failure β)}
    (publishes : operation.Publishes)
    (flawed : ∀ now flaw, check now = .error flaw →
      operation.FailsBy setup [.clock now] .invalid)
    (writes : ∀ input past, Explains setup operation ApiError.ofFailure past (write input)) :
    Explains setup operation ApiError.ofFailure []
      (publication caller check stranger write) := by
  refine .clock fun now => ?_
  split
  · rename_i flaw failed
    exact .error (flawed now flaw failed) rfl
  refine .go Matching.hidden fun found => ?_
  cases found with
  | none => exact .error (.stranger _ publishes) rfl
  | some user => exact writes _ _

theorem createOffer_explains (setup : Setup) (caller : Identity) (draft : OfferDraft) :
    Explains setup (.createOffer caller draft) ApiError.ofFailure []
      (createOffer caller draft : Call (Except Failure RideOffer)) := by
  rw [createOffer_shape]
  refine publication_explains trivial ?_ fun input past => .close Matching.hidden ?_
  · intro now flaw failed
    exact .flawedOffer (OfferDraft.publish_eq_error failed)
  · intro offer cause fails
    cases fails with
    | unknown _ looksUp => exact looksUp trivial

theorem createRequest_explains (setup : Setup) (caller : Identity) (draft : RequestDraft) :
    Explains setup (.createRequest caller draft) ApiError.ofFailure []
      (createRequest caller draft : Call (Except Failure RideRequest)) := by
  rw [createRequest_shape]
  refine publication_explains trivial ?_ fun input past => .close Matching.hidden ?_
  · intro now flaw failed
    exact .flawedRequest (RequestDraft.publish_eq_error failed)
  · intro request cause fails
    cases fails with
    | unknown _ looksUp => exact looksUp trivial

theorem getOffer_explains (setup : Setup) (id : Uuid) :
    Explains setup (.getOffer id) ApiError.ofFailure []
      (getOffer id : Call (Except Failure RideOffer)) := by
  rw [getOffer_shape]
  refine .go Matching.hidden fun found => .whenFound not_false ?_ ?_
  · rintro rfl
    exact .offer id
  · rintro offer rfl cause fails
    cases fails with
    | unknown _ _ misses => cases misses

theorem getRequest_explains (setup : Setup) (id : Uuid) :
    Explains setup (.getRequest id) ApiError.ofFailure []
      (getRequest id : Call (Except Failure RideRequest)) := by
  rw [getRequest_shape]
  refine .go Matching.hidden fun found => .whenFound not_false ?_ ?_
  · rintro rfl
    exact .request id
  · rintro request rfl cause fails
    cases fails with
    | unknown _ _ misses => cases misses

end Publishing

namespace Presence

open Call (Explains)

variable {setup : Setup}

theorem me_explains (setup : Setup) (caller : Identity) :
    Explains setup (.me caller) ApiError.ofFailure []
      (me caller : Call (Except Failure User)) := by
  rw [me_shape]
  refine .go Matching.hidden fun found => .whenFound not_false ?_ ?_
  · rintro rfl
    exact .user caller.subject
  · rintro user rfl cause fails
    cases fails with
    | unknown _ _ misses => cases misses

theorem touchAt_explains {operation : Operation} {past : List Exchange}
    (looksUp : ¬operation.Publishes) (caller : Identity) (now : Instant) :
    Explains setup operation ApiError.ofFailure past
      (touchAt caller now : Call (Except Failure User)) := by
  rw [touchAt_shape]
  refine .go Matching.hidden fun found => .whenFound looksUp ?_ ?_
  · rintro rfl
    exact .user caller.subject
  rintro user rfl
  refine .go Matching.hidden fun swap => ?_
  cases swap with
  | applied =>
      intro cause fails
      cases fails with
      | unknown _ _ misses => cases misses
  | stale => exact .error (.seenSince _) rfl

theorem touch_explains (setup : Setup) (caller : Identity) :
    Explains setup (.touch caller) ApiError.ofFailure []
      (touch caller : Call (Except Failure User)) := by
  have looksUp : ¬(Operation.touch caller).Publishes := not_false
  rw [touch_shape]
  exact .clock fun now => touchAt_explains looksUp caller now

end Presence

namespace Login

open Call (Explains)

variable {setup : Setup}

theorem hidden (error : StoreError) : ApiError.ofLogin (.store error) = .internal := rfl

theorem read_of_breaks {reply : ProviderReply} (breaks : reply.Breaks) :
    ∃ error, reply.read = .error error ∧ ApiError.ofLogin error = .internal := by
  cases breaks with
  | unreachable reason => exact ⟨.introspection reason, rfl, rfl⟩
  | unreadable good garbled =>
      refine ⟨.introspection "no token information", ?_, rfl⟩
      rw [ProviderReply.read, if_pos good, garbled]

theorem read_eq_error {reply : ProviderReply} {error : LoginError}
    (unread : reply.read = .error error) :
    reply.Breaks ∨ error = .invalidToken ∧ ∀ policy : LoginPolicy, policy.Rejects reply := by
  cases reply with
  | unreachable reason => exact .inl (.unreachable reason)
  | answered status body =>
      rw [ProviderReply.read] at unread
      split at unread
      · rename_i good
        split at unread
        · cases unread
        · exact .inl (.unreadable good ‹_›)
      · rename_i bad
        exact .inr ⟨(Except.error.inj unread).symm, fun policy => .token body bad⟩

theorem isRejection_of_check {policy : LoginPolicy} {info : TokenInfo} {error : LoginError}
    (refused : policy.check info = .error error) : error.isRejection = true := by
  rw [LoginPolicy.check] at refused
  split at refused
  · exact Except.error.inj refused ▸ rfl
  split at refused
  · exact Except.error.inj refused ▸ rfl
  split at refused
  · cases refused
  · exact Except.error.inj refused ▸ rfl

theorem code_of_rejection {error : LoginError} (rejection : error.isRejection = true) :
    (ApiError.ofLogin error).code = Cause.loginRejected.code := by
  rw [ApiError.ofLogin, if_pos rejection]
  rfl

theorem conclude_explains {idToken : String} {past : List Exchange} (user : User) :
    Explains setup (.login idToken) ApiError.ofLogin past (conclude setup.login user) := by
  refine .clock fun now cause fails => ?_
  cases fails with
  | unknown _ _ misses => cases misses

theorem login_explains (setup : Setup) (idToken : String) :
    Explains setup (.login idToken) ApiError.ofLogin []
      (login setup.login idToken : Call (Except LoginError (Option Session))) := by
  rw [login_shape]
  refine .introspect (fun reply => ?_) fun reply breaks => ?_
  · cases read : reply.read with
    | error error =>
        obtain breaks | ⟨rfl, rejects⟩ := read_eq_error read
        · obtain ⟨same, unread, shown⟩ := read_of_breaks breaks
          obtain rfl := Except.error.inj (read.symm.trans unread)
          exact .error (.unheard breaks) (congrArg _ shown)
        · exact .error (.rejected (rejects _)) rfl
    | ok info =>
        dsimp only
        cases checked : setup.login.policy.check info with
        | error error =>
            have rejection := isRejection_of_check checked
            exact .error (.rejected (.holder read checked)) (code_of_rejection rejection)
        | ok admitted =>
            refine .go hidden fun found => ?_
            cases found with
            | some user => exact conclude_explains user
            | none => exact .go hidden fun user => conclude_explains user
  · obtain ⟨error, unread, shown⟩ := read_of_breaks breaks
    refine ⟨.error error, ?_, error, rfl, shown⟩
    rw [unread]

end Login

namespace Operation

open Call (Explains)

variable {setup : Setup}

theorem Accounts.map {operation : Operation} {past : List Exchange} {shown : ε → ApiError}
    {result : Except ε α} (accounts : operation.Accounts setup shown past result)
    (present : α → β) :
    operation.Accounts setup id past ((result.mapError shown).map present) := by
  cases result <;> exact accounts

theorem mapped_explains {operation : Operation} {shown : ε → ApiError}
    {call : Call (Except ε α)} (present : α → Option Json.Document)
    (explains : call.Explains setup operation shown []) :
    call.Upholds
      (fun past result => operation.Accounts setup id past ((result.mapError shown).map present))
      (fun result => (result.mapError shown).map present = .error .internal) [] := by
  refine explains.mono (fun past result accounts => accounts.map present) ?_
  rintro result ⟨error, rfl, hides⟩
  exact congrArg Except.error hides

/-- An operation fails when there is a cause, and then by it, whatever it is
answered. -/
theorem explains (setup : Setup) (operation : Operation) :
    (operation.call setup).Upholds
      (fun past reply => operation.Accounts setup id past (Api.present operation reply))
      (fun reply => Api.present operation reply = .error .internal) [] := by
  cases operation with
  | requestToJoin caller ride =>
      exact mapped_explains _ (Matching.requestToJoin_explains setup caller ride)
  | acceptRideRequest caller request =>
      exact mapped_explains _ (Matching.acceptRideRequest_explains setup caller request)
  | acceptRequest caller pairing =>
      exact mapped_explains _ (Matching.resolve_explains .accept (.inl rfl))
  | rejectRequest caller pairing =>
      exact mapped_explains _ (Matching.resolve_explains .reject (.inr rfl))
  | completeMatch caller pairing =>
      exact mapped_explains _ (Matching.completeMatch_explains setup caller pairing)
  | getMatch pairing => exact mapped_explains _ (Matching.getMatch_explains setup pairing)
  | listByRide ride =>
      exact mapped_explains _
        (Matching.list_explains (.byRide ride) (Matching.listByRide_shape ride))
  | listByRider rider =>
      exact mapped_explains _
        (Matching.list_explains (.byRider rider) (Matching.listByRider_shape rider))
  | listMine caller =>
      exact mapped_explains _
        (Matching.list_explains (.forUser caller.subject) (Matching.listMine_shape caller))
  | createOffer caller draft =>
      exact mapped_explains _ (Publishing.createOffer_explains setup caller draft)
  | createRequest caller draft =>
      exact mapped_explains _ (Publishing.createRequest_explains setup caller draft)
  | getOffer offer => exact mapped_explains _ (Publishing.getOffer_explains setup offer)
  | getRequest request => exact mapped_explains _ (Publishing.getRequest_explains setup request)
  | me caller => exact mapped_explains _ (Presence.me_explains setup caller)
  | touch caller => exact mapped_explains _ (Presence.touch_explains setup caller)
  | touchAt caller now =>
      have looksUp : ¬(Operation.touchAt caller now).Publishes := not_false
      exact mapped_explains _ (Presence.touchAt_explains looksUp caller now)
  | login idToken => exact mapped_explains _ (Login.login_explains setup idToken)

end Operation

end Carpool
