import Carpool.Service.Login
import Carpool.Service.Presence
import Carpool.Service.Publishing

/-!
# The questions of each call

Every service call spelled out as the questions that it asks, one after the
other, and what it makes of the answers.
-/

namespace Carpool

open Store

variable {ε α β : Type}

namespace Attempt

/-- Ask a job whose answer is the result of the call. -/
def close (wrap : StoreError → ε) (job : Job) : Call (Except ε job.Result) :=
  .ask (.store job) fun answer => .done (answer.mapError wrap)

/-- Ask a job whose failure ends the call. -/
def go (wrap : StoreError → ε) (job : Job) (next : job.Result → Call (Except ε α)) :
    Call (Except ε α) :=
  .ask (.store job) fun (answer : Except StoreError job.Result) =>
    match answer with
    | .ok result => next result
    | .error error => .done (.error (wrap error))

theorem store_bind (wrap : StoreError → ε) (job : Job) (next : job.Result → Attempt ε α) :
    (store wrap job >>= next : Attempt ε α) = go wrap job next := by
  change Call.ask (.store job) _ = Call.ask (.store job) _
  congr 1
  funext answer
  change Call.bind (.done _) _ = _
  cases answer <;> rfl

theorem store_eq (wrap : StoreError → ε) (job : Job) :
    (store wrap job : Attempt ε job.Result) = close wrap job := by
  change Call.ask (.store job) _ = Call.ask (.store job) _
  congr 1
  funext answer
  cases answer <;> rfl

end Attempt

namespace Matching

/-- Go on with the record that must be there. -/
def whenFound (entity : Entity) (id : Uuid) (next : α → Call (Except Failure β)) :
    Option α → Call (Except Failure β)
  | some record => next record
  | none => .done (.error (.notFound entity id))

theorem require_bind (entity : Entity) (id : Uuid) (found : Option α)
    (next : α → Attempt Failure β) :
    (require entity id found >>= next : Attempt Failure β) = whenFound entity id next found := by
  cases found <;> rfl

theorem whenFound_ends (entity : Entity) (id : Uuid) (found : Option α) :
    ∃ result, whenFound entity id (fun record => .done (.ok record)) found =
      (.done result : Call (Except Failure α)) := by
  cases found <;> exact ⟨_, rfl⟩

theorem getMatch_bind (id : Uuid) (next : Match → Attempt Failure α) :
    (getMatch id >>= next : Attempt Failure α) =
      Attempt.go Failure.store (.getMatch id) (whenFound .pairing id next) := by
  change Call.ask (.store (.getMatch id)) _ = Call.ask (.store (.getMatch id)) _
  congr 1
  funext answer
  rcases answer with error | (_ | record) <;> rfl

theorem getMatch_shape (id : Uuid) :
    (getMatch id : Call (Except Failure Match)) =
      Attempt.go Failure.store (.getMatch id)
        (whenFound .pairing id fun record => .done (.ok record)) := by
  exact Attempt.store_bind Failure.store (.getMatch id) _

theorem requestToJoin_shape (caller : Identity) (ride : Uuid) :
    (requestToJoin caller ride : Call (Except Failure Match)) =
      Attempt.go Failure.store (.getOffer ride)
        (whenFound .rideOffer ride fun offer =>
          match offer.driverId with
          | none => .done (.error (.missingDriver ride))
          | some driver =>
              if driver = caller.subject then .done (.error .selfMatch)
              else
                Attempt.close Failure.store
                  (.createMatch ⟨caller.subject, driver, ride, .requested⟩)) := by
  refine (Attempt.store_bind Failure.store (.getOffer ride) _).trans ?_
  congr 1
  funext found
  refine (require_bind .rideOffer ride found _).trans ?_
  congr 1
  funext offer
  cases offer.driverId with
  | none => rfl
  | some driver =>
      by_cases own : driver = caller.subject
      · exact (if_pos own).trans (if_pos own).symm
      · refine (if_neg own).trans (Eq.trans ?_ (if_neg own).symm)
        exact Attempt.store_eq Failure.store _

/-- What is left of an acceptance once the request has been read. -/
def claim (id : Uuid) (acceptance : Acceptance) : Call (Except Failure Accepted) :=
  Attempt.go Failure.store (.acceptRideRequest acceptance) fun accepted =>
    match accepted with
    | some accepted => .done (.ok accepted)
    | none => .done (.error (.notActive id))

theorem acceptRideRequest_shape (caller : Identity) (id : Uuid) :
    (acceptRideRequest caller id : Call (Except Failure Accepted)) =
      Attempt.go Failure.store (.getRequest id)
        (whenFound .rideRequest id fun request =>
          if request.status ≠ .active then .done (.error (.notActive id))
          else if request.userId = caller.subject then .done (.error .selfMatch)
          else claim id (.ofRequest request caller.subject)) := by
  refine (Attempt.store_bind Failure.store (.getRequest id) _).trans ?_
  congr 1
  funext found
  refine (require_bind .rideRequest id found _).trans ?_
  congr 1
  funext request
  by_cases inactive : request.status ≠ .active
  · simp only [if_pos inactive]
    rfl
  · simp only [if_neg inactive]
    by_cases own : request.userId = caller.subject
    · simp only [if_pos own]
      rfl
    · simp only [if_neg own]
      refine (Attempt.store_bind Failure.store _ _).trans ?_
      rw [claim]
      congr 1
      funext accepted
      cases accepted <;> rfl

theorem advance_shape (id : Uuid) (current : Match) (next : MatchStatus) :
    (advance id current next : Call (Except Failure Match)) =
      Attempt.go Failure.store (.swapMatchStatus id current.status next) fun swap =>
        match swap with
        | .applied => .done (.ok { current with status := next })
        | .stale =>
            Attempt.go Failure.store (.getMatch id)
              (whenFound .pairing id fun now =>
                .done (.error (.invalidState id current.status now.status))) := by
  refine (Attempt.store_bind Failure.store (.swapMatchStatus id current.status next) _).trans ?_
  congr 1
  funext swap
  cases swap with
  | applied => rfl
  | stale => exact getMatch_bind id _

theorem resolve_shape (caller : Identity) (id : Uuid) (next : MatchStatus) :
    (resolve caller id next : Call (Except Failure Match)) =
      Attempt.go Failure.store (.getMatch id)
        (whenFound .pairing id fun current =>
          if current.driverId ≠ caller.subject then
            .done (.error (.forbidden (decisionByOther next id)))
          else if !current.status.canResolveTo next then
            .done (.error (.invalidState id .requested current.status))
          else advance id current next) := by
  exact getMatch_bind id _

theorem completeMatch_unrestricted_shape (caller : Identity) (id : Uuid) :
    (completeMatch .unrestricted caller id : Call (Except Failure Match)) =
      Attempt.go Failure.store (.forceMatchStatus id .completed)
        (whenFound .pairing id fun record => .done (.ok record)) := by
  exact Attempt.store_bind Failure.store (.forceMatchStatus id .completed) _

theorem completeMatch_participants_shape (caller : Identity) (id : Uuid) :
    (completeMatch .participants caller id : Call (Except Failure Match)) =
      Attempt.go Failure.store (.getMatch id)
        (whenFound .pairing id fun current =>
          if !current.involves caller.subject then
            .done (.error (.forbidden (.completeByOther id)))
          else if current.status ≠ .accepted then
            .done (.error (.invalidState id .accepted current.status))
          else advance id current .completed) := by
  exact getMatch_bind id _

theorem listByRide_shape (ride : Uuid) :
    (listByRide ride : Call (Except Failure (List Match))) =
      Attempt.close Failure.store (.listMatchesByRide ride) :=
  Attempt.store_eq Failure.store (.listMatchesByRide ride)

theorem listByRider_shape (rider : Uuid) :
    (listByRider rider : Call (Except Failure (List Match))) =
      Attempt.close Failure.store (.listMatchesByRider rider) :=
  Attempt.store_eq Failure.store (.listMatchesByRider rider)

theorem listMine_shape (caller : Identity) :
    (listMine caller : Call (Except Failure (List Match))) =
      Attempt.close Failure.store (.listMatchesForUser caller.subject) :=
  Attempt.store_eq Failure.store (.listMatchesForUser caller.subject)

end Matching

namespace Publishing

theorem withoutFlaw_bind {value : Except Flaw α} (next : α → Attempt Failure β) :
    (withoutFlaw value >>= next : Attempt Failure β) =
      match value with
      | .ok value => next value
      | .error flaw => (.done (.error (.invalid flaw)) : Call (Except Failure β)) := by
  cases value <;> rfl

theorem requireAccount_bind (caller : Identity) (flaw : Flaw)
    (next : Unit → Attempt Failure α) :
    (requireAccount caller flaw >>= next : Attempt Failure α) =
      Attempt.go Failure.store (.getUser caller.subject) fun found =>
        match found with
        | some _ => next ()
        | none => .done (.error (.invalid flaw)) := by
  change Call.ask (.store (.getUser caller.subject)) _ = Call.ask (.store _) _
  congr 1
  funext answer
  rcases answer with error | (_ | user) <;> rfl

/-- What both ways to publish come to: the draft is checked by the clock, and
then nobody without an account writes. -/
def publication (caller : Identity) (check : Instant → Except Flaw α) (stranger : Flaw)
    (write : α → Call (Except Failure β)) : Call (Except Failure β) :=
  .ask .clock fun now =>
    match check now with
    | .error flaw => .done (.error (.invalid flaw))
    | .ok input =>
        Attempt.go Failure.store (.getUser caller.subject) fun found =>
          match found with
          | some _ => write input
          | none => .done (.error (.invalid stranger))

theorem publication_shape (caller : Identity) (check : Instant → Except Flaw α) (stranger : Flaw)
    {ask : α → Attempt Failure β} {write : α → Call (Except Failure β)}
    (same : ∀ input, (ask input : Call (Except Failure β)) = write input) :
    (Attempt.clock >>= fun now => withoutFlaw (check now) >>= fun input =>
      requireAccount caller stranger >>= fun _ => ask input : Attempt Failure β) =
      publication caller check stranger write := by
  obtain rfl : ask = write := funext same
  change Call.ask .clock _ = Call.ask .clock _
  congr 1
  funext now
  refine (withoutFlaw_bind _).trans ?_
  cases check now with
  | error flaw => rfl
  | ok input => exact requireAccount_bind caller stranger _

theorem createOffer_shape (caller : Identity) (draft : OfferDraft) :
    (createOffer caller draft : Call (Except Failure RideOffer)) =
      publication caller (draft.publish caller.subject) .unknownDriver fun offer =>
        Attempt.close Failure.store (.createOffer offer) :=
  publication_shape caller _ .unknownDriver fun _ => Attempt.store_eq Failure.store _

theorem createRequest_shape (caller : Identity) (draft : RequestDraft) :
    (createRequest caller draft : Call (Except Failure RideRequest)) =
      publication caller (draft.publish caller.subject) .unknownUser fun request =>
        Attempt.close Failure.store (.createRequest request) :=
  publication_shape caller _ .unknownUser fun _ => Attempt.store_eq Failure.store _

theorem getOffer_shape (id : Uuid) :
    (getOffer id : Call (Except Failure RideOffer)) =
      Attempt.go Failure.store (.getOffer id)
        (Matching.whenFound .rideOffer id fun offer => .done (.ok offer)) := by
  exact Attempt.store_bind Failure.store (.getOffer id) _

theorem getRequest_shape (id : Uuid) :
    (getRequest id : Call (Except Failure RideRequest)) =
      Attempt.go Failure.store (.getRequest id)
        (Matching.whenFound .rideRequest id fun request => .done (.ok request)) := by
  exact Attempt.store_bind Failure.store (.getRequest id) _

end Publishing

namespace Presence

theorem me_bind (caller : Identity) (next : User → Attempt Failure α) :
    (me caller >>= next : Attempt Failure α) =
      Attempt.go Failure.store (.getUser caller.subject)
        (Matching.whenFound .user caller.subject next) := by
  change Call.ask (.store (.getUser caller.subject)) _ = Call.ask (.store _) _
  congr 1
  funext answer
  rcases answer with error | (_ | user) <;> rfl

theorem me_shape (caller : Identity) :
    (me caller : Call (Except Failure User)) =
      Attempt.go Failure.store (.getUser caller.subject)
        (Matching.whenFound .user caller.subject fun user => .done (.ok user)) := by
  exact Attempt.store_bind Failure.store (.getUser caller.subject) _

theorem touchAt_shape (caller : Identity) (now : Instant) :
    (touchAt caller now : Call (Except Failure User)) =
      Attempt.go Failure.store (.getUser caller.subject)
        (Matching.whenFound .user caller.subject fun user =>
          Attempt.go Failure.store (.swapLastSeen user.userId user.lastSeen now.toSecond)
            fun swap =>
              match swap with
              | .applied => .done (.ok { user with lastSeen := now.toSecond })
              | .stale => .done (.error (.conflict .lastSeen))) := by
  refine (me_bind caller _).trans ?_
  congr 2
  funext user
  refine (Attempt.store_bind Failure.store _ _).trans ?_
  congr 1
  funext swap
  cases swap <;> rfl

theorem touch_shape (caller : Identity) :
    (touch caller : Call (Except Failure User)) = .ask .clock (touchAt caller) := by
  rfl

end Presence

namespace Login

/-- Go on with the clock and the session token of an account. -/
def conclude (settings : Settings) (user : User) : Call (Except LoginError (Option Session)) :=
  .ask .clock fun now => .done (.ok (session? settings user now))

def newcomer (info : TokenInfo) : NewUser where
  email := Text.lower info.email
  name := info.name
  photoUrl := info.picture.filter fun text => !text.isEmpty

theorem settled_bind (result : Except LoginError β) (next : β → Attempt LoginError α) :
    (ExceptT.mk (pure result) >>= next : Attempt LoginError α) =
      match result with
      | .error error => (.done (.error error) : Call (Except LoginError α))
      | .ok value => next value := by
  cases result <;> rfl

theorem account_bind (info : TokenInfo) (next : User → Attempt LoginError α) :
    (account info >>= next : Attempt LoginError α) =
      Attempt.go LoginError.store (.findUserByEmail (Text.lower info.email)) fun found =>
        match found with
        | some user => next user
        | none => Attempt.go LoginError.store (.createUser (newcomer info)) next := by
  change Call.ask (.store (.findUserByEmail (Text.lower info.email))) _ = Call.ask (.store _) _
  congr 1
  funext answer
  rcases answer with error | (_ | user)
  · rfl
  · change Call.ask (.store (.createUser (newcomer info))) _ = Call.ask (.store _) _
    congr 1
    funext answer
    cases answer <;> rfl
  · rfl

theorem login_shape (settings : Settings) (idToken : String) :
    (login settings idToken : Call (Except LoginError (Option Session))) =
      .ask (.introspect idToken) fun reply =>
        match ProviderReply.read reply with
        | .error error => .done (.error error)
        | .ok info =>
            match settings.policy.check info with
            | .error error => .done (.error error)
            | .ok _ =>
                Attempt.go LoginError.store (.findUserByEmail (Text.lower info.email)) fun found =>
                  match found with
                  | some user => conclude settings user
                  | none =>
                      Attempt.go LoginError.store (.createUser (newcomer info))
                        (conclude settings) := by
  change Call.ask (.introspect idToken) _ = Call.ask (.introspect idToken) _
  congr 1
  funext reply
  change Call.bind (.done (ProviderReply.read reply)) _ = _
  cases ProviderReply.read reply with
  | error error => rfl
  | ok info =>
      refine (settled_bind (settings.policy.check info) _).trans ?_
      dsimp only
      cases settings.policy.check info with
      | error error => rfl
      | ok admitted =>
          exact account_bind info _

end Login

end Carpool
