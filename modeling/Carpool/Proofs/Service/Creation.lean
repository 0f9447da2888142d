import Carpool.Proofs.Service.Caution
import Carpool.Proofs.Transcript

/-!
# Who creates what

Of all operations, each kind of row is created by the one that is there for it:
accounts by logins, offers and requests by publishing, matches by joining, and
an offer with its match by accepting a request.
-/

namespace Carpool

open Store

/-- What a call has come to ask is among what it asks. -/
theorem Call.Asks.of_leads {α : Type} {kind : Job → Prop} {call rest : Call α}
    {transcript : List Exchange} (asks : call.Asks kind) (leads : call.Leads transcript rest) :
    rest.Asks kind := by
  induction leads with
  | start => exact asks
  | store answer _ ih => exact ih (asks.2 answer)
  | clock now _ ih => exact ih (asks now)
  | introspect reply _ ih => exact ih (asks reply)

namespace Operation

/-- An operation may ask for a job: one that creates rows must be its own kind. -/
def MayAsk : Operation → Job → Prop
  | operation, .createUser _ => ∃ idToken, operation = .login idToken
  | operation, .createOffer _ => ∃ caller draft, operation = .createOffer caller draft
  | operation, .createRequest _ => ∃ caller draft, operation = .createRequest caller draft
  | operation, .createMatch _ => ∃ caller ride, operation = .requestToJoin caller ride
  | operation, .acceptRideRequest _ =>
      ∃ caller request, operation = .acceptRideRequest caller request
  | _, _ => True

variable {operation : Operation}

theorem advance_mayAsk (id : Uuid) (current : Match) (next : MatchStatus) :
    (Matching.advance id current next : Call (Except Failure Match)).Asks operation.MayAsk := by
  apply Call.Asks.of_shape (Matching.advance_shape id current next)
  refine .go trivial fun swap => ?_
  cases swap with
  | applied => trivial
  | stale => exact .go trivial (.whenFound fun now => trivial)

theorem resolve_mayAsk (caller : Identity) (id : Uuid) (next : MatchStatus) :
    (Matching.resolve caller id next : Call (Except Failure Match)).Asks operation.MayAsk := by
  apply Call.Asks.of_shape (Matching.resolve_shape caller id next)
  refine .go trivial (.whenFound fun current => ?_)
  exact .ite trivial (.ite trivial (advance_mayAsk id current next))

theorem completeMatch_mayAsk (policy : CompletionPolicy) (caller : Identity) (id : Uuid) :
    (Matching.completeMatch policy caller id : Call (Except Failure Match)).Asks
      operation.MayAsk := by
  cases policy with
  | unrestricted =>
      apply Call.Asks.of_shape (Matching.completeMatch_unrestricted_shape caller id)
      exact .go trivial (.whenFound fun record => trivial)
  | participants =>
      apply Call.Asks.of_shape (Matching.completeMatch_participants_shape caller id)
      refine .go trivial (.whenFound fun current => ?_)
      exact .ite trivial (.ite trivial (advance_mayAsk id current .completed))

theorem touchAt_mayAsk (caller : Identity) (now : Instant) :
    (Presence.touchAt caller now : Call (Except Failure User)).Asks operation.MayAsk := by
  apply Call.Asks.of_shape (Presence.touchAt_shape caller now)
  refine .go trivial (.whenFound fun user => .go trivial fun swap => ?_)
  cases swap <;> trivial

/-- Operations ask for no more than they may. -/
theorem call_mayAsk (operation : Operation) (setup : Setup) :
    (operation.call setup).Asks operation.MayAsk := by
  cases operation with
  | requestToJoin caller ride =>
      apply Call.Asks.of_shape (Matching.requestToJoin_shape caller ride)
      refine .go trivial (.whenFound fun offer => ?_)
      cases offer.driverId with
      | none => trivial
      | some driver => exact .ite trivial (.close ⟨caller, ride, rfl⟩)
  | acceptRideRequest caller request =>
      apply Call.Asks.of_shape (Matching.acceptRideRequest_shape caller request)
      refine .go trivial (.whenFound fun found => ?_)
      refine .ite trivial (.ite trivial (.go ⟨caller, request, rfl⟩ fun accepted => ?_))
      cases accepted <;> trivial
  | acceptRequest caller pairing => exact resolve_mayAsk caller pairing _
  | rejectRequest caller pairing => exact resolve_mayAsk caller pairing _
  | completeMatch caller pairing => exact completeMatch_mayAsk setup.policy caller pairing
  | getMatch pairing =>
      exact .of_shape (Matching.getMatch_shape pairing) (.go trivial (.whenFound fun _ => trivial))
  | listByRide ride => exact .of_shape (Matching.listByRide_shape ride) (.close trivial)
  | listByRider rider => exact .of_shape (Matching.listByRider_shape rider) (.close trivial)
  | listMine caller => exact .of_shape (Matching.listMine_shape caller) (.close trivial)
  | createOffer caller draft =>
      apply Call.Asks.of_shape (Publishing.createOffer_shape caller draft)
      exact .publication trivial fun input => .close ⟨caller, draft, rfl⟩
  | createRequest caller draft =>
      apply Call.Asks.of_shape (Publishing.createRequest_shape caller draft)
      exact .publication trivial fun input => .close ⟨caller, draft, rfl⟩
  | getOffer offer =>
      exact .of_shape (Publishing.getOffer_shape offer) (.go trivial (.whenFound fun _ => trivial))
  | getRequest request =>
      exact .of_shape (Publishing.getRequest_shape request)
        (.go trivial (.whenFound fun _ => trivial))
  | me caller =>
      exact .of_shape (Presence.me_shape caller) (.go trivial (.whenFound fun _ => trivial))
  | touch caller => exact fun now => touchAt_mayAsk caller now
  | touchAt caller now => exact touchAt_mayAsk caller now
  | login idToken =>
      apply Call.Asks.of_shape (Login.login_shape setup.login idToken)
      intro reply
      dsimp only
      split
      · trivial
      split
      · trivial
      refine .go trivial fun found => ?_
      have concludes (user : User) : (Login.conclude setup.login user).Asks
          (Operation.MayAsk (.login idToken)) := fun now => trivial
      cases found with
      | some user => exact concludes user
      | none => exact .go ⟨idToken, rfl⟩ concludes

theorem mayAsk_of_leads {setup : Setup} {transcript : List Exchange} {job : Job}
    {next : Except StoreError job.Result → Call operation.Reply}
    (leads : (operation.call setup).Leads transcript (.ask (.store job) next)) :
    operation.MayAsk job :=
  ((operation.call_mayAsk setup).of_leads leads).1

end Operation

end Carpool
