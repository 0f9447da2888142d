import Carpool.Proofs.Ride.Draft
import Carpool.Proofs.Service.Caution
import Carpool.Proofs.StatusMachine

/-!
# In whose name

What an operation reads of accounts and what it writes, it does in the name of
its caller: the rows that it makes or changes bear the caller's identifier where
somebody acts in them, and no other account is looked at.
-/

namespace Carpool

open Store

/-- The job looks up no account, and lists nobody's matches, but those of a
user. -/
def Store.Job.KeepsToAccount (user : Uuid) : Job → Prop
  | .getUser id | .listMatchesForUser id => id = user
  | _ => True

namespace Operation

/-- An operation on behalf of somebody, or of nobody in particular. -/
def IsOf (caller : Identity) : Operation → Prop
  | .requestToJoin other _ | .acceptRideRequest other _ | .acceptRequest other _
  | .rejectRequest other _ | .completeMatch other _ | .listMine other | .createOffer other _
  | .createRequest other _ | .me other | .touch other | .touchAt other _ => other = caller
  | .getMatch _ | .listByRide _ | .listByRider _ | .getOffer _ | .getRequest _ => True
  | .login _ => False

/-- The users whom an operation of a user changes. -/
def MayTouch (user : Uuid) : Operation → UserRow → Prop
  | .touch _, row | .touchAt _ _, row => row.userId = some user.text
  | _, _ => False

/-- The offers that an operation of a user makes. -/
def MayOffer (user : Uuid) : Operation → OfferRow → Prop
  | .createOffer _ _, row | .acceptRideRequest _ _, row => row.driverId = some user.text
  | _, _ => False

/-- The requests that an operation of a user makes, or has taken. -/
def MayRequest (user : Uuid) : Operation → RequestRow → Prop
  | .createRequest _ _, row => row.userId = user.text
  | .acceptRideRequest _ request, row =>
      row.requestId = some request.text ∧ row.status = RequestStatus.matched.name
  | _, _ => False

/-- The matches that an operation of a user makes or changes. -/
def MayPair (policy : CompletionPolicy) (user : Uuid) : Operation → MatchRow → Prop
  | .requestToJoin _ _, row => row.riderId = user.text
  | .acceptRideRequest _ _, row | .acceptRequest _ _, row | .rejectRequest _ _, row =>
      row.driverId = user.text
  | .completeMatch _ _, row =>
      policy = .participants → row.riderId = user.text ∨ row.driverId = user.text
  | _, _ => False

end Operation

/-- What a job of an operation does, it does in the name of a user: each row that
was not there before is one of theirs. -/
structure ActsFor (policy : CompletionPolicy) (user : Uuid) (operation : Operation) (job : Job)
    (before after : Database) : Prop where
  account : job.KeepsToAccount user
  users : ∀ row ∈ after.userRows, row ∈ before.userRows ∨ operation.MayTouch user row
  offers : ∀ row ∈ after.offerRows, row ∈ before.offerRows ∨ operation.MayOffer user row
  requests : ∀ row ∈ after.requestRows, row ∈ before.requestRows ∨ operation.MayRequest user row
  pairings : ∀ row ∈ after.matchRows, row ∈ before.matchRows ∨ operation.MayPair policy user row

/-! ## Accounts -/

section Accounts

variable {user : Uuid}

theorem advance_account (id : Uuid) (current : Match) (next : MatchStatus) :
    (Matching.advance id current next : Call (Except Failure Match)).Asks
      (Job.KeepsToAccount user) := by
  apply Call.Asks.of_shape (Matching.advance_shape id current next)
  refine .go trivial fun swap => ?_
  cases swap with
  | applied => trivial
  | stale => exact .go trivial (.whenFound fun now => trivial)

theorem resolve_account (caller : Identity) (id : Uuid) (next : MatchStatus) :
    (Matching.resolve caller id next : Call (Except Failure Match)).Asks
      (Job.KeepsToAccount user) := by
  apply Call.Asks.of_shape (Matching.resolve_shape caller id next)
  refine .go trivial (.whenFound fun current => ?_)
  exact .ite trivial (.ite trivial (advance_account id current next))

theorem completeMatch_account (policy : CompletionPolicy) (caller : Identity) (id : Uuid) :
    (Matching.completeMatch policy caller id : Call (Except Failure Match)).Asks
      (Job.KeepsToAccount user) := by
  cases policy with
  | unrestricted =>
      apply Call.Asks.of_shape (Matching.completeMatch_unrestricted_shape caller id)
      exact .go trivial (.whenFound fun record => trivial)
  | participants =>
      apply Call.Asks.of_shape (Matching.completeMatch_participants_shape caller id)
      refine .go trivial (.whenFound fun current => ?_)
      exact .ite trivial (.ite trivial (advance_account id current .completed))

theorem touchAt_account (caller : Identity) (now : Instant) :
    (Presence.touchAt caller now : Call (Except Failure User)).Asks
      (Job.KeepsToAccount caller.subject) := by
  apply Call.Asks.of_shape (Presence.touchAt_shape caller now)
  refine .go rfl (.whenFound fun user => .go trivial fun swap => ?_)
  cases swap <;> trivial

end Accounts

theorem Operation.IsOf.account {caller : Identity} {operation : Operation}
    (isOf : operation.IsOf caller) (setup : Setup) :
    (operation.call setup).Asks (Job.KeepsToAccount caller.subject) := by
  cases operation with
  | requestToJoin other ride =>
      apply Call.Asks.of_shape (Matching.requestToJoin_shape other ride)
      refine .go trivial (.whenFound fun offer => ?_)
      cases offer.driverId with
      | none => trivial
      | some driver => exact .ite trivial (.close trivial)
  | acceptRideRequest other request =>
      apply Call.Asks.of_shape (Matching.acceptRideRequest_shape other request)
      refine .go trivial (.whenFound fun request => ?_)
      refine .ite trivial (.ite trivial (.go trivial fun accepted => ?_))
      cases accepted <;> trivial
  | acceptRequest other pairing => exact resolve_account other pairing _
  | rejectRequest other pairing => exact resolve_account other pairing _
  | completeMatch other pairing => exact completeMatch_account setup.policy other pairing
  | getMatch pairing =>
      exact .of_shape (Matching.getMatch_shape pairing) (.go trivial (.whenFound fun _ => trivial))
  | listByRide ride => exact .of_shape (Matching.listByRide_shape ride) (.close trivial)
  | listByRider rider => exact .of_shape (Matching.listByRider_shape rider) (.close trivial)
  | listMine other =>
      obtain rfl : other = caller := isOf
      exact .of_shape (Matching.listMine_shape other) (.close rfl)
  | createOffer other draft =>
      obtain rfl : other = caller := isOf
      apply Call.Asks.of_shape (Publishing.createOffer_shape other draft)
      exact .publication rfl fun input => .close trivial
  | createRequest other draft =>
      obtain rfl : other = caller := isOf
      apply Call.Asks.of_shape (Publishing.createRequest_shape other draft)
      exact .publication rfl fun input => .close trivial
  | getOffer offer =>
      exact .of_shape (Publishing.getOffer_shape offer) (.go trivial (.whenFound fun _ => trivial))
  | getRequest request =>
      exact .of_shape (Publishing.getRequest_shape request)
        (.go trivial (.whenFound fun _ => trivial))
  | me other =>
      obtain rfl : other = caller := isOf
      exact .of_shape (Presence.me_shape other) (.go rfl (.whenFound fun _ => trivial))
  | touch other =>
      obtain rfl : other = caller := isOf
      exact fun now => touchAt_account other now
  | touchAt other now =>
      obtain rfl : other = caller := isOf
      exact touchAt_account other now
  | login idToken => exact isOf.elim

/-! ## Rows -/

section Rows

variable {policy : CompletionPolicy} {operation : Operation} {caller : Identity}
  {before after : Database}

theorem Abides.mem (abides : Abides policy operation before after) (formed : after.WellFormed)
    {row : MatchRow} (stored : row ∈ after.matchRows) :
    row ∈ before.matchRows ∨ Birth operation row ∨
      ∃ old status, Change policy operation old status ∧
        row = { old with status := status.name } := by
  obtain ⟨record, rfl⟩ := formed.matchEncoded row stored
  have found : after.findMatch? record.matchId.text = some (.ofMatch record) :=
    Database.find?_of_mem formed.matchDistinct stored rfl
  cases old : before.findMatch? record.matchId.text with
  | none => exact .inr (.inl (abides.births old found))
  | some row =>
      rcases abides.changes old with same | ⟨status, change, changed⟩
      · rw [found] at same
        obtain rfl := Option.some.inj same
        exact .inl (Database.mem_of_find? old).1
      · rw [found] at changed
        exact .inr (.inr ⟨row, status, change, Option.some.inj changed⟩)

theorem Birth.mayPair {row : MatchRow} (birth : Birth operation row)
    (isOf : operation.IsOf caller) : operation.MayPair policy caller.subject row := by
  cases birth with
  | requested status rider =>
      obtain rfl : _ = caller := isOf
      exact rider
  | accepted status driver =>
      obtain rfl : _ = caller := isOf
      exact driver

theorem Change.mayPair {row : MatchRow} {status : MatchStatus}
    (change : Change policy operation row status) (isOf : operation.IsOf caller) :
    operation.MayPair policy caller.subject { row with status := status.name } := by
  cases change with
  | accept names status driver =>
      obtain rfl : _ = caller := isOf
      exact driver
  | reject names status driver =>
      obtain rfl : _ = caller := isOf
      exact driver
  | complete restricted names status takesPart =>
      obtain rfl : _ = caller := isOf
      exact fun _ => takesPart
  | override anyone names =>
      intro restricted
      rw [anyone] at restricted
      cases restricted

section Effects

variable {fresh : Fresh} {job : Job} {answer : Option (Except StoreError job.Result)}
  (effect : Effect fresh before job answer after) (entitled : Entitled policy operation before job)
  (isOf : operation.IsOf caller)

include effect entitled isOf

theorem mayTouch_of_effect {row : UserRow} (stored : row ∈ after.userRows) :
    row ∈ before.userRows ∨ operation.MayTouch caller.subject row := by
  have frame := effect.frame
  cases effect with
  | userCreated input after inserted =>
      cases entitled with
      | lookUp lookup => exact lookup.elim
      | signUp => exact isOf.elim
  | seenSwapped id expected new =>
      obtain ⟨old, member, rfl⟩ := Database.mem_changeWhere.mp stored
      split
      · rename_i chosen
        simp only [Bool.and_eq_true, beq_iff_eq] at chosen
        cases entitled with
        | lookUp lookup => exact lookup.elim
        | touch =>
            obtain rfl : _ = caller := isOf
            exact .inr chosen.1
        | touchAt =>
            obtain rfl : _ = caller := isOf
            exact .inr chosen.1
      · exact .inl member
  | read | abandoned | refused | declined => exact .inl stored
  | _ => exact .inl (frame.users id ▸ stored)

theorem mayOffer_of_effect {row : OfferRow} (stored : row ∈ after.offerRows) :
    row ∈ before.offerRows ∨ operation.MayOffer caller.subject row := by
  -- the driver of a row that is made of an offer
  have driver {offer : RideOffer} {row : OfferRow} (encoded : OfferRow.ofOffer offer = .ok row) :
      row.driverId = offer.driverId.map Uuid.text := by
    obtain ⟨-, rfl⟩ := OfferRow.ofOffer_eq_ok.mp encoded
    rfl
  have frame := effect.frame
  cases effect with
  | offerCreated input new after encoded inserted =>
      obtain ⟨-, -, rfl⟩ := Database.insertOffer_eq_ok.mp inserted
      rcases List.mem_append.mp stored with old | made
      · exact .inl old
      · obtain rfl := List.mem_singleton.mp made
        cases entitled with
        | lookUp lookup => exact lookup.elim
        | offer published =>
            obtain rfl : _ = caller := isOf
            right
            change row.driverId = _
            rw [driver encoded, ← (OfferDraft.of_publish published).1]
            rfl
  | accepted acceptance after committed =>
      obtain ⟨new, offered, paired, encoded, offering, pairing, -, rfl⟩ :=
        Database.accept_eq_ok committed
      obtain ⟨-, -, rfl⟩ := Database.insertOffer_eq_ok.mp offering
      obtain ⟨-, -, -, rfl⟩ := Database.insertMatch_eq_ok.mp pairing
      rcases List.mem_append.mp stored with old | made
      · exact .inl old
      · obtain rfl := List.mem_singleton.mp made
        cases entitled with
        | lookUp lookup => exact lookup.elim
        | take found other =>
            obtain rfl : _ = caller := isOf
            exact .inr (driver encoded)
  | read | abandoned | refused | declined => exact .inl stored
  | _ => exact .inl (frame.offers id ▸ stored)

theorem mayRequest_of_effect {row : RequestRow} (stored : row ∈ after.requestRows) :
    row ∈ before.requestRows ∨ operation.MayRequest caller.subject row := by
  have frame := effect.frame
  cases effect with
  | requestCreated input after inserted =>
      obtain ⟨-, -, rfl⟩ := Database.insertRequest_eq_ok.mp inserted
      rcases List.mem_append.mp stored with old | made
      · exact .inl old
      · obtain rfl := List.mem_singleton.mp made
        cases entitled with
        | lookUp lookup => exact lookup.elim
        | request published =>
            obtain rfl : _ = caller := isOf
            exact .inr (congrArg Uuid.text (RequestDraft.of_publish published))
  | requestSwapped id expected new =>
      cases entitled with
      | lookUp lookup => exact lookup.elim
  | accepted acceptance after committed =>
      obtain ⟨new, offered, paired, -, offering, pairing, -, rfl⟩ := Database.accept_eq_ok committed
      obtain ⟨-, -, rfl⟩ := Database.insertOffer_eq_ok.mp offering
      obtain ⟨-, -, -, rfl⟩ := Database.insertMatch_eq_ok.mp pairing
      obtain ⟨old, member, rfl⟩ := Database.mem_changeWhere.mp stored
      split
      · rename_i chosen
        simp only [Bool.and_eq_true, beq_iff_eq] at chosen
        cases entitled with
        | lookUp lookup => exact lookup.elim
        | take found other => exact .inr ⟨chosen.1, rfl⟩
      · exact .inl member
  | read | abandoned | refused | declined => exact .inl stored
  | _ => exact .inl (frame.requests id ▸ stored)

theorem mayPair_of_effect (formed : before.WellFormed) {row : MatchRow}
    (stored : row ∈ after.matchRows) :
    row ∈ before.matchRows ∨ operation.MayPair policy caller.subject row := by
  have formedAfter : after.WellFormed := (effect.grows entitled.permitted formed).formed
  rcases (Abides.of_effect effect entitled).mem formedAfter stored with
    old | birth | ⟨old, status, change, rfl⟩
  · exact .inl old
  · exact .inr (birth.mayPair isOf)
  · exact .inr (change.mayPair isOf)

/-- Whatever an entitled job of an operation does, it does in the name of the
caller. -/
theorem ActsFor.of_effect (account : job.KeepsToAccount caller.subject)
    (formed : before.WellFormed) : ActsFor policy caller.subject operation job before after where
  account := account
  users _ stored := mayTouch_of_effect effect entitled isOf stored
  offers _ stored := mayOffer_of_effect effect entitled isOf stored
  requests _ stored := mayRequest_of_effect effect entitled isOf stored
  pairings _ stored := mayPair_of_effect effect entitled isOf formed stored

end Effects

end Rows

end Carpool
