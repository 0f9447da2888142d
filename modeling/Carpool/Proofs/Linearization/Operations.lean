import Carpool.Proofs.Linearization.Call

/-!
# The operations on rides take effect at once

A lookup takes effect when it is answered.  A call that writes takes effect when
its write is carried out, or when it reads what keeps it from writing: when a
guarded change came too late, that is the second reading.  Who accepts a request
without an account fails from the first reading on.
-/

namespace Carpool

open Store

/-- The operations that publish and match rides, and look them up. -/
def Operation.OnRides : Operation → Prop
  | .me _ | .touch _ | .touchAt _ _ | .login _ => False
  | _ => True

variable {policy : CompletionPolicy} {α ε : Type}

open Call

/-! ## Lookups -/

theorem Attempt.close_atomic {wrap : StoreError → ε} {job : Job} :
    (Attempt.close wrap job).Atomic policy :=
  .of_last fun answer => ⟨answer.mapError wrap, rfl⟩

/-- A call that makes something of the record that it finds. -/
theorem Attempt.go_found_atomic {wrap : StoreError → Failure} {job : Job} {β : Type}
    {next : job.Result → Call (Except Failure β)}
    (ends : ∀ found, ∃ result, next found = .done result) :
    (Attempt.go wrap job next).Atomic policy := by
  refine .of_last fun answer => ?_
  cases answer with
  | error error => exact ⟨_, rfl⟩
  | ok found => exact ends found

/-! ## Joining an offer -/

theorem requestToJoin_atomic (caller : Identity) (ride : Uuid) :
    Atomic policy (Matching.requestToJoin caller ride : Call (Except Failure Match)) := by
  rw [Matching.requestToJoin_shape]
  refine .of_look (fun _ => rfl) ?_
  intro alone future now found patient formed looked same
  cases found with
  | none => exact .inr ⟨_, same now none looked, rfl⟩
  | some offer =>
      have follows : Follows policy alone future now _ := fun later evolved =>
        same later (some offer) (evolved.getOffer looked)
      revert follows
      simp only [Matching.whenFound]
      cases offer.driverId with
      | none => exact .done formed
      | some driver =>
          intro follows
          exact .ite follows (fun own => .done formed) fun other => .close (.createMatch _)

/-! ## Deciding on a match -/

/-- A guarded change of a match that has been read.  Once its status has moved
on, it never comes back, so that the second reading tells as much as a first. -/
theorem advance_goesOn {id : Uuid} {current : Match} {next : MatchStatus}
    {alone : Database → Option (Except Failure Match × Database)} {future : List Given}
    {now : Database} (formed : now.WellFormed)
    (read : (now.findMatch? id.text).mapM MatchRow.decode = .ok (some current))
    (leaves : ∀ {status later}, MatchStatus.Leads policy current.status status →
      status ≠ current.status → MatchStatus.Leads policy status later → later ≠ current.status)
    (applies : ∀ later, (later.findMatch? id.text).mapM MatchRow.decode = .ok (some current) →
      alone later = (Matching.advance id current next).alone future later)
    (fails : ∀ later status, status ≠ current.status →
      (later.findMatch? id.text).mapM MatchRow.decode = .ok (some { current with status }) →
      alone later = some (.error (.invalidState id current.status status), later)) :
    (Matching.advance id current next).GoesOn policy alone future now := by
  rw [Matching.advance_shape] at applies ⊢
  refine .inl ?_
  cases future with
  | nil => trivial
  | cons given future =>
      intro later answer after evolved unused ran
      obtain ⟨status, leads, readLater⟩ := evolved.getMatch formed read
      by_cases same : status = current.status
      · subst same
        have answered := evolved.grown.formed.swap_applied readLater ran
        subst answered
        exact .inr ⟨_, (applies later readLater).trans (alone_store ran), rfl⟩
      · obtain ⟨answered, rfl⟩ := evolved.grown.formed.swap_stale readLater same ran
        subst answered
        refine .inl ⟨rfl, ?_⟩
        -- the second reading
        cases future with
        | nil => trivial
        | cons given future =>
            intro last answer end_ evolvedOn unusedOn ranOn
            obtain ⟨answered, rfl⟩ := Job.of_read (rfl : (Job.getMatch id).plan _ = .read _) ranOn
            obtain ⟨final, leadsOn, readLast⟩ := evolvedOn.getMatch evolved.grown.formed readLater
            have gone := leaves leads same leadsOn
            rw [answered, readLast]
            exact .inr ⟨_, fails _ final gone readLast, rfl⟩

theorem resolve_atomic (caller : Identity) (id : Uuid) (next : MatchStatus) :
    Atomic policy (Matching.resolve caller id next : Call (Except Failure Match)) := by
  rw [Matching.resolve_shape]
  refine .of_look (fun _ => rfl) ?_
  intro alone future now found patient formed looked same
  cases found with
  | none => exact .inr ⟨_, same now none looked, rfl⟩
  | some current =>
      have atOnce := same now (some current) looked
      simp only [Matching.whenFound] at atOnce ⊢
      by_cases other : current.driverId ≠ caller.subject
      · rw [if_pos other] at atOnce ⊢
        exact .inr ⟨_, atOnce, rfl⟩
      · rw [if_neg other] at atOnce ⊢
        by_cases decided : (!current.status.canResolveTo next) = true
        · rw [if_pos decided] at atOnce ⊢
          exact .inr ⟨_, atOnce, rfl⟩
        · rw [if_neg decided]
          have requested : current.status = .requested :=
            MatchStatus.requested_of_canResolveTo (by simpa using decided)
          apply advance_goesOn formed looked
          · intro status later leads moved leadsOn back
            rw [requested] at moved back
            subst back
            exact moved leadsOn.to_requested
          · intro later read
            refine (same later (some current) read).trans ?_
            simp only [Matching.whenFound, if_neg other, if_neg decided]
          · intro later status moved read
            refine (same later (some { current with status }) read).trans ?_
            have closed : (!status.canResolveTo next) = true := by
              rw [requested] at moved
              rw [Bool.not_eq_true', Bool.eq_false_iff]
              exact fun resolvable => moved (MatchStatus.requested_of_canResolveTo resolvable)
            simp only [Matching.whenFound, if_neg other, if_pos closed, requested]
            rfl

theorem completeMatch_atomic (caller : Identity) (id : Uuid) :
    Atomic policy (Matching.completeMatch policy caller id : Call (Except Failure Match)) := by
  cases policy with
  | unrestricted =>
      rw [Matching.completeMatch_unrestricted_shape]
      exact Attempt.go_found_atomic (Matching.whenFound_ends .pairing id)
  | participants =>
      rw [Matching.completeMatch_participants_shape]
      refine .of_look (fun _ => rfl) ?_
      intro alone future now found patient formed looked same
      cases found with
      | none => exact .inr ⟨_, same now none looked, rfl⟩
      | some current =>
          have atOnce := same now (some current) looked
          simp only [Matching.whenFound] at atOnce ⊢
          by_cases stranger : (!current.involves caller.subject) = true
          · rw [if_pos stranger] at atOnce ⊢
            exact .inr ⟨_, atOnce, rfl⟩
          · rw [if_neg stranger] at atOnce ⊢
            by_cases unaccepted : current.status ≠ .accepted
            · rw [if_pos unaccepted] at atOnce ⊢
              exact .inr ⟨_, atOnce, rfl⟩
            · rw [if_neg unaccepted]
              have accepted : current.status = .accepted := not_not.mp unaccepted
              apply advance_goesOn formed looked
              · intro status later leads moved leadsOn back
                rw [accepted] at leads moved back
                obtain rfl := leads.of_accepted.resolve_left moved
                rw [leadsOn.of_completed] at back
                contradiction
              · intro later read
                refine (same later (some current) read).trans ?_
                simp only [Matching.whenFound, if_neg stranger, if_neg unaccepted]
              · intro later status moved read
                refine (same later (some { current with status }) read).trans ?_
                rw [accepted] at moved ⊢
                have involved : ({ current with status } : Match).involves caller.subject =
                  current.involves caller.subject := rfl
                simp only [Matching.whenFound, involved, if_neg stranger, if_pos moved]
                rfl

/-! ## Accepting a request -/

section Claims

variable {id : Uuid} {acceptance : Acceptance} {given : Given} {future : List Given}
  {alone : Database → Option (Except Failure Accepted × Database)} {now after : Database}

theorem claim_ran_of_stranger (stays : given.patience = none)
    (unused : now.Unused given.fresh.first)
    (stranger : now.findUser? acceptance.driverId.text = none) :
    (Job.acceptRideRequest acceptance).runWhile given.fresh given.patience now =
      (some (.error (.violation .foreignKey)), now) := by
  rw [stays]
  refine (Job.runWhile_accept acceptance).trans ?_
  rw [Database.accept_of_stranger unused stranger]

/-- Without an account, an acceptance fails as soon as the request is read. -/
theorem claim_goesOn_of_stranger (formed : now.WellFormed)
    (patient : ∀ given ∈ future, given.patience = none)
    (stranger : now.findUser? acceptance.driverId.text = none)
    (same : alone now = (Matching.claim id acceptance).alone future now) :
    (Matching.claim id acceptance).GoesOn policy alone future now := by
  cases future with
  | nil => exact .inl trivial
  | cons given future =>
      have stays := patient given (List.mem_cons_self ..)
      by_cases unused : now.Unused given.fresh.first
      · refine .inr ⟨.error (.store (.violation .foreignKey)), ?_, ?_⟩
        · exact same.trans (Attempt.go_alone_error (claim_ran_of_stranger stays unused stranger))
        · intro later answer after evolved unusedLater ran
          have strangerLater := (evolved.findUser? _).trans stranger
          have refused := claim_ran_of_stranger stays
            (unusedLater given.fresh.first (List.mem_cons_self ..)) strangerLater
          obtain ⟨answered, rfl⟩ := Prod.mk.inj (ran.symm.trans refused)
          obtain rfl := Option.some.inj answered
          exact ⟨rfl, rfl⟩
      · refine .inl ?_
        intro later answer after evolved unusedLater ran
        have unusedBefore := evolved.unused formed
          (unusedLater given.fresh.first (List.mem_cons_self ..))
        exact absurd unusedBefore unused

/-- With an account, it takes effect when it is carried out. -/
theorem claim_goesOn_of_user (patient : ∀ given ∈ future, given.patience = none)
    (known : (now.findUser? acceptance.driverId.text).isSome)
    (other : acceptance.riderId ≠ acceptance.driverId)
    (applies : ∀ later, now.Evolves policy later → later.Awaits acceptance.requestId →
      alone later = (Matching.claim id acceptance).alone future later)
    (fails : ∀ later, now.Evolves policy later → ¬later.Awaits acceptance.requestId →
      alone later = some (.error (.notActive id), later)) :
    (Matching.claim id acceptance).GoesOn policy alone future now := by
  refine .inl ?_
  cases future with
  | nil => trivial
  | cons given future =>
      intro later answer after evolved unused ran
      have knownLater : (later.findUser? acceptance.driverId.text).isSome := by
        rw [evolved.findUser?]
        exact known
      obtain ⟨outcome, accepted, awaited⟩ :=
        Database.accept_of_user acceptance.requestId unused knownLater other
      have stays := patient given (List.mem_cons_self ..)
      rw [stays] at ran
      have carriedOut := (Job.runWhile_accept acceptance).symm.trans ran
      rw [accepted] at carriedOut
      cases outcome with
      | none =>
          obtain ⟨answered, rfl⟩ := Prod.mk.inj carriedOut
          obtain rfl := Option.some.inj answered
          have gone : ¬later.Awaits acceptance.requestId := by simpa using awaited
          exact .inr ⟨_, fails later evolved gone, rfl⟩
      | some changed =>
          obtain ⟨answered, rfl⟩ := Prod.mk.inj carriedOut
          obtain rfl := Option.some.inj answered
          have ranAlone := (applies later evolved (awaited.mp rfl)).trans
            (Attempt.go_alone_ok (stays ▸ ran))
          exact .inr ⟨_, ranAlone, rfl⟩

end Claims

theorem acceptRideRequest_atomic (caller : Identity) (id : Uuid) :
    Atomic policy (Matching.acceptRideRequest caller id : Call (Except Failure Accepted)) := by
  rw [Matching.acceptRideRequest_shape]
  refine .of_look (fun _ => rfl) ?_
  intro alone future now found patient formed looked same
  cases found with
  | none => exact .inr ⟨_, same now none looked, rfl⟩
  | some request =>
      have atOnce := same now (some request) looked
      simp only [Matching.whenFound] at atOnce ⊢
      by_cases inactive : request.status ≠ .active
      · rw [if_pos inactive] at atOnce ⊢
        exact .inr ⟨_, atOnce, rfl⟩
      · rw [if_neg inactive] at atOnce ⊢
        by_cases own : request.userId = caller.subject
        · rw [if_pos own] at atOnce ⊢
          exact .inr ⟨_, atOnce, rfl⟩
        · rw [if_neg own] at atOnce ⊢
          cases account : now.findUser? caller.subject.text with
          | none => exact claim_goesOn_of_stranger formed patient account atOnce
          | some user =>
              have known := Option.isSome_of_mem account
              obtain ⟨identified, -⟩ := formed.of_getRequest looked
              refine claim_goesOn_of_user patient known own ?_ ?_
              · intro later evolved awaits
                obtain ⟨status, -, readLater⟩ := evolved.getRequest formed looked
                have active := (evolved.grown.formed.awaits_iff readLater).mp (identified ▸ awaits)
                refine (same later _ readLater).trans ?_
                simp only [Matching.whenFound, if_neg (not_not.mpr active), if_neg own]
                rfl
              · intro later evolved gone
                obtain ⟨status, -, readLater⟩ := evolved.getRequest formed looked
                have inactive := mt (evolved.grown.formed.awaits_iff readLater).mpr
                  (identified ▸ gone)
                refine (same later _ readLater).trans ?_
                simp only [Matching.whenFound, if_pos inactive]
                rfl

/-! ## Publishing -/

/-- A publication takes effect with the write, also when the account was looked
up long before. -/
theorem publication_atomic {α β : Type} {caller : Identity} {check : Instant → Except Flaw α}
    {stranger : Flaw} {write : α → Call (Except Failure β)}
    (writes : ∀ input {alone future now}, (write input).Follows policy alone future now →
      (write input).GoesOn policy alone future now) :
    (Publishing.publication caller check stranger write).Atomic policy := by
  refine .of_clock fun now => ?_
  cases check now with
  | error flaw => exact .inl ⟨_, rfl⟩
  | ok input =>
      refine .inr (.of_look (fun _ => rfl) ?_)
      intro alone future now found patient formed looked same
      cases found with
      | none => exact .inr ⟨_, same now none looked, rfl⟩
      | some user =>
          refine writes input fun later evolved => same later (some user) ?_
          rw [evolved.findUser?]
          exact looked

theorem createOffer_atomic (caller : Identity) (draft : OfferDraft) :
    Atomic policy (Publishing.createOffer caller draft : Call (Except Failure RideOffer)) := by
  rw [Publishing.createOffer_shape]
  exact publication_atomic fun input {_ _ _} follows => .close (.createOffer input) follows

theorem createRequest_atomic (caller : Identity) (draft : RequestDraft) :
    Atomic policy (Publishing.createRequest caller draft : Call (Except Failure RideRequest)) := by
  rw [Publishing.createRequest_shape]
  exact publication_atomic fun input {_ _ _} follows => .close (.createRequest input) follows

/-! ## All operations -/

theorem operation_atomic (setup : Setup) {operation : Operation} (onRides : operation.OnRides) :
    (operation.call setup).Atomic setup.policy := by
  cases operation with
  | requestToJoin caller ride => exact requestToJoin_atomic caller ride
  | acceptRideRequest caller request => exact acceptRideRequest_atomic caller request
  | acceptRequest caller pairing => exact resolve_atomic caller pairing .accepted
  | rejectRequest caller pairing => exact resolve_atomic caller pairing .rejected
  | completeMatch caller pairing => exact completeMatch_atomic caller pairing
  | getMatch pairing =>
      exact .of_shape (Matching.getMatch_shape pairing)
        (Attempt.go_found_atomic (Matching.whenFound_ends .pairing pairing))
  | listByRide ride => exact .of_shape (Matching.listByRide_shape ride) Attempt.close_atomic
  | listByRider rider => exact .of_shape (Matching.listByRider_shape rider) Attempt.close_atomic
  | listMine caller => exact .of_shape (Matching.listMine_shape caller) Attempt.close_atomic
  | createOffer caller draft => exact createOffer_atomic caller draft
  | createRequest caller draft => exact createRequest_atomic caller draft
  | getOffer offer =>
      exact .of_shape (Publishing.getOffer_shape offer)
        (Attempt.go_found_atomic (Matching.whenFound_ends .rideOffer offer))
  | getRequest request =>
      exact .of_shape (Publishing.getRequest_shape request)
        (Attempt.go_found_atomic (Matching.whenFound_ends .rideRequest request))
  | me caller => exact onRides.elim
  | touch caller => exact onRides.elim
  | touchAt caller now => exact onRides.elim
  | login idToken => exact onRides.elim

end Carpool
