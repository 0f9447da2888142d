import Carpool.Store.Job

/-!
# What a store job does

A job reads, is abandoned, breaks a constraint and changes nothing, or has one
of a few effects.  `Job.runWhile_effect` lists them all; what is proved of the
effects holds of every job, however long its caller stays.
-/

namespace Carpool

namespace Store

/-- The contents once an acceptance is committed; none if the request was not
active, so that the acceptance is undone. -/
def Database.accept (database : Database) (request : Uuid) (accepted : Accepted) :
    Except Violation (Option Database) := do
  let row ← OfferRow.ofOffer accepted.offer
  let offered ← database.insertOffer row
  let paired ← offered.insertMatch (.ofMatch accepted.record)
  let (after, changed) :=
    paired.swapRequestStatus request.text RequestStatus.active.name RequestStatus.matched.name
  return if changed = 0 then none else some after

/-- What a job can answer and leave behind. -/
inductive Effect (fresh : Fresh) (before : Database) :
    (job : Job) → Option (Except StoreError job.Result) → Database → Prop
  | read {job : Job} (look : Database → Except StoreError job.Result)
      (planned : job.plan fresh = .read look) : Effect fresh before job (some (look before)) before
  | abandoned {job : Job} : Effect fresh before job none before
  | refused {job : Job} (violation : Violation) :
      Effect fresh before job (some (.error (.violation violation))) before
  | userCreated (input : NewUser) (after : Database)
      (inserted : before.insertUser (.ofUser (fresh.user input)) = .ok after) :
      Effect fresh before (.createUser input) (some (.ok (fresh.user input))) after
  | offerCreated (input : NewOffer) (row : OfferRow) (after : Database)
      (encoded : OfferRow.ofOffer (fresh.offer input) = .ok row)
      (inserted : before.insertOffer row = .ok after) :
      Effect fresh before (.createOffer input) (some (.ok (fresh.offer input))) after
  | requestCreated (input : NewRequest) (after : Database)
      (inserted : before.insertRequest (.ofRequest (fresh.request input)) = .ok after) :
      Effect fresh before (.createRequest input) (some (.ok (fresh.request input))) after
  | matchCreated (input : NewMatch) (after : Database)
      (inserted : before.insertMatch (.ofMatch (fresh.newMatch input)) = .ok after) :
      Effect fresh before (.createMatch input) (some (.ok (fresh.newMatch input))) after
  | seenSwapped (id : Uuid) (expected new : Instant) :
      Effect fresh before (.swapLastSeen id expected new)
        (some (.ok (.ofChanged (before.swapLastSeen id.text expected.second new.second).2)))
        (before.swapLastSeen id.text expected.second new.second).1
  | requestSwapped (id : Uuid) (expected new : RequestStatus) :
      Effect fresh before (.swapRequestStatus id expected new)
        (some (.ok (.ofChanged (before.swapRequestStatus id.text expected.name new.name).2)))
        (before.swapRequestStatus id.text expected.name new.name).1
  | matchSwapped (id : Uuid) (expected new : MatchStatus) :
      Effect fresh before (.swapMatchStatus id expected new)
        (some (.ok (.ofChanged (before.swapMatchStatus id.text expected.name new.name).2)))
        (before.swapMatchStatus id.text expected.name new.name).1
  | matchForced (id : Uuid) (new : MatchStatus) :
      Effect fresh before (.forceMatchStatus id new)
        (some (((before.setMatchStatus id.text new.name).1.findMatch? id.text).mapM
          MatchRow.decode))
        (before.setMatchStatus id.text new.name).1
  | declined (acceptance : Acceptance) :
      Effect fresh before (.acceptRideRequest acceptance) (some (.ok none)) before
  | accepted (acceptance : Acceptance) (after : Database)
      (committed :
        before.accept acceptance.requestId (fresh.accepted acceptance) = .ok (some after)) :
      Effect fresh before (.acceptRideRequest acceptance)
        (some (.ok (some (fresh.accepted acceptance)))) after

/-! ## Carrying out a job -/

variable {fresh : Fresh} {patience : Patience} {before after : Database}

theorem Write.runOn_single {α : Type} (statement : Statement)
    (result : Report → Except StoreError α) (patience : Patience) (database : Database) :
    (Write.single statement result).runOn patience database =
      if patience = some 0 then (.abandoned, database)
      else
        match statement.run database with
        | .error violation => (.violated violation, database)
        | .ok (after, report) => (.done (result report), after) := by
  rw [Write.single, Write.runOn, Write.run]
  split
  · rfl
  · rw [Write.run]
    change (match statement.run database with
      | .error violation => _
      | .ok (after, report) => _) = _
    cases statement.run database <;> rfl

theorem Job.runWhile_single {job : Job} {statement : Statement}
    {result : Report → Except StoreError job.Result}
    (planned : job.plan fresh = .write (.single statement result)) :
    job.runWhile fresh patience before =
      if patience = some 0 then (none, before)
      else
        match statement.run before with
        | .error violation => (some (.error (.violation violation)), before)
        | .ok (after, report) => (some (result report), after) := by
  rw [Job.runWhile, planned]
  dsimp only
  rw [Write.runOn_single]
  split
  · rfl
  · cases statement.run before <;> rfl

theorem Patience.afterStep_five (patience : Patience) :
    patience.afterStep.afterStep.afterStep.afterStep.afterStep = some 0 ↔
      patience.any (· ≤ 5) = true := by
  cases patience with
  | none => simp [Patience.afterStep]
  | some steps =>
      simp only [Patience.afterStep, Option.map_some, Option.some.injEq, Option.any_some,
        decide_eq_true_eq]
      omega

/-- The transaction of an acceptance: its caller is looked for before the first
statement, and once more when five steps are behind it. -/
theorem acceptSteps_runOn (request : Uuid) (accepted : Accepted) (patience : Patience)
    (database : Database) :
    (acceptSteps request accepted).runOn patience database =
      if patience = some 0 then (.abandoned, database)
      else
        match database.accept request accepted with
        | .error violation => (.violated violation, database)
        | .ok none => (.done (.ok none), database)
        | .ok (some after) =>
            if patience.any (· ≤ 5) then (.abandoned, database)
            else (.done (.ok (some accepted)), after) := by
  rw [acceptSteps, Write.runOn, Write.run]
  split
  · rfl
  · rw [Write.run, Write.run]
    simp only [Database.accept, Statement.run, Connection.start, Connection.current,
      Option.getD_none, Option.getD_some]
    cases OfferRow.ofOffer accepted.offer with
    | error violation => rfl
    | ok row =>
        simp only [bind, Except.bind]
        cases database.insertOffer row with
        | error violation => rfl
        | ok offered =>
            simp only [pure, Except.pure, Statement.inserted, Connection.put]
            rw [Write.run]
            simp only [Statement.run, Connection.current, Option.getD_some]
            cases offered.insertMatch (.ofMatch accepted.record) with
            | error violation => rfl
            | ok paired =>
                simp only [Except.map, Statement.inserted, Connection.put]
                rw [Write.run]
                simp only [Statement.run, Connection.current, Option.getD_some,
                  Statement.changed, Connection.put, Swap.ofChanged]
                generalize paired.swapRequestStatus request.text RequestStatus.active.name
                  RequestStatus.matched.name = swapped
                by_cases none_changed : swapped.2 = 0
                · simp only [if_pos none_changed]
                  rfl
                · simp only [if_neg none_changed]
                  rw [Write.run]
                  simp only [Patience.afterStep_five, Option.any_eq_true, decide_eq_true_eq]
                  split
                  · rfl
                  · rfl

theorem Job.runWhile_accept (acceptance : Acceptance) :
    (Job.acceptRideRequest acceptance).runWhile fresh none before =
      match before.accept acceptance.requestId (fresh.accepted acceptance) with
      | .error violation => (some (.error (.violation violation)), before)
      | .ok none => (some (.ok none), before)
      | .ok (some after) => (some (.ok (some (fresh.accepted acceptance))), after) := by
  refine (congrArg (fun ran => (Ending.answer? ran.1, ran.2))
    (acceptSteps_runOn acceptance.requestId (fresh.accepted acceptance) none before)).trans ?_
  rw [if_neg (by simp)]
  rcases before.accept acceptance.requestId (fresh.accepted acceptance)
    with violation | (_ | after) <;> rfl

theorem Statement.of_inserted {result : Except Violation Database} {report : Report}
    (executed : result.map inserted = .ok (after, report)) : result = .ok after := by
  cases result with
  | error violation => contradiction
  | ok changed =>
      obtain ⟨rfl, rfl⟩ := Prod.mk.inj (Except.ok.inj executed)
      rfl

theorem Statement.of_insertOffer {offer : RideOffer} {report : Report}
    (executed : (Statement.insertOffer offer).run before = .ok (after, report)) :
    ∃ row, OfferRow.ofOffer offer = .ok row ∧ before.insertOffer row = .ok after := by
  simp only [Statement.run] at executed
  cases encoded : OfferRow.ofOffer offer with
  | error violation =>
      rw [encoded] at executed
      contradiction
  | ok row =>
      rw [encoded] at executed
      exact ⟨row, rfl, of_inserted executed⟩

/-- Whatever a job answers and leaves behind is one of its effects. -/
theorem Job.runWhile_effect {job : Job} {answer : Option (Except StoreError job.Result)}
    (ran : job.runWhile fresh patience before = (answer, after)) :
    Effect fresh before job answer after := by
  have single {statement : Statement} {result : Report → Except StoreError job.Result}
      (planned : job.plan fresh = .write (.single statement result))
      (executed : ∀ changed report, statement.run before = .ok (changed, report) →
        Effect fresh before job (some (result report)) changed) :
      Effect fresh before job answer after := by
    rw [Job.runWhile_single planned] at ran
    split at ran
    · obtain ⟨rfl, rfl⟩ := Prod.mk.inj ran
      exact .abandoned
    · split at ran
      · obtain ⟨rfl, rfl⟩ := Prod.mk.inj ran
        exact .refused _
      · obtain ⟨rfl, rfl⟩ := Prod.mk.inj ran
        exact executed _ _ ‹_›
  have look {look : Database → Except StoreError job.Result}
      (planned : job.plan fresh = .read look) : Effect fresh before job answer after := by
    rw [Job.runWhile, planned] at ran
    obtain ⟨rfl, rfl⟩ := Prod.mk.inj ran
    exact .read look planned
  cases job with
  | getUser id => exact look rfl
  | findUserByEmail email => exact look rfl
  | getOffer id => exact look rfl
  | getRequest id => exact look rfl
  | getMatch id => exact look rfl
  | listMatchesByRide ride => exact look rfl
  | listMatchesByRider rider => exact look rfl
  | listMatchesForUser user => exact look rfl
  | createUser input =>
      apply single rfl
      intro changed report executed
      exact .userCreated input changed (Statement.of_inserted executed)
  | createOffer input =>
      apply single rfl
      intro changed report executed
      obtain ⟨row, encoded, inserted⟩ := Statement.of_insertOffer executed
      exact .offerCreated input row changed encoded inserted
  | createRequest input =>
      apply single rfl
      intro changed report executed
      exact .requestCreated input changed (Statement.of_inserted executed)
  | createMatch input =>
      apply single rfl
      intro changed report executed
      exact .matchCreated input changed (Statement.of_inserted executed)
  | swapLastSeen id expected new =>
      apply single rfl
      intro changed report executed
      obtain ⟨rfl, rfl⟩ := Prod.mk.inj (Except.ok.inj executed)
      exact .seenSwapped id expected new
  | swapRequestStatus id expected new =>
      apply single rfl
      intro changed report executed
      obtain ⟨rfl, rfl⟩ := Prod.mk.inj (Except.ok.inj executed)
      exact .requestSwapped id expected new
  | swapMatchStatus id expected new =>
      apply single rfl
      intro changed report executed
      obtain ⟨rfl, rfl⟩ := Prod.mk.inj (Except.ok.inj executed)
      exact .matchSwapped id expected new
  | forceMatchStatus id new =>
      apply single rfl
      intro changed report executed
      obtain ⟨rfl, rfl⟩ := Prod.mk.inj (Except.ok.inj executed)
      exact .matchForced id new
  | acceptRideRequest acceptance =>
      have steps := congrArg (fun ran => (Ending.answer? ran.1, ran.2))
        (acceptSteps_runOn acceptance.requestId (fresh.accepted acceptance) patience before)
      have ran := ran.symm.trans steps
      split at ran
      · obtain ⟨rfl, rfl⟩ := Prod.mk.inj ran
        exact .abandoned
      · split at ran
        · obtain ⟨rfl, rfl⟩ := Prod.mk.inj ran
          exact .refused _
        · obtain ⟨rfl, rfl⟩ := Prod.mk.inj ran
          exact .declined acceptance
        · split at ran
          · obtain ⟨rfl, rfl⟩ := Prod.mk.inj ran
            exact .abandoned
          · obtain ⟨rfl, rfl⟩ := Prod.mk.inj ran
            exact .accepted acceptance _ ‹_›

/-- A job whose caller stays is answered. -/
theorem Job.runWhile_ne_none {job : Job} (ran : job.runWhile fresh none before = (none, after)) :
    False := by
  have single {statement : Statement} {result : Report → Except StoreError job.Result}
      (planned : job.plan fresh = .write (.single statement result)) : False := by
    rw [Job.runWhile_single planned, if_neg (by simp)] at ran
    split at ran <;> cases ran
  have look {look : Database → Except StoreError job.Result}
      (planned : job.plan fresh = .read look) : False := by
    rw [Job.runWhile, planned] at ran
    cases ran
  cases job with
  | getUser id => exact look rfl
  | findUserByEmail email => exact look rfl
  | getOffer id => exact look rfl
  | getRequest id => exact look rfl
  | getMatch id => exact look rfl
  | listMatchesByRide ride => exact look rfl
  | listMatchesByRider rider => exact look rfl
  | listMatchesForUser user => exact look rfl
  | acceptRideRequest acceptance =>
      have ran := (Job.runWhile_accept acceptance).symm.trans ran
      split at ran <;> cases ran
  | _ => exact single rfl

/-- A job whose caller stays is carried out as for a caller who might leave. -/
theorem Job.run_of_runWhile {job : Job} {answer : Except StoreError job.Result}
    (ran : job.runWhile fresh none before = (some answer, after)) :
    job.run fresh before = (answer, after) := by
  rw [Job.runWhile] at ran
  rw [Job.run]
  cases planned : job.plan fresh with
  | read look =>
      rw [planned] at ran
      obtain ⟨answered, rfl⟩ := Prod.mk.inj ran
      rw [← Option.some.inj answered]
  | write steps =>
      rw [planned] at ran
      dsimp only at ran ⊢
      cases ended : steps.runOn none before with
      | mk ending last =>
          rw [ended] at ran
          obtain ⟨answered, rfl⟩ := Prod.mk.inj ran
          cases ending with
          | done result => rw [← Option.some.inj answered]
          | violated violation => rw [← Option.some.inj answered]
          | abandoned => cases answered

/-! ## Creating and accepting -/

/-- A write that breaks a constraint, or is abandoned, changes nothing. -/
inductive Unwritten {α : Type} (before : Database) :
    Option (Except StoreError α) → Database → Prop
  | abandoned : Unwritten before none before
  | refused (violation : Violation) : Unwritten before (some (.error (.violation violation))) before

theorem Job.of_createOffer {input : NewOffer} {answer : Option (Except StoreError RideOffer)}
    (ran : (Job.createOffer input).runWhile fresh patience before = (answer, after)) :
    Unwritten before answer after ∨
      answer = some (.ok (fresh.offer input)) ∧
        ∃ row, OfferRow.ofOffer (fresh.offer input) = .ok row ∧
          before.insertOffer row = .ok after := by
  cases Job.runWhile_effect ran with
  | read look planned => cases planned
  | abandoned => exact .inl .abandoned
  | refused violation => exact .inl (.refused violation)
  | offerCreated input row after encoded inserted => exact .inr ⟨rfl, row, encoded, inserted⟩

theorem Job.of_createRequest {input : NewRequest}
    {answer : Option (Except StoreError RideRequest)}
    (ran : (Job.createRequest input).runWhile fresh patience before = (answer, after)) :
    Unwritten before answer after ∨
      answer = some (.ok (fresh.request input)) ∧
        before.insertRequest (.ofRequest (fresh.request input)) = .ok after := by
  cases Job.runWhile_effect ran with
  | read look planned => cases planned
  | abandoned => exact .inl .abandoned
  | refused violation => exact .inl (.refused violation)
  | requestCreated input after inserted => exact .inr ⟨rfl, inserted⟩

theorem Job.of_createMatch {input : NewMatch} {answer : Option (Except StoreError Match)}
    (ran : (Job.createMatch input).runWhile fresh patience before = (answer, after)) :
    Unwritten before answer after ∨
      answer = some (.ok (fresh.newMatch input)) ∧
        before.insertMatch (.ofMatch (fresh.newMatch input)) = .ok after := by
  cases Job.runWhile_effect ran with
  | read look planned => cases planned
  | abandoned => exact .inl .abandoned
  | refused violation => exact .inl (.refused violation)
  | matchCreated input after inserted => exact .inr ⟨rfl, inserted⟩

theorem Job.of_acceptRideRequest {acceptance : Acceptance}
    {answer : Option (Except StoreError (Option Accepted))}
    (ran : (Job.acceptRideRequest acceptance).runWhile fresh patience before = (answer, after)) :
    Unwritten before answer after ∨ answer = some (.ok none) ∧ after = before ∨
      answer = some (.ok (some (fresh.accepted acceptance))) ∧
        before.accept acceptance.requestId (fresh.accepted acceptance) = .ok (some after) := by
  cases Job.runWhile_effect ran with
  | read look planned => cases planned
  | abandoned => exact .inl .abandoned
  | refused violation => exact .inl (.refused violation)
  | declined acceptance => exact .inr (.inl ⟨rfl, rfl⟩)
  | accepted acceptance after committed => exact .inr (.inr ⟨rfl, committed⟩)

theorem Job.of_swapMatchStatus {id : Uuid} {expected new : MatchStatus}
    {answer : Except StoreError Swap}
    (ran : (Job.swapMatchStatus id expected new).runWhile fresh patience before =
      (some answer, after)) :
    answer = .ok (.ofChanged (before.swapMatchStatus id.text expected.name new.name).2) ∧
      after = (before.swapMatchStatus id.text expected.name new.name).1 := by
  have ran := (Job.runWhile_single rfl).symm.trans ran
  split at ran
  · cases ran
  · obtain ⟨answered, rfl⟩ := Prod.mk.inj ran
    exact ⟨(Option.some.inj answered).symm, rfl⟩

end Store

end Carpool
