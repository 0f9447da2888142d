import Carpool.Proofs.Store.Effect
import Carpool.Proofs.Store.Reading

/-!
# Writes step by step

A write takes its steps one at a time, and its caller may leave between any two
of them.  Step by step it comes to the same end as in one go.  As long as a
write has a check ahead of it, all that it has done is in an open transaction,
so that a caller who leaves by then leaves nothing behind.
-/

namespace Carpool

namespace Store

variable {α : Type}

def Patience.present (patience : Patience) : Bool :=
  decide (patience ≠ some 0)

/-- To carry out a write is to take its steps one after the other. -/
theorem Write.run_advance (write : Write α) (patience : Patience) (connection : Connection) :
    write.run patience connection =
      match write.advance patience.present connection with
      | .goesOn rest later => rest.run patience.afterStep later
      | .ended ending after => (ending, after) := by
  cases write with
  | done result => rfl
  | check next =>
      rw [Write.run, Write.advance, Patience.present]
      by_cases gone : patience = some 0 <;> simp [gone]
  | start next => rfl
  | execute statement next =>
      rw [Write.run, Write.advance]
      cases statement.run connection.current <;> rfl
  | commit next => rfl

/-- What holds of a write that ends with its next step, and of one whose next step
leads to where it holds, holds of every write whose caller stays. -/
theorem Write.advance_induct {motive : Write α → Connection → Prop}
    (ended : ∀ rest connection ending after,
      rest.advance true connection = .ended ending after → motive rest connection)
    (goesOn : ∀ rest connection next later,
      rest.advance true connection = .goesOn next later → motive next later →
        motive rest connection)
    (write : Write α) (connection : Connection) : motive write connection := by
  induction write generalizing connection with
  | done result => exact ended _ _ _ _ rfl
  | check next ih => exact goesOn _ _ _ _ rfl (ih connection)
  | start next ih => exact goesOn _ _ _ _ rfl (ih connection.start)
  | execute statement next ih =>
      cases executed : statement.run connection.current with
      | error violation =>
          refine ended _ _ (.violated violation) connection.permanent ?_
          rw [Write.advance, executed]
      | ok outcome =>
          refine goesOn _ _ (next outcome.2) (connection.put outcome.1) ?_ (ih _ _)
          rw [Write.advance, executed]
  | commit next ih => exact goesOn _ _ _ _ rfl (ih connection.commit)

theorem Job.runWhile_steps (job : Job) (fresh : Fresh) (patience : Patience)
    (database : Database) :
    job.runWhile fresh patience database =
      ((((job.plan fresh).steps database).runOn patience database).1.answer?,
        (((job.plan fresh).steps database).runOn patience database).2) := by
  rw [Job.runWhile]
  cases job.plan fresh <;> rfl

/-- A job that can be cut off checks for its caller first of all. -/
theorem Job.exists_check {job : Job} {fresh : Fresh} {patience : Patience}
    {before after : Database} (ran : job.runWhile fresh patience before = (none, after)) :
    ∃ next, (job.plan fresh).steps before = .check next := by
  cases planned : job.plan fresh with
  | read look =>
      rw [Job.runWhile, planned] at ran
      cases ran
  | write steps =>
      cases job <;> first | exact ⟨_, (Plan.write.inj planned).symm⟩ | cases planned

/-- Steps that are not cut off come out as for a caller who stays. -/
theorem Write.run_patient {write : Write α} {patience : Patience} {connection : Connection}
    (whole : (write.run patience connection).1 ≠ .abandoned) :
    write.run none connection = write.run patience connection := by
  induction write generalizing patience connection with
  | done result => rfl
  | check next ih =>
      rw [Write.run] at whole ⊢
      rw [Write.run]
      by_cases gone : patience = some 0
      · rw [if_pos gone] at whole
        exact absurd rfl whole
      · rw [if_neg gone] at whole ⊢
        rw [if_neg (by simp)]
        exact ih whole
  | start next ih => exact ih whole
  | execute statement next ih =>
      rw [Write.run] at whole ⊢
      rw [Write.run]
      cases executed : statement.run connection.current with
      | error violation => rfl
      | ok outcome =>
          rw [executed] at whole
          exact ih outcome.2 whole
  | commit next ih => exact ih whole

/-- A job is cut off and changes nothing, or it does all that it does for a
caller who stays. -/
theorem Job.runWhile_whole {job : Job} {fresh : Fresh} {patience : Patience}
    {before after : Database} {answer : Option (Except StoreError job.Result)}
    (ran : job.runWhile fresh patience before = (answer, after)) :
    answer = none ∧ after = before ∨ job.runWhile fresh none before = (answer, after) := by
  cases answer with
  | none =>
      cases Job.runWhile_effect ran with
      | abandoned => exact .inl ⟨rfl, rfl⟩
  | some answer =>
      refine .inr ?_
      rw [← ran, Job.runWhile_steps, Job.runWhile_steps, Write.runOn, Write.runOn,
        Write.run_patient]
      rw [← Write.runOn]
      intro abandoned
      rw [Job.runWhile_steps, abandoned] at ran
      cases ran

/-! ## Callers who leave between two steps -/

/-- How a write can have come to what is left of it: by steps that it took while
its caller was there, and then, once the caller has left, by some without. -/
def Write.Leads (whole : Write α) (before : Database) (present : Bool) (rest : Write α)
    (connection : Connection) : Prop :=
  if present then ∀ patience, ∃ longer, whole.runOn longer before = rest.run patience connection
  else ∃ patience, whole.runOn patience before = rest.run (some 0) connection

namespace Write.Leads

variable {whole rest next : Write α} {before after : Database} {present : Bool}
  {connection later : Connection} {ending : Ending α}

theorem start : whole.Leads before present whole ⟨before, none⟩ := by
  unfold Leads
  split
  · exact fun patience => ⟨patience, rfl⟩
  · exact ⟨some 0, rfl⟩

theorem leave (leads : whole.Leads before present rest connection) :
    whole.Leads before false rest connection := by
  cases present with
  | false => exact leads
  | true => exact leads (some 0)

theorem goesOn (leads : whole.Leads before present rest connection)
    (advanced : rest.advance present connection = .goesOn next later) :
    whole.Leads before present next later := by
  cases present with
  | false =>
      obtain ⟨patience, same⟩ := leads
      refine ⟨patience, same.trans ?_⟩
      rw [Write.run_advance]
      exact congrArg (fun outcome => match outcome with
        | .goesOn rest later => rest.run (some 0) later
        | .ended ending after => (ending, after)) advanced
  | true =>
      -- the caller was there for one step more
      intro patience
      obtain ⟨longer, same⟩ := leads (patience.map (· + 1))
      refine ⟨longer, same.trans ?_⟩
      have there : Patience.present (patience.map (· + 1)) = true := by
        cases patience <;> simp [Patience.present]
      have left : Patience.afterStep (patience.map (· + 1)) = patience := by
        cases patience <;> simp [Patience.afterStep]
      rw [Write.run_advance, there, advanced]
      simp only [left]

theorem ended (leads : whole.Leads before present rest connection)
    (advanced : rest.advance present connection = .ended ending after) :
    ∃ patience, whole.runOn patience before = (ending, after) := by
  have alone : ∀ patience : Patience, patience.present = present →
      rest.run patience connection = (ending, after) := by
    intro patience same
    rw [Write.run_advance, same, advanced]
  cases present with
  | false =>
      obtain ⟨patience, same⟩ := leads
      exact ⟨patience, same.trans (alone _ rfl)⟩
  | true =>
      obtain ⟨patience, same⟩ := leads none
      exact ⟨patience, same.trans (alone _ rfl)⟩

end Write.Leads

/-! ## Checks ahead -/

namespace Write

/-- A check may still come. -/
def MeetsCheck : Write α → Prop
  | .done _ => False
  | .check _ => True
  | .start next | .commit next => next.MeetsCheck
  | .execute _ next => ∃ report, (next report).MeetsCheck

/-- Nothing becomes permanent before the next check. -/
def Withholds : (opened : Bool) → Write α → Prop
  | _, .done _ | _, .check _ => True
  | _, .start next => next.Withholds true
  | opened, .execute _ next => opened = true ∧ ∀ report, (next report).Withholds true
  | _, .commit _ => False

/-- Whenever a check may still come, nothing becomes permanent before it. -/
def Guarded : (opened : Bool) → Write α → Prop
  | _, .done _ => True
  | opened, .check next => next.Guarded opened
  | _, .start next => (next.MeetsCheck → next.Withholds true) ∧ next.Guarded true
  | opened, .execute _ next =>
      ((∃ report, (next report).MeetsCheck) →
        opened = true ∧ ∀ report, (next report).Withholds true) ∧
      ∀ report, (next report).Guarded opened
  | _, .commit next => ¬next.MeetsCheck ∧ next.Guarded false

variable {rest next : Write α} {connection later : Connection} {present : Bool}

theorem Guarded.withholds {opened : Bool} (guarded : rest.Guarded opened)
    (meets : rest.MeetsCheck) : rest.Withholds opened := by
  cases rest with
  | done result => trivial
  | check next => trivial
  | start next => exact guarded.1 meets
  | execute statement next => exact guarded.1 meets
  | commit next => exact absurd meets guarded.1

theorem after_of_ended {ending : Ending α} {after : Database}
    (advanced : rest.advance present connection = .ended ending after) :
    after = connection.permanent := by
  cases rest with
  | done result => exact (Outcome.ended.inj advanced).2.symm
  | check next =>
      rw [advance] at advanced
      split at advanced
      · contradiction
      · exact (Outcome.ended.inj advanced).2.symm
  | start next => contradiction
  | execute statement next =>
      rw [advance] at advanced
      split at advanced
      · exact (Outcome.ended.inj advanced).2.symm
      · contradiction
  | commit next => contradiction

theorem Connection.put_permanent {connection : Connection} (opened : connection.pending.isSome)
    (database : Database) : (connection.put database).permanent = connection.permanent ∧
      (connection.put database).pending.isSome := by
  obtain ⟨permanent, pending⟩ := connection
  cases pending with
  | none => contradiction
  | some pending => exact ⟨rfl, rfl⟩

theorem Connection.put_pending (connection : Connection) (database : Database) :
    (connection.put database).pending.isSome = connection.pending.isSome := by
  obtain ⟨permanent, pending⟩ := connection
  cases pending <;> rfl

/-- A check that is still ahead was ahead before, and nothing has become
permanent in between. -/
theorem Guarded.goesOn (guarded : rest.Guarded connection.pending.isSome)
    (advanced : rest.advance present connection = .goesOn next later) :
    next.Guarded later.pending.isSome ∧
      (next.MeetsCheck → rest.MeetsCheck ∧ later.permanent = connection.permanent) := by
  cases rest with
  | done result => contradiction
  | check following =>
      rw [advance] at advanced
      split at advanced
      · obtain ⟨rfl, rfl⟩ := Outcome.goesOn.inj advanced
        exact ⟨guarded, fun _ => ⟨trivial, rfl⟩⟩
      · contradiction
  | start following =>
      obtain ⟨rfl, rfl⟩ := Outcome.goesOn.inj advanced
      exact ⟨guarded.2, fun meets => ⟨meets, rfl⟩⟩
  | execute statement following =>
      rw [advance] at advanced
      split at advanced
      · contradiction
      · rename_i database report executed
        obtain ⟨rfl, rfl⟩ := Outcome.goesOn.inj advanced
        refine ⟨?_, fun meets => ⟨⟨report, meets⟩, ?_⟩⟩
        · rw [Connection.put_pending]
          exact guarded.2 report
        · exact (Connection.put_permanent (guarded.1 ⟨report, meets⟩).1 database).1
  | commit following =>
      obtain ⟨rfl, rfl⟩ := Outcome.goesOn.inj advanced
      exact ⟨guarded.2, fun meets => absurd meets guarded.1⟩

/-- Without its caller a write that withholds its changes makes none
permanent. -/
theorem Withholds.goesOn (withholds : rest.Withholds connection.pending.isSome)
    (advanced : rest.advance false connection = .goesOn next later) :
    next.Withholds later.pending.isSome ∧ later.permanent = connection.permanent := by
  cases rest with
  | done result => contradiction
  | check following => contradiction
  | start following =>
      obtain ⟨rfl, rfl⟩ := Outcome.goesOn.inj advanced
      exact ⟨withholds, rfl⟩
  | execute statement following =>
      rw [advance] at advanced
      split at advanced
      · contradiction
      · rename_i database report executed
        obtain ⟨rfl, rfl⟩ := Outcome.goesOn.inj advanced
        obtain ⟨same, opened⟩ := Connection.put_permanent withholds.1 database
        rw [opened]
        exact ⟨withholds.2 report, same⟩
  | commit following => exact withholds.elim

end Write

/-! ## The steps of every job -/

theorem Write.single_guarded {statement : Statement} {result : Report → Except StoreError α} :
    (Write.single statement result).Guarded false :=
  ⟨fun ⟨_, meets⟩ => meets.elim, fun _ => trivial⟩

theorem Write.opened_execute {statement : Statement} {next : Report → Write α}
    (secured : ∀ report, (next report).Withholds true ∧ (next report).Guarded true) :
    (Write.execute statement next).Withholds true ∧ (Write.execute statement next).Guarded true :=
  have withholds : ∀ report, (next report).Withholds true := fun report => (secured report).1
  ⟨⟨rfl, withholds⟩, fun _ => ⟨rfl, withholds⟩, fun report => (secured report).2⟩

theorem Write.transaction_guarded {next : Write α}
    (secured : next.Withholds true ∧ next.Guarded true) :
    (Write.check (.start next)).Guarded false :=
  ⟨fun _ => secured.1, secured.2⟩

theorem acceptSteps_guarded (request : Uuid) (accepted : Accepted) :
    (acceptSteps request accepted).Guarded false := by
  apply Write.transaction_guarded
  apply Write.opened_execute
  intro offered
  apply Write.opened_execute
  intro paired
  apply Write.opened_execute
  intro report
  cases Swap.ofChanged report.changed with
  | applied => exact ⟨trivial, id, trivial⟩
  | stale => exact ⟨trivial, trivial⟩

/-- Every job that writes checks for its caller before it writes, and once more
before it commits a transaction. -/
theorem Job.steps_guarded (job : Job) (fresh : Fresh) (database : Database) :
    ((job.plan fresh).steps database).Guarded false ∧
      ((job.plan fresh).steps database).Withholds false := by
  cases job with
  | acceptRideRequest acceptance =>
      exact ⟨acceptSteps_guarded acceptance.requestId (fresh.accepted acceptance), trivial⟩
  | createUser input => exact ⟨Write.single_guarded, trivial⟩
  | createOffer input => exact ⟨Write.single_guarded, trivial⟩
  | createRequest input => exact ⟨Write.single_guarded, trivial⟩
  | createMatch input => exact ⟨Write.single_guarded, trivial⟩
  | swapLastSeen id expected new => exact ⟨Write.single_guarded, trivial⟩
  | swapRequestStatus id expected new => exact ⟨Write.single_guarded, trivial⟩
  | swapMatchStatus id expected new => exact ⟨Write.single_guarded, trivial⟩
  | forceMatchStatus id new => exact ⟨Write.single_guarded, trivial⟩
  | _ => exact ⟨trivial, trivial⟩

end Store

end Carpool
