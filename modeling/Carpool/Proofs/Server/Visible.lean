import Carpool.Proofs.Server.Record

/-!
# What is stored between two steps

While a job is under way, what is permanent is what the job found, or all that
the job does: nothing is left to do once something has become permanent.  So
whatever every job keeps holds at every moment.
-/

namespace Carpool

open Store

namespace Store

variable {α : Type}

/-- Nothing is left to do once something has become permanent. -/
def Write.EndsOnChange : (opened : Bool) → Write α → Prop
  | _, .done _ => True
  | opened, .check next => next.EndsOnChange opened
  | _, .start next => next.EndsOnChange true
  | opened, .execute _ next =>
      ∀ report, (next report).EndsOnChange opened ∧
        (opened = false → ∃ result, next report = .done result)
  | _, .commit next => ∃ result, next = .done result

theorem Write.EndsOnChange.goesOn {rest next : Write α} {connection later : Connection}
    {present : Bool} (ends : rest.EndsOnChange connection.pending.isSome)
    (advanced : rest.advance present connection = .goesOn next later) :
    next.EndsOnChange later.pending.isSome ∧
      (later.permanent = connection.permanent ∨ ∃ result, next = .done result) := by
  cases rest with
  | done result => contradiction
  | check following =>
      rw [Write.advance] at advanced
      split at advanced
      · obtain ⟨rfl, rfl⟩ := Outcome.goesOn.inj advanced
        exact ⟨ends, .inl rfl⟩
      · contradiction
  | start following =>
      obtain ⟨rfl, rfl⟩ := Outcome.goesOn.inj advanced
      exact ⟨ends, .inl rfl⟩
  | execute statement following =>
      rw [Write.advance] at advanced
      split at advanced
      · contradiction
      · rename_i database report executed
        obtain ⟨rfl, rfl⟩ := Outcome.goesOn.inj advanced
        rw [Write.Connection.put_pending]
        refine ⟨(ends report).1, ?_⟩
        cases opened : connection.pending.isSome with
        | true => exact .inl (Write.Connection.put_permanent opened database).1
        | false => exact .inr ((ends report).2 opened)
  | commit following =>
      obtain ⟨rfl, rfl⟩ := Outcome.goesOn.inj advanced
      obtain ⟨result, rfl⟩ := ends
      exact ⟨trivial, .inr ⟨result, rfl⟩⟩

theorem Write.single_endsOnChange {statement : Statement}
    {result : Report → Except StoreError α} :
    (Write.single statement result).EndsOnChange false :=
  fun report => ⟨trivial, fun _ => ⟨result report, rfl⟩⟩

theorem acceptSteps_endsOnChange (request : Uuid) (accepted : Accepted) :
    (acceptSteps request accepted).EndsOnChange false := by
  refine fun offered => ⟨fun paired => ⟨fun report => ⟨?_, nofun⟩, nofun⟩, nofun⟩
  dsimp only
  cases Swap.ofChanged report.changed with
  | applied => exact ⟨_, rfl⟩
  | stale => trivial

theorem Job.steps_endsOnChange (job : Job) (fresh : Fresh) (database : Database) :
    ((job.plan fresh).steps database).EndsOnChange false := by
  cases job with
  | acceptRideRequest acceptance =>
      exact acceptSteps_endsOnChange acceptance.requestId (fresh.accepted acceptance)
  | createUser input => exact Write.single_endsOnChange
  | createOffer input => exact Write.single_endsOnChange
  | createRequest input => exact Write.single_endsOnChange
  | createMatch input => exact Write.single_endsOnChange
  | swapLastSeen id expected new => exact Write.single_endsOnChange
  | swapRequestStatus id expected new => exact Write.single_endsOnChange
  | swapMatchStatus id expected new => exact Write.single_endsOnChange
  | forceMatchStatus id new => exact Write.single_endsOnChange
  | _ => trivial

end Store

namespace Server

variable {config : ServerConfig} {server after : Server} {event : Event}

/-- What is permanent is what the job under way has found, or it has nothing
left to do. -/
structure Discreet (work : Work) (database : Database) : Prop where
  ends : work.rest.EndsOnChange work.pending.isSome
  same : database = work.before ∨ ∃ result, work.rest = .done result

theorem Discreet.goesOn {work : Work} {present : Bool} {database : Database}
    {rest : Write (Except StoreError work.ticket.job.Result)} {later : Connection}
    (discreet : Discreet work database)
    (advanced : work.rest.advance present ⟨database, work.pending⟩ = .goesOn rest later) :
    Discreet { work with rest, pending := later.pending } later.permanent := by
  obtain ⟨ends, unchanged | done⟩ := Write.EndsOnChange.goesOn discreet.ends advanced
  · obtain found | ⟨result, done⟩ := discreet.same
    · exact ⟨ends, .inl (unchanged.trans found)⟩
    · rw [done] at advanced
      cases advanced
  · exact ⟨ends, .inr done⟩

theorem discreet_of_step (discreet : ∀ work, server.work = some work →
      Discreet work server.database)
    (stepped : step config server event = some after) :
    ∀ work, after.work = some work → Discreet work after.database := by
  cases stepped_of_step stepped with
  | begun idle queued =>
      intro work working
      obtain rfl := Option.some.inj working
      exact ⟨Job.steps_endsOnChange _ _ _, .inl rfl⟩
  | goesOn working advanced =>
      intro work same
      obtain rfl := Option.some.inj same
      exact (discreet _ working).goesOn advanced
  | finished working advanced =>
      intro work idle
      cases idle
  | _ => exact discreet

theorem discreet {start : Database} {events : List Event}
    (ran : run config (opening start) events = some server) :
    ∀ work, server.work = some work → Discreet work server.database := by
  refine run_induct (motive := fun server => ∀ work, server.work = some work →
    Discreet work server.database) ran (fun work working => by cases working) ?_
  intro middle event after _ held stepped
  exact discreet_of_step held stepped

/-- At every moment the permanent contents are those that the last job has left,
or will be in a moment, when the job under way ends. -/
theorem exists_settled {start : Database} {events : List Event}
    (ran : run config (opening start) events = some server) :
    ∃ extra later, (∀ event ∈ extra, event = .work) ∧
      run config (opening start) (events ++ extra) = some later ∧
      later.database = server.database ∧ later.settled = server.database ∧
      server.receipts <+: later.receipts := by
  cases working : server.work with
  | none =>
      refine ⟨[], server, by simp, by rw [List.append_nil, ran], rfl, ?_, List.prefix_rfl⟩
      rw [settled, working]
  | some work =>
      obtain same | ⟨result, done⟩ := (discreet ran work working).same
      · refine ⟨[], server, by simp, by rw [List.append_nil, ran], rfl, ?_, List.prefix_rfl⟩
        rw [settled_of_work working, same]
      · refine ⟨[.work], server.finish work (some result) server.database, by simp, ?_, rfl, rfl,
          List.prefix_append _ _⟩
        have advanced : work.rest.advance (server.isHere work.ticket.number)
            ⟨server.database, work.pending⟩ = .ended (.done result) server.database := by
          rw [done]
          rfl
        have stepped : step config server .work =
            some (server.finish work (some result) server.database) := by
          rw [step, working]
          dsimp only
          rw [proceed, advanced]
          rfl
        rw [run_append, ran, Option.bind_some, run, List.foldlM_cons, stepped]
        rfl

/-! ## What all jobs keep -/

theorem effect_of_receipts {start : Database} {events : List Event}
    (ran : run config (opening start) events = some server) {receipt : Receipt}
    (member : receipt ∈ server.receipts) :
    Effect receipt.fresh receipt.before receipt.job receipt.answer receipt.after := by
  obtain ⟨patience, carried⟩ := (carriedOut ran).ran receipt member
  exact Job.runWhile_effect carried

section Kept

variable {motive : Database → Prop}
  (kept : ∀ {fresh : Fresh} {before after : Database} {job : Job}
    {answer : Option (Except StoreError job.Result)},
    Effect fresh before job answer after → motive before → motive after)
  {start : Database} {events : List Event}
  (ran : run config (opening start) events = some server)

include kept ran

/-- What every job keeps, whatever it is given, holds at every moment. -/
theorem kept_throughout (holds : motive start) :
    (∀ receipt ∈ server.receipts, motive receipt.before) ∧ motive server.database := by
  constructor
  · intro receipt member
    obtain ⟨earlier, later, split⟩ := List.append_of_mem member
    refine (Chained.split (split ▸ (carriedOut ran).chained)).1.keeps (fun other listed => ?_) holds
    exact kept (effect_of_receipts ran (split ▸ List.mem_append_left _ listed))
  · obtain ⟨extra, last, -, ranOn, -, settles, -⟩ := exists_settled ran
    rw [← settles]
    refine (carriedOut ranOn).chained.keeps (fun receipt member => ?_) holds
    exact kept (effect_of_receipts ranOn member)

/-- What a job has left behind is there at every later moment, if all jobs keep
it. -/
theorem kept_since {earlier later : List Receipt} {receipt : Receipt}
    (split : server.receipts = earlier ++ receipt :: later) (holds : motive receipt.after) :
    (∀ other ∈ later, motive other.before) ∧ motive server.database := by
  obtain ⟨extra, last, -, ranOn, -, settles, more, whole⟩ := exists_settled ran
  have splitOn : last.receipts = earlier ++ receipt :: (later ++ more) := by
    simp [← whole, split]
  have chained := (Chained.split (splitOn ▸ (carriedOut ranOn).chained)).2
  have keeps {other : Receipt} (member : other ∈ later ++ more) :
      motive other.before → motive other.after :=
    kept (effect_of_receipts ranOn
      (splitOn ▸ List.mem_append_right _ (List.mem_cons_of_mem _ member)))
  constructor
  · intro other member
    obtain ⟨between, rest, parted⟩ := List.append_of_mem (List.mem_append_left more member)
    rw [parted] at chained keeps
    exact chained.split.1.keeps (fun another listed => keeps (List.mem_append_left _ listed)) holds
  · rw [← settles]
    exact chained.keeps (fun other member => keeps member) holds

end Kept

end Server

end Carpool
