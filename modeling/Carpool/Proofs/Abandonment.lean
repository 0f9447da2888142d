import Carpool.Proofs.Server.Caution
import Carpool.Proofs.Server.Erasure

/-!
# Abandoned calls

Whoever waits for a call may leave at any moment.  A job that has a check ahead
of it then leaves nothing behind, and the call might as well never have been
made; one that has none does all that it does.  A call that is left between two
jobs asks for no more of them.
-/

namespace Carpool

open Store

/-- The job has done all that it does for a caller who stays. -/
def Receipt.IsComplete (receipt : Receipt) : Prop :=
  receipt.job.runWhile receipt.fresh none receipt.before = (receipt.answer, receipt.after)

/-- The job has been cut off, and has changed nothing. -/
def Receipt.IsCutOff (receipt : Receipt) : Prop :=
  receipt.answer = none ∧ receipt.after = receipt.before

namespace Server

variable {config : ServerConfig} {server after : Server} {event : Event} {number : Nat}
  {start : Database}

/-- The job of a call waits in the queue, or it is under way and a check may
still come. -/
def AwaitsCheck (server : Server) (number : Nat) : Prop :=
  (∃ ticket ∈ server.queue, ticket.number = number) ∨
    ∃ work, server.work = some work ∧ work.ticket.number = number ∧ work.rest.MeetsCheck

def IsBetweenJobs (server : Server) (number : Nat) : Prop :=
  ∃ errand rest, server.slots number = some ⟨errand, .going rest⟩

/-- Without the events of a call, and the steps that the connection took for it,
a run leads to the same contents, and to all other calls as they are. -/
def Unmade (config : ServerConfig) (start : Database) (events : List Event) (server : Server)
    (number : Nat) : Prop :=
  ∃ others, others.Sublist events ∧ (∀ event ∈ others, ¬event.Concerns number) ∧
    run config (opening start) others = some (server.without number) ∧
    (server.without number).database = server.database

/-- A call will ask the store nothing more. -/
def IsThrough (server : Server) (number : Nat) : Prop :=
  server.AsksNothing number ∧ ∀ errand rest,
    server.slots number = some ⟨errand, .going rest⟩ → rest.Asks fun _ => False

/-! ## Callers who have left -/

theorem left_of_step {errand : Errand} (left : server.slots number = some ⟨errand, .left⟩)
    (stepped : step config server event = some after) :
    after.slots number = some ⟨errand, .left⟩ := by
  have elsewhere {other : Nat} {slot : Slot}
      (different : server.slots other ≠ some ⟨errand, .left⟩) :
      (server.put other slot).slots number = some ⟨errand, .left⟩ := by
    rw [put_slots, if_neg]
    · exact left
    · rintro rfl
      exact different left
  have going {other : Nat} {goer : Errand} {rest : Call goer.Reply}
      (asks : server.slots other = some ⟨goer, .going rest⟩) :
      server.slots other ≠ some ⟨errand, .left⟩ := by
    intro same
    rw [asks] at same
    cases same
  cases stepped_of_step stepped with
  | arrived errand free => exact elsewhere (by simp [free])
  | issued fresh asks => exact elsewhere (going asks)
  | told now asks => exact elsewhere (going asks)
  | reported reply asks => exact elsewhere (going asks)
  | begun idle queued => exact left
  | goesOn working advanced => exact left
  | @left other slot found =>
      rw [put_slots]
      split
      · subst other
        rw [found] at left
        obtain rfl := Option.some.inj left
        rfl
      · exact left
  | @finished work ending database working advanced =>
      obtain same | ⟨here, -⟩ := server.finish_slots work ending.answer? database number
      · rw [same]
        exact left
      · rw [isHere, left] at here
        cases here

theorem not_isHere {errand : Errand} (left : server.slots number = some ⟨errand, .left⟩) :
    server.isHere number = false := by
  rw [isHere, left]

/-- Nobody waits for a call, and whatever its job still does, it leaves nothing
behind. -/
structure Harmless (server : Server) (number : Nat) : Prop where
  left : ∃ errand, server.slots number = some ⟨errand, .left⟩
  unchanged : Unchanged (server.receiptsOf number)
  withheld : ∀ work, server.work = some work → work.ticket.number = number →
    work.rest.Withholds work.pending.isSome ∧ server.database = work.before

theorem Harmless.step (harmless : server.Harmless number)
    (stepped : step config server event = some after) : after.Harmless number := by
  obtain ⟨errand, left⟩ := harmless.left
  have leftAfter : ∃ errand, after.slots number = some ⟨errand, .left⟩ :=
    ⟨errand, left_of_step left stepped⟩
  cases stepped_of_step stepped with
  | arrived _ free => exact ⟨leftAfter, harmless.unchanged, harmless.withheld⟩
  | left found => exact ⟨leftAfter, harmless.unchanged, harmless.withheld⟩
  | issued fresh asks => exact ⟨leftAfter, harmless.unchanged, harmless.withheld⟩
  | told now asks => exact ⟨leftAfter, harmless.unchanged, harmless.withheld⟩
  | reported reply asks => exact ⟨leftAfter, harmless.unchanged, harmless.withheld⟩
  | @begun ticket queue idle queued =>
      refine ⟨leftAfter, harmless.unchanged, fun work working own => ?_⟩
      obtain rfl := Option.some.inj working
      exact ⟨(Job.steps_guarded ticket.job ticket.fresh server.database).2, rfl⟩
  | @goesOn work rest later working advanced =>
      refine ⟨leftAfter, harmless.unchanged, fun next same own => ?_⟩
      obtain rfl := Option.some.inj same
      obtain ⟨withholds, before⟩ := harmless.withheld work working own
      rw [own, not_isHere left] at advanced
      obtain ⟨withholdsOn, kept⟩ := withholds.goesOn advanced
      exact ⟨withholdsOn, kept.trans before⟩
  | @finished work ending database working advanced =>
      refine ⟨leftAfter, ?_, fun next same => by cases same⟩
      rw [Conduct.receiptsOf_finish]
      split
      · rename_i own
        refine harmless.unchanged.concat ?_
        exact (Write.after_of_ended advanced).trans (harmless.withheld work working own).2
      · exact harmless.unchanged

theorem unchanged_of_waiting (holds : (caution False config).Holds server) {ticket : Ticket}
    (listed : ticket ∈ server.tickets) : Unchanged (server.receiptsOf ticket.number) := by
  obtain ⟨-, -, ⟨unchanged, -⟩ | concludes⟩ := holds.outstanding ticket listed
  · exact unchanged
  · exact concludes.elim

/-- Whoever leaves before the last check of a job leaves nothing behind. -/
theorem Harmless.of_leave (carried : CarriedOut start server)
    (holds : (caution False config).Holds server) (awaits : server.AwaitsCheck number)
    (stepped : Server.step config server (.leave number) = some after) :
    after.Harmless number := by
  obtain ⟨slot, found, rfl⟩ := Option.map_eq_some_iff.mp stepped
  have left : ∃ errand, (server.put number ⟨slot.errand, .left⟩).slots number =
      some ⟨errand, .left⟩ := ⟨slot.errand, by rw [put_slots, if_pos rfl]⟩
  obtain ⟨ticket, queued, rfl⟩ | ⟨work, working, rfl, meets⟩ := awaits
  · refine ⟨left, ?_, fun work working own => ?_⟩
    · exact unchanged_of_waiting holds (List.mem_append_right _ queued)
    · -- the job that is under way is that of another call
      exact absurd own (carried.orderly.elsewhere working queued)
  · refine ⟨left, ?_, fun other same own => ?_⟩
    · exact unchanged_of_waiting holds (mem_tickets_of_work working)
    · obtain rfl := Option.some.inj (working.symm.trans same)
      have sound := carried.underWay work working
      exact ⟨sound.guarded.withholds meets, sound.withheld meets⟩

/-- A call that leaves nothing behind might as well never have been made. -/
theorem Harmless.unmade (harmless : server.Harmless number) {events : List Event}
    (ran : run config (opening start) events = some server) :
    Unmade config start events server number := by
  obtain ⟨others, sublist, unconcerned, ranOthers⟩ :=
    run_without ran fun receipt member own =>
      harmless.unchanged receipt (List.mem_filter.mpr ⟨member, decide_eq_true own⟩)
  refine ⟨others, sublist, unconcerned, ranOthers, ?_⟩
  simp only [without]
  split
  · rename_i work working
    split
    · exact ((harmless.withheld work working ‹_›).2).symm
    · rfl
  · rfl

/-- Nobody waits for a call, and it has no job with the connection. -/
structure Silent (server : Server) (number : Nat) (receipts : List Receipt) : Prop where
  left : ∃ errand, server.slots number = some ⟨errand, .left⟩
  asksNothing : server.AsksNothing number
  same : server.receiptsOf number = receipts

theorem Silent.step {receipts : List Receipt} (silent : server.Silent number receipts)
    (stepped : step config server event = some after) : after.Silent number receipts := by
  obtain ⟨errand, left⟩ := silent.left
  have leftAfter : ∃ errand, after.slots number = some ⟨errand, .left⟩ :=
    ⟨errand, left_of_step left stepped⟩
  cases stepped_of_step stepped with
  | arrived _ free => exact ⟨leftAfter, silent.asksNothing, silent.same⟩
  | left found => exact ⟨leftAfter, silent.asksNothing, silent.same⟩
  | told now asks => exact ⟨leftAfter, silent.asksNothing, silent.same⟩
  | reported reply asks => exact ⟨leftAfter, silent.asksNothing, silent.same⟩
  | @issued other fresh errand job next asks =>
      refine ⟨leftAfter, fun ticket member => ?_, silent.same⟩
      rw [tickets, ← List.append_assoc] at member
      rcases List.mem_append.mp member with old | new
      · exact silent.asksNothing ticket old
      · obtain rfl := List.mem_singleton.mp new
        rintro rfl
        rw [left] at asks
        cases asks
  | begun idle queued =>
      refine ⟨leftAfter, fun ticket member => ?_, silent.same⟩
      exact silent.asksNothing ticket (tickets_begun idle queued ▸ member)
  | @goesOn work rest later working advanced =>
      refine ⟨leftAfter, fun ticket member => ?_, silent.same⟩
      exact silent.asksNothing ticket
        (tickets_goesOn working later.permanent rest later.pending ▸ member)
  | @finished work ending database working advanced =>
      refine ⟨leftAfter, fun ticket member => ?_, ?_⟩
      · refine silent.asksNothing ticket ?_
        rw [tickets_finish working ending.answer? database]
        exact List.mem_cons_of_mem _ member
      · rw [Conduct.receiptsOf_finish, if_neg]
        · exact silent.same
        · exact silent.asksNothing work.ticket (mem_tickets_of_work working)

theorem Silent.of_leave (orderly : server.Orderly) (between : server.IsBetweenJobs number)
    (stepped : Server.step config server (.leave number) = some after) :
    after.Silent number (server.receiptsOf number) := by
  obtain ⟨slot, found, rfl⟩ := Option.map_eq_some_iff.mp stepped
  obtain ⟨errand, rest, going⟩ := between
  refine ⟨⟨slot.errand, by rw [put_slots, if_pos rfl]⟩, fun ticket member => ?_, rfl⟩
  exact orderly.apart going member

/-! ## Leaving at any moment -/

/-- What holds once somebody has left, and is kept by every step, holds at the
end of the run. -/
theorem since_leave {motive : Server → Prop} {earlier later : List Event} {middle : Server}
    (ran : run config (opening start) (earlier ++ .leave number :: later) = some server)
    (ranFirst : run config (opening start) earlier = some middle)
    (left : ∀ after, step config middle (.leave number) = some after → motive after)
    (keeps : ∀ server event after, motive server → step config server event = some after →
      motive after) : motive server := by
  rw [run_append, ranFirst, Option.bind_some, run, List.foldlM_cons] at ran
  obtain ⟨next, stepped, ranOn⟩ := Option.bind_eq_some_iff.mp ran
  refine run_induct ranOn (left next stepped) ?_
  intro server event after _ held steppedOn
  exact keeps server event after held steppedOn

theorem CarriedOut.cutOff_or_complete (carried : CarriedOut start server) {receipt : Receipt}
    (member : receipt ∈ server.receipts) : receipt.IsCutOff ∨ receipt.IsComplete := by
  obtain ⟨patience, ran⟩ := carried.ran receipt member
  exact Job.runWhile_whole ran

/-- A call has changed nothing, or its last job has done all that it does and
the call asks for nothing more. -/
theorem none_or_all (carried : CarriedOut start server)
    (holds : (caution False config).Holds server) (number : Nat) :
    Unchanged (server.receiptsOf number) ∨
      ∃ own last, server.receiptsOf number = own ++ [last] ∧ Unchanged own ∧ last.IsComplete ∧
        server.IsThrough number := by
  obtain nothing | ⟨own, last, listed⟩ := List.eq_nil_or_concat' (server.receiptsOf number)
  · exact .inl (nothing ▸ .nil)
  have member : last ∈ server.receiptsOf number := by simp [listed]
  obtain ⟨recorded, isOwn⟩ := List.mem_filter.mp member
  obtain rfl := of_decide_eq_true isOwn
  obtain ⟨standing, found⟩ := carried.orderly.known last recorded
  have earlier : Unchanged own := by
    have tells : Unchanged (server.receiptsOf last.number).dropLast := (holds.tells found).2
    rw [listed, List.dropLast_concat] at tells
    exact tells
  by_cases same : last.after = last.before
  · exact .inl (listed ▸ earlier.concat same)
  have changed : ¬Unchanged (server.receiptsOf last.number) := fun all => same (all last member)
  refine .inr ⟨own, last, listed, earlier, ?_, ?_, ?_⟩
  · obtain ⟨-, unchanged⟩ | complete := carried.cutOff_or_complete recorded
    · exact absurd unchanged same
    · exact complete
  · intro ticket waiting own
    exact changed (own ▸ unchanged_of_waiting holds waiting)
  · intro errand rest going
    obtain ⟨-, ⟨unchanged, -⟩ | concludes⟩ := holds.going going
    · exact absurd unchanged changed
    · exact concludes.asksNothing fun _ => False.elim

/-- What becomes of calls that are left. -/
structure AbandonsCleanly (config : ServerConfig) (start : Database) (events : List Event)
    (server : Server) : Prop where
  /-- The jobs are carried out one after the other, and each as a whole or not
  at all. -/
  whole : Chained start server.receipts server.settled ∧
    ∀ receipt ∈ server.receipts, receipt.IsCutOff ∨ receipt.IsComplete
  /-- When somebody has left before the last check of a job, it is from then on
  as if the call had never been made. -/
  unmade : ∀ earlier number later middle, events = earlier ++ .leave number :: later →
    run config (opening start) earlier = some middle → middle.AwaitsCheck number →
    Unmade config start events server number
  /-- When somebody has left between two jobs, no further job has followed. -/
  silenced : ∀ earlier number later middle, events = earlier ++ .leave number :: later →
    run config (opening start) earlier = some middle → middle.IsBetweenJobs number →
    server.receiptsOf number = middle.receiptsOf number ∧ server.AsksNothing number
  /-- At any moment, a call has changed nothing, or one job has done all that the
  call will ever do. -/
  noneOrAll : ∀ number, Unchanged (server.receiptsOf number) ∨
    ∃ own last, server.receiptsOf number = own ++ [last] ∧ Unchanged own ∧ last.IsComplete ∧
      server.IsThrough number

/-- In every run from any contents, with any calls and whoever leaves at whatever
moment, calls are abandoned cleanly. -/
theorem calls_abandoned_cleanly {events : List Event}
    (ran : run config (opening start) events = some server) :
    AbandonsCleanly config start events server := by
  have cautious {events : List Event} {server : Server}
      (ran : run config (opening start) events = some server) :
      (caution False config).Holds server :=
    (caution_lawful False config).holds False.elim (fun _ _ => False.elim) ran
  have carried := carriedOut ran
  refine ⟨⟨carried.chained, fun receipt => carried.cutOff_or_complete⟩, ?_, ?_, ?_⟩
  · rintro earlier number later middle rfl ranFirst awaits
    refine Harmless.unmade ?_ ran
    refine since_leave (motive := fun server => server.Harmless number) ran ranFirst ?_ ?_
    · exact fun after => .of_leave (carriedOut ranFirst) (cautious ranFirst) awaits
    · exact fun server event after harmless => harmless.step
  · rintro earlier number later middle rfl ranFirst between
    have silent : server.Silent number (middle.receiptsOf number) := by
      refine since_leave (motive := fun server => server.Silent number _) ran ranFirst ?_ ?_
      · exact fun after => .of_leave (carriedOut ranFirst).orderly between
      · exact fun server event after silent => silent.step
    exact ⟨silent.same, silent.asksNothing⟩
  · exact none_or_all carried (cautious ran)

end Server

namespace Sample

/-- Both drivers find the request active, and both leave.  The rival does so when
all statements have been executed and the last check is still to come, the other
one right after that check. -/
def deserted : List Server.Event :=
  opened ++ .arrive 5 (.operation (.acceptRideRequest driver (uuid 4))) :: serve 5 0 0 2 ++
    .arrive 6 (.operation (.acceptRideRequest rival (uuid 4))) :: serve 6 0 0 2 ++
    serve 6 5 6 6 ++ [.leave 6, .work] ++ serve 5 7 8 7 ++ [.leave 5, .work, .work]

end Sample

namespace Server

/-- The rival's acceptance leaves nothing behind, and the other one is stored
although nobody hears of it. -/
theorem deserted_abandoned_cleanly :
    ∃ server, run Sample.config (opening .empty) Sample.deserted = some server ∧
      (server.receiptsOf 5).length = 2 ∧ (server.receiptsOf 6).length = 2 ∧
      server.database.matchRows.map (·.driverId) = [Sample.driver.subject.text] ∧
      AbandonsCleanly Sample.config .empty Sample.deserted server := by
  have left : ((run Sample.config (opening .empty) Sample.deserted).map fun server =>
      ((server.receiptsOf 5).length, (server.receiptsOf 6).length,
        server.database.matchRows.map (·.driverId))) =
        some (2, 2, [Sample.driver.subject.text]) := by
    decide +kernel
  obtain ⟨server, ran, found⟩ := Option.map_eq_some_iff.mp left
  obtain ⟨asked, found⟩ := Prod.mk.inj found
  obtain ⟨askedToo, stored⟩ := Prod.mk.inj found
  exact ⟨server, ran, asked, askedToo, stored, calls_abandoned_cleanly ran⟩

end Server

end Carpool
