import Carpool.Proofs.Server
import Carpool.Proofs.Store.Steps

/-!
# One job after the other

Every call has at most one job with the connection, and waits for it or has been
left.  The jobs that have ended were each carried out in one go, for a caller
with some patience, on the contents that the one before it left.
-/

namespace Carpool

open Store

namespace Server

variable {config : ServerConfig} {server after : Server} {event : Event}

theorem put_slots (server : Server) (number other : Nat) (slot : Slot) :
    (server.put number slot).slots other =
      if other = number then some slot else server.slots other := by
  exact Function.update_apply server.slots number (some slot) other

/-- A call waits for its job, or nobody waits for it any more. -/
def Holds (server : Server) (number : Nat) (errand : Errand) : Prop :=
  server.slots number = some ⟨errand, .waiting⟩ ∨ server.slots number = some ⟨errand, .left⟩

def Knows (server : Server) (number : Nat) (errand : Errand) : Prop :=
  ∃ standing, server.slots number = some ⟨errand, standing⟩

theorem Holds.knows {number : Nat} {errand : Errand} (holds : server.Holds number errand) :
    server.Knows number errand := by
  rcases holds with waiting | left
  · exact ⟨_, waiting⟩
  · exact ⟨_, left⟩

theorem Knows.errand_eq {number : Nat} {errand other : Errand} {standing : Standing other.Reply}
    (knows : server.Knows number errand)
    (found : server.slots number = some ⟨other, standing⟩) : other = errand := by
  obtain ⟨_, known⟩ := knows
  exact (Slot.mk.inj (Option.some.inj (found.symm.trans known))).1

/-- A call that is put back with the errand that it had is known as before, and
so are all others. -/
theorem Knows.put {number other : Nat} {errand : Errand} {slot : Slot}
    (knows : server.Knows number errand)
    (fits : ∀ known, server.Knows other known → slot.errand = known) :
    (server.put other slot).Knows number errand := by
  rw [Knows, put_slots]
  split
  · rename_i own
    obtain rfl := fits errand (own ▸ knows)
    exact ⟨slot.standing, rfl⟩
  · exact knows

theorem Holds.not_going {number : Nat} {errand other : Errand} {rest : Call other.Reply}
    (holds : server.Holds number errand) :
    server.slots number ≠ some ⟨other, .going rest⟩ := by
  intro going
  rcases holds with waiting | left
  · rw [waiting] at going
    cases going
  · rw [left] at going
    cases going

/-- The calls are known whose jobs are with the connection or have ended, and
none of them asks anything else while it has a job there. -/
structure Orderly (server : Server) : Prop where
  distinct : (server.tickets.map Ticket.number).Nodup
  held : ∀ ticket ∈ server.tickets, server.Holds ticket.number ticket.errand
  known : ∀ receipt ∈ server.receipts, server.Knows receipt.number receipt.errand

theorem Orderly.opening (database : Database) : (opening database).Orderly where
  distinct := .nil
  held ticket member := by cases member
  known receipt member := by cases member

theorem Orderly.apart (orderly : server.Orderly) {number : Nat} {errand : Errand}
    {rest : Call errand.Reply} (going : server.slots number = some ⟨errand, .going rest⟩)
    {ticket : Ticket} (member : ticket ∈ server.tickets) : ticket.number ≠ number := by
  rintro rfl
  exact (orderly.held ticket member).not_going going

theorem Orderly.put (orderly : server.Orderly) {number : Nat} {slot : Slot}
    (fits : ∀ errand, server.Knows number errand → slot.errand = errand)
    (holds : ∀ ticket ∈ server.tickets, ticket.number = number →
      (server.put number slot).Holds number ticket.errand) :
    (server.put number slot).Orderly where
  distinct := orderly.distinct
  held ticket member := by
    by_cases own : ticket.number = number
    · rw [own]
      exact holds ticket member own
    · rw [Holds, put_slots, if_neg own]
      exact orderly.held ticket member
  known receipt member := (orderly.known receipt member).put fits

theorem Orderly.put_going (orderly : server.Orderly) {number : Nat} {errand : Errand}
    {rest next : Call errand.Reply}
    (going : server.slots number = some ⟨errand, .going rest⟩) :
    (server.put number ⟨errand, .going next⟩).Orderly := by
  refine orderly.put (fun _ knows => knows.errand_eq going) fun ticket member own => ?_
  exact absurd own (orderly.apart going member)

theorem mem_tickets_of_work {work : Work} (working : server.work = some work) :
    work.ticket ∈ server.tickets := by
  rw [tickets, working]
  exact List.mem_cons_self

theorem tickets_begun {ticket : Ticket} {queue : List Ticket} (idle : server.work = none)
    (queued : server.queue = ticket :: queue) :
    tickets { server with queue, work := some (ticket.begin server.database) } =
      server.tickets := by
  rw [tickets, tickets, idle, queued]
  rfl

theorem tickets_goesOn {work : Work} (working : server.work = some work) (database : Database)
    (rest : Write (Except StoreError work.ticket.job.Result)) (pending : Option Database) :
    tickets { server with database, work := some { work with rest, pending } } =
      server.tickets := by
  rw [tickets, tickets, working]
  rfl

theorem settled_begun (idle : server.work = none) (ticket : Ticket) (queue : List Ticket) :
    settled { server with queue, work := some (ticket.begin server.database) } =
      server.settled := by
  rw [settled, settled, idle]
  rfl

theorem settled_goesOn {work : Work} (working : server.work = some work) (database : Database)
    (rest : Write (Except StoreError work.ticket.job.Result)) (pending : Option Database) :
    settled { server with database, work := some { work with rest, pending } } =
      server.settled := by
  rw [settled, settled, working]

theorem settled_of_idle (idle : server.work = none) : server.settled = server.database := by
  rw [settled, idle]

theorem settled_of_work {work : Work} (working : server.work = some work) :
    server.settled = work.before := by
  rw [settled, working]

theorem tickets_finish {work : Work} (working : server.work = some work)
    (answer : Option (Except StoreError work.ticket.job.Result)) (database : Database) :
    server.tickets = work.ticket :: (server.finish work answer database).tickets := by
  rw [tickets, tickets, working]
  rfl

/-- The jobs that wait are not of the call whose job is under way. -/
theorem Orderly.elsewhere (orderly : server.Orderly) {work : Work}
    (working : server.work = some work) {ticket : Ticket} (queued : ticket ∈ server.queue) :
    work.ticket.number ≠ ticket.number := by
  have distinct := orderly.distinct
  rw [tickets, working, List.map_append] at distinct
  exact fun same => (List.nodup_cons.mp distinct).1 (same ▸ List.mem_map_of_mem queued)

/-- The end of a job changes no call but the one that is answered. -/
theorem finish_slots (server : Server) (work : Work)
    (answer : Option (Except StoreError work.ticket.job.Result)) (database : Database)
    (number : Nat) :
    (server.finish work answer database).slots number = server.slots number ∨
      server.isHere number = true ∧ number = work.ticket.number ∧ ∃ result, answer = some result ∧
        (server.finish work answer database).slots number =
          some ⟨work.ticket.errand, .going (work.ticket.next result)⟩ := by
  change server.deliver work.ticket answer number = _ ∨ _ ∧ _ ∧ ∃ result, _ ∧
    server.deliver work.ticket answer number = _
  cases answer with
  | none => exact .inl rfl
  | some result =>
      rw [deliver]
      split
      · rename_i here
        rw [Function.update_apply]
        split
        · subst number
          exact .inr ⟨here, rfl, result, rfl, rfl⟩
        · exact .inl rfl
      · exact .inl rfl

/-- The answer to a call does not change its errand. -/
theorem Knows.finish {work : Work} {number : Nat} {errand : Errand}
    (knows : server.Knows number errand)
    (caller : server.Knows work.ticket.number work.ticket.errand)
    (answer : Option (Except StoreError work.ticket.job.Result)) (database : Database) :
    (server.finish work answer database).Knows number errand := by
  obtain same | ⟨-, rfl, result, -, delivered⟩ := server.finish_slots work answer database number
  · rw [Knows, same]
    exact knows
  · rw [Knows, delivered]
    obtain ⟨standing, found⟩ := caller
    obtain rfl := knows.errand_eq found
    exact ⟨_, rfl⟩

theorem Orderly.step (orderly : server.Orderly) (stepped : step config server event = some after) :
    after.Orderly := by
  cases stepped_of_step stepped with
  | @arrived number errand free =>
      have unknown {other : Errand} : ¬server.Knows number other := by
        rintro ⟨standing, found⟩
        rw [free] at found
        contradiction
      refine orderly.put (fun _ knows => absurd knows unknown) fun ticket member own => ?_
      exact absurd (own ▸ (orderly.held ticket member).knows) unknown
  | @left number slot found =>
      refine orderly.put (fun _ knows => knows.errand_eq found) fun ticket member own => ?_
      have knows : server.Knows number ticket.errand := own ▸ (orderly.held ticket member).knows
      have same := knows.errand_eq found
      rw [Holds, put_slots, if_pos rfl, same]
      exact .inr rfl
  | @issued number fresh errand job next asks =>
      refine ⟨?_, fun ticket member => ?_, fun receipt member => ?_⟩
      · rw [tickets, ← List.append_assoc, List.map_append]
        refine List.Nodup.append orderly.distinct (by simp) ?_
        intro held member new
        obtain ⟨ticket, listed, rfl⟩ := List.mem_map.mp member
        exact orderly.apart asks listed (by simpa using new)
      · rw [tickets, ← List.append_assoc] at member
        rcases List.mem_append.mp member with old | new
        · rw [Holds, put_slots, if_neg (orderly.apart asks old)]
          exact orderly.held ticket old
        · obtain rfl := List.mem_singleton.mp new
          rw [Holds, put_slots, if_pos rfl]
          exact .inl rfl
      · exact (orderly.known receipt member).put fun _ knows => knows.errand_eq asks
  | told now asks => exact orderly.put_going asks
  | reported reply asks => exact orderly.put_going asks
  | begun idle queued =>
      have same := tickets_begun idle queued
      exact ⟨same ▸ orderly.distinct, fun ticket member => orderly.held ticket (same ▸ member),
        orderly.known⟩
  | @goesOn work rest later working advanced =>
      have same := tickets_goesOn working later.permanent rest later.pending
      exact ⟨same ▸ orderly.distinct, fun ticket member => orderly.held ticket (same ▸ member),
        orderly.known⟩
  | @finished work ending database working advanced =>
      have others := tickets_finish working ending.answer? database
      have distinct := orderly.distinct
      rw [others, List.map_cons, List.nodup_cons] at distinct
      have caller := (orderly.held work.ticket (mem_tickets_of_work working)).knows
      refine ⟨distinct.2, fun ticket member => ?_, fun receipt member => ?_⟩
      · obtain same | ⟨-, own, -⟩ :=
          server.finish_slots work ending.answer? database ticket.number
        · rw [Holds, same]
          exact orderly.held ticket (others ▸ List.mem_cons_of_mem _ member)
        · exact absurd own.symm (orderly.elsewhere working member)
      · rcases List.mem_append.mp member with old | new
        · exact (orderly.known receipt old).finish caller _ _
        · obtain rfl := List.mem_singleton.mp new
          exact caller.finish caller _ _

/-- The job under way has come by its own steps to what is left of it. -/
structure Sound (work : Work) (present : Bool) (database : Database) : Prop where
  leads : ((work.ticket.job.plan work.ticket.fresh).steps work.before).Leads work.before present
    work.rest ⟨database, work.pending⟩
  guarded : work.rest.Guarded work.pending.isSome
  /-- Before its last check a job has made nothing permanent. -/
  withheld : work.rest.MeetsCheck → database = work.before

theorem Sound.begin (ticket : Ticket) (present : Bool) (database : Database) :
    Sound (ticket.begin database) present database where
  leads := .start
  guarded := (Job.steps_guarded ticket.job ticket.fresh database).1
  withheld _ := rfl

theorem Sound.leave {work : Work} {present : Bool} {database : Database}
    (sound : Sound work present database) : Sound work false database :=
  { sound with leads := sound.leads.leave }

theorem Sound.goesOn {work : Work} {present : Bool} {database : Database}
    {rest : Write (Except StoreError work.ticket.job.Result)} {later : Connection}
    (sound : Sound work present database)
    (advanced : work.rest.advance present ⟨database, work.pending⟩ = .goesOn rest later) :
    Sound { work with rest, pending := later.pending } present later.permanent where
  leads := sound.leads.goesOn advanced
  guarded := (sound.guarded.goesOn advanced).1
  withheld meets := by
    obtain ⟨metBefore, same⟩ := (sound.guarded.goesOn advanced).2 meets
    exact same.trans (sound.withheld metBefore)

/-- A job that ends has been carried out in one go, for a caller with some
patience. -/
theorem Sound.ended {work : Work} {present : Bool} {database after : Database}
    {ending : Ending (Except StoreError work.ticket.job.Result)}
    (sound : Sound work present database)
    (advanced : work.rest.advance present ⟨database, work.pending⟩ = .ended ending after) :
    ∃ patience, work.ticket.job.runWhile work.ticket.fresh patience work.before =
      (ending.answer?, after) := by
  obtain ⟨patience, ran⟩ := sound.leads.ended advanced
  exact ⟨patience, by rw [Job.runWhile_steps, ran]⟩

/-- Each job found the contents that the one before it left. -/
def Chained : Database → List Receipt → Database → Prop
  | first, [], last => last = first
  | first, receipt :: receipts, last =>
      receipt.before = first ∧ Chained receipt.after receipts last

theorem Chained.append {first last : Database} {receipts : List Receipt} {receipt : Receipt}
    (chained : Chained first receipts last) (found : receipt.before = last) :
    Chained first (receipts ++ [receipt]) receipt.after := by
  induction receipts generalizing first with
  | nil =>
      obtain rfl : last = first := chained
      exact ⟨found, rfl⟩
  | cons earlier receipts ih => exact ⟨chained.1, ih chained.2⟩

/-- The connection does nothing but carry out the jobs, one after the other. -/
structure CarriedOut (start : Database) (server : Server) : Prop where
  orderly : server.Orderly
  ran : ∀ receipt ∈ server.receipts, ∃ patience,
    receipt.job.runWhile receipt.fresh patience receipt.before = (receipt.answer, receipt.after)
  chained : Chained start server.receipts server.settled
  underWay : ∀ work, server.work = some work →
    Sound work (server.isHere work.ticket.number) server.database

theorem CarriedOut.opening (start : Database) : CarriedOut start (opening start) where
  orderly := .opening start
  ran receipt member := by cases member
  chained := rfl
  underWay work working := by cases working

theorem isHere_put_other {number other : Nat} {slot : Slot} (different : other ≠ number) :
    (server.put number slot).isHere other = server.isHere other := by
  rw [isHere, put_slots, if_neg different, isHere]

/-- A step of a call, and not of the connection, can at most take the caller of
the job away that is under way. -/
theorem CarriedOut.aside {start : Database} (carried : CarriedOut start server)
    (orderly : after.Orderly) (database : after.database = server.database)
    (work : after.work = server.work) (receipts : after.receipts = server.receipts)
    (here : ∀ work, server.work = some work →
      after.isHere work.ticket.number = server.isHere work.ticket.number ∨
        after.isHere work.ticket.number = false) : CarriedOut start after where
  orderly := orderly
  ran := receipts ▸ carried.ran
  chained := by
    have chained := carried.chained
    rw [settled] at chained ⊢
    rw [work, database, receipts]
    exact chained
  underWay current working := by
    rw [work] at working
    have sound := carried.underWay current working
    rw [database]
    rcases here current working with same | gone
    · rw [same]
      exact sound
    · rw [gone]
      exact sound.leave

theorem CarriedOut.step {start : Database} (carried : CarriedOut start server)
    (stepped : step config server event = some after) : CarriedOut start after := by
  have orderly := carried.orderly.step stepped
  have going {number : Nat} {errand : Errand} {rest : Call errand.Reply} {slot : Slot}
      (asks : server.slots number = some ⟨errand, .going rest⟩) (work : Work)
      (working : server.work = some work) :
      (server.put number slot).isHere work.ticket.number = server.isHere work.ticket.number := by
    apply isHere_put_other
    exact carried.orderly.apart asks (mem_tickets_of_work working)
  cases stepped_of_step stepped with
  | @arrived number errand free =>
      refine carried.aside orderly rfl rfl rfl fun work working => .inl ?_
      apply isHere_put_other
      rintro rfl
      obtain ⟨standing, found⟩ :=
        (carried.orderly.held work.ticket (mem_tickets_of_work working)).knows
      rw [free] at found
      contradiction
  | @left number slot found =>
      refine carried.aside orderly rfl rfl rfl fun work working => ?_
      by_cases own : work.ticket.number = number
      · right
        rw [isHere, put_slots, if_pos own]
      · exact .inl (isHere_put_other own)
  | issued fresh asks =>
      exact carried.aside orderly rfl rfl rfl fun work working => .inl (going asks work working)
  | told now asks =>
      exact carried.aside orderly rfl rfl rfl fun work working => .inl (going asks work working)
  | reported reply asks =>
      exact carried.aside orderly rfl rfl rfl fun work working => .inl (going asks work working)
  | begun idle queued =>
      refine ⟨orderly, carried.ran, settled_begun idle _ _ ▸ carried.chained, ?_⟩
      intro work working
      obtain rfl := Option.some.inj working
      exact .begin _ _ _
  | goesOn working advanced =>
      refine ⟨orderly, carried.ran, settled_goesOn working _ _ _ ▸ carried.chained, ?_⟩
      intro work same
      obtain rfl := Option.some.inj same
      exact (carried.underWay _ working).goesOn advanced
  | finished working advanced =>
      have sound := carried.underWay _ working
      refine ⟨orderly, fun receipt member => ?_, ?_, fun work idle => by cases idle⟩
      · rcases List.mem_append.mp member with old | new
        · exact carried.ran receipt old
        · obtain rfl := List.mem_singleton.mp new
          exact sound.ended advanced
      · exact carried.chained.append (settled_of_work working).symm

/-- Whatever happens, the jobs are carried out in order. -/
theorem carriedOut {start : Database} {events : List Event}
    (ran : run config (opening start) events = some server) : CarriedOut start server := by
  refine run_induct ran (.opening start) ?_
  intro middle event after _ carried stepped
  exact carried.step stepped

end Server

end Carpool
