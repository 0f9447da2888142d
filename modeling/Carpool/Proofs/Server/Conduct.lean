import Carpool.Proofs.Server.Order

/-!
# The conduct of calls

What is proved of one call, question by question and with other jobs carried out
in between, holds of all calls in every run of the server: of those that are
going on, of those whose job waits or is under way, and of those that have been
left.
-/

namespace Carpool

open Store

namespace Server

/-- What calls are held to.  It may rely on what is allowed to happen, on what
the contents are like, and on how others let them grow. -/
structure Conduct where
  allows : Event → Prop
  good : Database → Prop
  grows : Database → Database → Prop
  /-- How it stands with a call, by its number, the jobs that it has had and what
  is left of it. -/
  keeps : Nat → (errand : Errand) → List Receipt → Call errand.Reply → Database → Prop
  /-- What all its jobs together come to. -/
  tells : Nat → Errand → List Receipt → Prop

namespace Conduct

/-- What must be proved of a call when one of its jobs ends. -/
structure Carries (conduct : Conduct) (ticket : Ticket) (own : List Receipt)
    (before after : Database) (answer : Option (Except StoreError ticket.job.Result)) : Prop where
  good : conduct.good after
  grown : conduct.grows before after
  tells : conduct.tells ticket.number ticket.errand
    (own ++ [(ticket.begin before).receipt answer after])
  goesOn : ∀ result, answer = some result →
    conduct.keeps ticket.number ticket.errand
      (own ++ [(ticket.begin before).receipt answer after]) (ticket.next result) after

/-- Every call keeps to the conduct, question by question. -/
structure Lawful (conduct : Conduct) (config : ServerConfig) : Prop where
  begins : ∀ {number : Nat} {errand : Errand} {database : Database},
    conduct.allows (.arrive number errand) → conduct.good database →
    conduct.keeps number errand [] (errand.call config) database ∧ conduct.tells number errand []
  carries : ∀ {ticket : Ticket} {own : List Receipt} {patience : Patience}
    {before after : Database} {answer : Option (Except StoreError ticket.job.Result)},
    conduct.allows (.issue ticket.number ticket.fresh) → conduct.good before →
    conduct.keeps ticket.number ticket.errand own (.ask (.store ticket.job) ticket.next) before →
    ticket.job.runWhile ticket.fresh patience before = (answer, after) →
    conduct.Carries ticket own before after answer
  told : ∀ {number : Nat} {errand : Errand} {own : List Receipt}
    {next : Instant → Call errand.Reply} {database : Database} {now : Instant},
    conduct.allows (.tell number now) → conduct.good database →
    conduct.keeps number errand own (.ask .clock next) database →
    conduct.keeps number errand own (next now) database
  reported : ∀ {number : Nat} {errand : Errand} {own : List Receipt} {token : String}
    {next : ProviderReply → Call errand.Reply} {database : Database} {reply : ProviderReply},
    conduct.allows (.report number reply) →
    conduct.keeps number errand own (.ask (.introspect token) next) database →
    conduct.keeps number errand own (next reply) database
  later : ∀ {number : Nat} {errand : Errand} {own : List Receipt} {rest : Call errand.Reply}
    {before after : Database}, conduct.grows before after →
    conduct.keeps number errand own rest before → conduct.keeps number errand own rest after

structure Holds (conduct : Conduct) (server : Server) : Prop where
  good : conduct.good server.settled
  going : ∀ {number : Nat} {errand : Errand} {rest : Call errand.Reply},
    server.slots number = some ⟨errand, .going rest⟩ →
    conduct.keeps number errand (server.receiptsOf number) rest server.settled
  outstanding : ∀ ticket ∈ server.tickets,
    conduct.allows (.issue ticket.number ticket.fresh) ∧
      conduct.keeps ticket.number ticket.errand (server.receiptsOf ticket.number)
        (.ask (.store ticket.job) ticket.next) server.settled
  tells : ∀ {number : Nat} {slot : Slot}, server.slots number = some slot →
    conduct.tells number slot.errand (server.receiptsOf number)

variable {conduct : Conduct} {config : ServerConfig} {server after : Server} {event : Event}

theorem Holds.opening {database : Database} (good : conduct.good database) :
    conduct.Holds (opening database) where
  good := good
  going found := by cases found
  outstanding ticket member := by cases member
  tells found := by cases found

/-- A call asks no store job, and goes on. -/
theorem Holds.put (holds : conduct.Holds server) {number : Nat} {errand : Errand}
    {rest : Call errand.Reply} (tells : conduct.tells number errand (server.receiptsOf number))
    (keeps : conduct.keeps number errand (server.receiptsOf number) rest server.settled) :
    conduct.Holds (server.put number ⟨errand, .going rest⟩) where
  good := holds.good
  going {other _ _} found := by
    rw [put_slots] at found
    split at found
    · subst other
      cases found
      exact keeps
    · exact holds.going found
  outstanding := holds.outstanding
  tells {other _} found := by
    rw [put_slots] at found
    split at found
    · subst other
      obtain rfl := Option.some.inj found
      exact tells
    · exact holds.tells found

/-- Nobody goes on with a call that waits for its job or has been left. -/
theorem Holds.rest (holds : conduct.Holds server) {number : Nat} {slot : Slot} (errand : Errand)
    (found : server.slots number = some slot) (same : slot.errand = errand)
    {standing : Standing errand.Reply} (resting : ∀ rest, standing ≠ .going rest) :
    conduct.Holds (server.put number ⟨errand, standing⟩) where
  good := holds.good
  going {other _ _} going := by
    rw [put_slots] at going
    split at going
    · cases going
      exact absurd rfl (resting _)
    · exact holds.going going
  outstanding := holds.outstanding
  tells {other _} told := by
    rw [put_slots] at told
    split at told
    · subst other
      have tells := holds.tells found
      rw [same] at tells
      obtain rfl := Option.some.inj told
      exact tells
    · exact holds.tells told

theorem receiptsOf_finish (server : Server) (work : Work)
    (answer : Option (Except StoreError work.ticket.job.Result)) (database : Database)
    (number : Nat) :
    (server.finish work answer database).receiptsOf number =
      if work.ticket.number = number then
        server.receiptsOf number ++ [work.receipt answer database]
      else server.receiptsOf number := by
  rw [receiptsOf, receiptsOf, finish, List.filter_append]
  split <;> simp [Work.receipt, *]

theorem Holds.step {start : Database} (lawful : conduct.Lawful config)
    (carried : CarriedOut start server) (holds : conduct.Holds server)
    (allowed : conduct.allows event) (stepped : Server.step config server event = some after) :
    conduct.Holds after := by
  cases stepped_of_step stepped with
  | @arrived number errand free =>
      -- nobody has had a job under a number that is free
      have none : server.receiptsOf number = [] := by
        refine List.filter_eq_nil_iff.mpr fun receipt member own => ?_
        obtain ⟨standing, found⟩ := carried.orderly.known receipt member
        rw [of_decide_eq_true own, free] at found
        contradiction
      obtain ⟨keeps, tells⟩ := lawful.begins allowed holds.good
      exact holds.put (none ▸ tells) (none ▸ keeps)
  | left found => exact holds.rest _ found rfl (by simp)
  | told now asks =>
      exact holds.put (holds.tells asks) (lawful.told allowed holds.good (holds.going asks))
  | reported reply asks =>
      exact holds.put (holds.tells asks) (lawful.reported allowed (holds.going asks))
  | @issued number fresh errand job next asks =>
      have rest := @Holds.rest _ _ holds _ _ errand asks rfl .waiting (by simp)
      refine { rest with outstanding := fun ticket member => ?_ }
      rw [tickets, ← List.append_assoc] at member
      rcases List.mem_append.mp member with old | new
      · exact holds.outstanding ticket old
      · obtain rfl := List.mem_singleton.mp new
        exact ⟨allowed, holds.going asks⟩
  | @begun ticket queue idle queued =>
      have same := settled_begun idle ticket queue
      have listed := tickets_begun idle queued
      refine ⟨same ▸ holds.good, fun found => same ▸ holds.going found, fun ticket member => ?_,
        holds.tells⟩
      rw [same]
      exact holds.outstanding ticket (listed ▸ member)
  | @goesOn work rest later working advanced =>
      have same := settled_goesOn working later.permanent rest later.pending
      have listed := tickets_goesOn working later.permanent rest later.pending
      refine ⟨same ▸ holds.good, fun found => same ▸ holds.going found, fun ticket member => ?_,
        holds.tells⟩
      rw [same]
      exact holds.outstanding ticket (listed ▸ member)
  | @finished work ending database working advanced =>
      obtain ⟨patience, ran⟩ := (carried.underWay work working).ended advanced
      have before := settled_of_work working
      have held := carried.orderly.held work.ticket (mem_tickets_of_work working)
      have listed := tickets_finish working ending.answer? database
      obtain ⟨issued, asked⟩ := holds.outstanding work.ticket (mem_tickets_of_work working)
      have good := holds.good
      rw [before] at asked good
      have carries := lawful.carries issued good asked ran
      -- the other calls do not mind what this one has added
      have unconcerned {number : Nat} {errand : Errand} {rest : Call errand.Reply}
          (other : work.ticket.number ≠ number)
          (keeps : conduct.keeps number errand (server.receiptsOf number) rest server.settled) :
          conduct.keeps number errand
            ((server.finish work ending.answer? database).receiptsOf number) rest database := by
        rw [receiptsOf_finish, if_neg other]
        exact lawful.later carries.grown (before ▸ keeps)
      refine ⟨carries.good, fun {number errand rest} going => ?_, fun ticket member => ?_,
        fun {number slot} found => ?_⟩
      · obtain same | ⟨-, rfl, result, answered, delivered⟩ :=
          server.finish_slots work ending.answer? database number
        · rw [same] at going
          refine unconcerned ?_ (holds.going going)
          rintro rfl
          exact held.not_going going
        · rw [delivered] at going
          cases going
          rw [receiptsOf_finish, if_pos rfl]
          exact carries.goesOn result answered
      · obtain ⟨allowedToo, keeps⟩ :=
          holds.outstanding ticket (listed ▸ List.mem_cons_of_mem _ member)
        exact ⟨allowedToo, unconcerned (carried.orderly.elsewhere working member) keeps⟩
      · rw [receiptsOf_finish]
        split
        · rename_i own
          subst own
          rw [(held.knows.finish held.knows ending.answer? database).errand_eq found]
          exact carries.tells
        · rename_i other
          obtain same | ⟨-, own, -⟩ := server.finish_slots work ending.answer? database number
          · exact holds.tells (same ▸ found)
          · exact absurd own.symm other

/-- In every run all calls keep to a lawful conduct. -/
theorem Lawful.holds (lawful : conduct.Lawful config) {start : Database} {events : List Event}
    (good : conduct.good start) (allowed : ∀ event ∈ events, conduct.allows event)
    (ran : run config (Server.opening start) events = some server) : conduct.Holds server := by
  refine (run_induct (motive := fun server => CarriedOut start server ∧ conduct.Holds server)
    ran ⟨.opening start, .opening good⟩ ?_).2
  intro middle event after member ⟨carried, holds⟩ stepped
  exact ⟨carried.step stepped, holds.step lawful carried (allowed event member) stepped⟩

end Conduct

end Server

end Carpool
