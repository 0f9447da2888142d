import Carpool.Proofs.Server.Order
import Mathlib.Data.List.Induction

/-!
# As if a call had never been made

A call whose jobs all leave the contents as they found them can be taken out of
a run.  The rest of the run then comes to the same end without it: the same
contents, and all other calls as they were.
-/

namespace Carpool

open Store

namespace Server

def Event.Concerns (number : Nat) : Event → Prop
  | .arrive other _ | .leave other | .issue other _ | .tell other _ | .report other _ =>
      other = number
  | .work => False

/-- The server without one of its calls.  Of a job of that call that is under
way, nothing has been carried out. -/
def without (server : Server) (number : Nat) : Server where
  database :=
    match server.work with
    | some work => if work.ticket.number = number then work.before else server.database
    | none => server.database
  slots := Function.update server.slots number none
  queue := server.queue.filter fun ticket => ticket.number ≠ number
  work :=
    match server.work with
    | some work => if work.ticket.number = number then none else some work
    | none => none
  receipts := server.receipts.filter fun receipt => receipt.number ≠ number

variable {config : ServerConfig} {server after : Server} {event : Event} {number : Nat}

theorem without_opening (database : Database) (number : Nat) :
    (opening database).without number = opening database := by
  simp [without, opening]

theorem without_put (slot : Slot) :
    (server.put number slot).without number = server.without number := by
  simp [without, put]

theorem without_put_other {other : Nat} (different : other ≠ number) (slot : Slot) :
    (server.put other slot).without number = (server.without number).put other slot := by
  simp only [without, put]
  rw [Function.update_comm different]

theorem without_slots {other : Nat} (different : other ≠ number) :
    (server.without number).slots other = server.slots other := by
  exact Function.update_of_ne different _ _

theorem without_isHere {other : Nat} (different : other ≠ number) :
    (server.without number).isHere other = server.isHere other := by
  rw [isHere, isHere, without_slots different]

theorem without_deliver {ticket : Ticket} (different : ticket.number ≠ number)
    (answer : Option (Except StoreError ticket.job.Result)) :
    (server.without number).deliver ticket answer =
      Function.update (server.deliver ticket answer) number none := by
  cases answer with
  | none => rfl
  | some result =>
      rw [deliver, deliver, without_isHere different]
      split
      · exact (Function.update_comm different _ _ _).symm
      · rfl

theorem without_deliver_own {ticket : Ticket}
    (answer : Option (Except StoreError ticket.job.Result)) :
    Function.update (server.deliver ticket answer) ticket.number none =
      Function.update server.slots ticket.number none := by
  cases answer with
  | none => rfl
  | some result =>
      rw [deliver]
      split
      · exact Function.update_idem _ _ _
      · rfl

theorem without_work {work : Work} (different : work.ticket.number ≠ number)
    (working : server.work = some work) :
    (server.without number).work = some work ∧
      (server.without number).database = server.database := by
  simp [without, working, different]

/-- What a call does by itself is also done without the one that is taken out,
or it is that one and does not show. -/
theorem put_without {other : Nat} {slot : Slot} (concerns : event.Concerns number ↔ other = number)
    (stepped : other ≠ number →
      step config (server.without number) event = some ((server.without number).put other slot)) :
    (server.put other slot).without number = server.without number ∨
      ¬event.Concerns number ∧
        step config (server.without number) event =
          some ((server.put other slot).without number) := by
  by_cases own : other = number
  · subst own
    exact .inl (without_put slot)
  · refine .inr ⟨fun concerned => own (concerns.mp concerned), ?_⟩
    rw [without_put_other own]
    exact stepped own

/-- A step is also one of the rest of the server, or it does not show there. -/
theorem step_without (stepped : step config server event = some after)
    (unchanged : ∀ receipt ∈ after.receipts, receipt.number = number →
      receipt.after = receipt.before) :
    after.without number = server.without number ∨
      ¬event.Concerns number ∧
        step config (server.without number) event = some (after.without number) := by
  cases stepped_of_step stepped with
  | arrived errand free => exact put_without .rfl fun own => by rw [step, without_slots own, free]
  | told now asks => exact put_without .rfl fun own => by rw [step, without_slots own, asks]
  | reported reply asks => exact put_without .rfl fun own => by rw [step, without_slots own, asks]
  | left found =>
      refine put_without .rfl fun own => ?_
      rw [step, without_slots own, found]
      rfl
  | @issued other fresh errand job next asks =>
      by_cases own : other = number
      · subst own
        left
        simp [without, put]
      · refine .inr ⟨own, ?_⟩
        rw [step, without_slots own, asks]
        simp [without, put, own, Function.update_comm own]
  | @begun ticket queue idle queued =>
      by_cases own : ticket.number = number
      · left
        simp [without, Ticket.begin, own, idle, queued]
      · refine .inr ⟨id, ?_⟩
        simp [step, without, Ticket.begin, own, idle, queued]
  | @goesOn work rest later working advanced =>
      by_cases own : work.ticket.number = number
      · left
        simp [without, own, working]
      · refine .inr ⟨id, ?_⟩
        obtain ⟨workingToo, database⟩ := without_work own working
        rw [step, workingToo]
        simp only [proceed, without_isHere own, database, advanced]
        simp [without, own]
  | @finished work ending database working advanced =>
      by_cases own : work.ticket.number = number
      · -- the contents go back to where the job began, and that is where it left them
        left
        have same := unchanged (work.receipt ending.answer? database)
          (List.mem_append_right _ (List.mem_singleton_self _)) own
        subst own
        simp only [without, finish, without_deliver_own]
        simp [working, Work.receipt]
        exact same
      · refine .inr ⟨id, ?_⟩
        obtain ⟨workingToo, contents⟩ := without_work own working
        rw [step, workingToo]
        simp only [proceed, without_isHere own, contents, advanced]
        rw [finish, without_deliver own]
        simp [without, finish, Work.receipt, own]

/-- A call whose jobs change nothing can be taken out of a run. -/
theorem run_without {start : Database} {events : List Event}
    (ran : run config (opening start) events = some server)
    (unchanged : ∀ receipt ∈ server.receipts, receipt.number = number →
      receipt.after = receipt.before) :
    ∃ others, others.Sublist events ∧ (∀ event ∈ others, ¬event.Concerns number) ∧
      run config (opening start) others = some (server.without number) := by
  -- from the end, as no job of a shorter run is missing from the records of the whole
  induction events using List.reverseRecOn generalizing server with
  | nil =>
      obtain rfl : opening start = server := by simpa [run] using ran
      refine ⟨[], .slnil, by simp, ?_⟩
      rw [without_opening]
      rfl
  | append_singleton events event ih =>
      rw [run_append] at ran
      obtain ⟨middle, ranFirst, stepped⟩ := Option.bind_eq_some_iff.mp ran
      have stepped : step config middle event = some server := by
        simpa [run] using stepped
      have past := (receipts_prefix_of_step stepped).subset
      obtain ⟨others, sublist, unconcerned, ranOthers⟩ :=
        ih ranFirst fun receipt member => unchanged receipt (past member)
      rcases step_without stepped unchanged with same | ⟨visible, steppedToo⟩
      · exact ⟨others, sublist.trans (List.sublist_append_left _ _), unconcerned, same ▸ ranOthers⟩
      · refine ⟨others ++ [event], sublist.append (.refl _), ?_, ?_⟩
        · intro other member
          rcases List.mem_append.mp member with old | new
          · exact unconcerned other old
          · rwa [List.mem_singleton.mp new]
        · rw [run_append, ranOthers]
          simpa [run] using steppedToo

end Server

end Carpool
