import Carpool.Proofs.Api.Shape

/-!
# Transcripts of calls

What a call has asked by some moment, and what it has been told.  How a call is
put together decides which transcripts it can have.
-/

namespace Carpool

open Store

/-- A question of a call with its answer. -/
inductive Exchange
  | store (job : Job) (answer : Except StoreError job.Result)
  | clock (now : Instant)
  | introspect (idToken : String) (reply : ProviderReply)

namespace Call

/-- By these exchanges a call comes to what is left of it. -/
inductive Leads {α : Type} : Call α → List Exchange → Call α → Prop
  | start {call : Call α} : Leads call [] call
  | store {job : Job} {next : Except StoreError job.Result → Call α} {later : List Exchange}
      {rest : Call α} (answer : Except StoreError job.Result)
      (leads : Leads (next answer) later rest) :
      Leads (.ask (.store job) next) (.store job answer :: later) rest
  | clock {next : Instant → Call α} {later : List Exchange} {rest : Call α} (now : Instant)
      (leads : Leads (next now) later rest) :
      Leads (.ask .clock next) (.clock now :: later) rest
  | introspect {token : String} {next : ProviderReply → Call α} {later : List Exchange}
      {rest : Call α} (reply : ProviderReply) (leads : Leads (next reply) later rest) :
      Leads (.ask (.introspect token) next) (.introspect token reply :: later) rest

variable {α β ε : Type} {transcript : List Exchange}

theorem leads_done_iff {result : α} {rest : Call α} :
    (Call.done result).Leads transcript rest ↔ transcript = [] ∧ rest = .done result := by
  constructor
  · intro leads
    cases leads
    exact ⟨rfl, rfl⟩
  · rintro ⟨rfl, rfl⟩
    exact .start

theorem Leads.trans {first middle last : Call α} {earlier later : List Exchange}
    (before : first.Leads earlier middle) (after : middle.Leads later last) :
    first.Leads (earlier ++ later) last := by
  induction before with
  | start => exact after
  | store answer _ ih => exact .store answer (ih after)
  | clock now _ ih => exact .clock now (ih after)
  | introspect reply _ ih => exact .introspect reply (ih after)

/-- A call whose result is changed asks what it asked before. -/
theorem Leads.of_map {change : α → β} {call : Call α} {rest : Call β}
    (leads : (call.map change).Leads transcript rest) :
    ∃ left, call.Leads transcript left ∧ rest = left.map change := by
  induction call generalizing transcript with
  | done result =>
      obtain ⟨rfl, rfl⟩ := leads_done_iff.mp leads
      exact ⟨_, .start, rfl⟩
  | ask query next ih =>
      cases leads with
      | start => exact ⟨_, .start, rfl⟩
      | store answer leads =>
          obtain ⟨left, came, rfl⟩ := ih answer leads
          exact ⟨left, .store answer came, rfl⟩
      | clock now leads =>
          obtain ⟨left, came, rfl⟩ := ih now leads
          exact ⟨left, .clock now came, rfl⟩
      | introspect reply leads =>
          obtain ⟨left, came, rfl⟩ := ih reply leads
          exact ⟨left, .introspect reply came, rfl⟩

/-! ## The building blocks of calls -/

variable {wrap : StoreError → ε} {job : Job}

theorem Leads.of_close {rest : Call (Except ε job.Result)}
    (leads : (Attempt.close wrap job).Leads transcript rest) :
    transcript = [] ∧ rest = Attempt.close wrap job ∨
      ∃ answer, transcript = [.store job answer] ∧ rest = .done (answer.mapError wrap) := by
  rw [Attempt.close] at leads
  cases leads with
  | start => exact .inl ⟨rfl, rfl⟩
  | store answer leads =>
      obtain ⟨rfl, rfl⟩ := leads_done_iff.mp leads
      exact .inr ⟨answer, rfl, rfl⟩

theorem Leads.of_go {next : job.Result → Call (Except ε α)} {rest : Call (Except ε α)}
    (leads : (Attempt.go wrap job next).Leads transcript rest) :
    transcript = [] ∧ rest = Attempt.go wrap job next ∨
      (∃ error, transcript = [.store job (.error error)] ∧ rest = .done (.error (wrap error))) ∨
      ∃ result later, transcript = .store job (.ok result) :: later ∧
        (next result).Leads later rest := by
  rw [Attempt.go] at leads
  cases leads with
  | start => exact .inl ⟨rfl, rfl⟩
  | store answer leads =>
      cases answer with
      | error error =>
          obtain ⟨rfl, rfl⟩ := leads_done_iff.mp leads
          exact .inr (.inl ⟨error, rfl, rfl⟩)
      | ok result => exact .inr (.inr ⟨result, _, rfl, leads⟩)

end Call

end Carpool
