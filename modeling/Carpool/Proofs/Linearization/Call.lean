import Carpool.Proofs.Alone
import Carpool.Proofs.Store.Evolution

/-!
# Calls that take effect at once

Among other calls, a call is pending until the answer to one of its questions
settles its result.  It then takes effect as if it ran alone at that moment, and
its other questions change nothing.
-/

namespace Carpool

open Store

namespace Call

variable {α : Type}

/-- Nothing that is left of a call changes the contents or its result. -/
def Settled (policy : CompletionPolicy) (result : α) : Call α → List Given → Database → Prop
  | .done settled, _, _ => settled = result
  | .ask _ _, [], _ => True
  | .ask (.store job) next, given :: future, known =>
      ∀ now answer after, known.Evolves policy now → job.DrawsUnused given.fresh now →
        job.runWhile given.fresh given.patience now = (some answer, after) →
        after = now ∧ Settled policy result (next answer) future now
  | .ask .clock next, given :: future, known =>
      Settled policy result (next given.fresh.now) future known
  | .ask (.introspect _) next, given :: future, known =>
      Settled policy result (next given.reply) future known

/-- What is left of a call that has yet to take effect.  Run alone at some
moment, all of the call would do what `alone` says; `asked` tells whether it has
asked the store already. -/
def Pending (policy : CompletionPolicy) (alone : Database → Option (α × Database)) :
    Call α → Bool → List Given → Database → Prop
  | .done _, _, _, _ => False
  | .ask _ _, _, [], _ => True
  | .ask (.store job) next, _, given :: future, known =>
      ∀ now answer after, known.Evolves policy now → job.DrawsUnused given.fresh now →
        job.runWhile given.fresh given.patience now = (some answer, after) →
        after = now ∧ Pending policy alone (next answer) true future now ∨
          ∃ result, alone now = some (result, after) ∧
            Settled policy result (next answer) future after
  | .ask .clock next, asked, given :: future, known =>
      asked = false ∧
        (Pending policy alone (next given.fresh.now) false future known ∨
          ∃ result, next given.fresh.now = .done result ∧
            ∀ now, alone now = some (result, now))
  | .ask (.introspect _) _, _, _ :: _, _ => False

variable {policy : CompletionPolicy} {result : α} {call : Call α} {future : List Given}
  {alone : Database → Option (α × Database)} {asked : Bool} {known now : Database}

theorem Settled.later (settled : call.Settled policy result future known)
    (evolved : known.Evolves policy now) : call.Settled policy result future now := by
  induction call generalizing future known with
  | done settledResult => exact settled
  | ask query next ih =>
      cases future with
      | nil => trivial
      | cons given future =>
          cases query with
          | store job =>
              intro later answer after evolvedOn
              exact settled later answer after (evolved.trans evolvedOn)
          | clock => exact ih given.fresh.now settled evolved
          | introspect token => exact ih given.reply settled evolved

theorem Pending.later (pending : call.Pending policy alone asked future known)
    (evolved : known.Evolves policy now) : call.Pending policy alone asked future now := by
  induction call generalizing asked future known with
  | done result => exact pending
  | ask query next ih =>
      cases future with
      | nil => trivial
      | cons given future =>
          cases query with
          | store job =>
              intro later answer after evolvedOn
              exact pending later answer after (evolved.trans evolvedOn)
          | clock =>
              refine ⟨pending.1, pending.2.imp_left fun waiting => ?_⟩
              exact ih given.fresh.now waiting evolved
          | introspect token => exact pending

/-! ## Calls from their start -/

/-- Begun at any moment, a call is pending, for callers who stay. -/
def Atomic (policy : CompletionPolicy) (call : Call α) : Prop :=
  ∀ all known, known.WellFormed → (∀ given ∈ all, given.patience = none) →
    call.Pending policy (call.alone all) false all known

/-- A question has just been answered, without any change: it has settled the
call, or the call goes on. -/
def GoesOn (policy : CompletionPolicy) (alone : Database → Option (α × Database))
    (future : List Given) (now : Database) (call : Call α) : Prop :=
  call.Pending policy alone true future now ∨
    ∃ result, alone now = some (result, now) ∧ call.Settled policy result future now

/-- From some moment on, what is left of the call is all that is left when it
runs alone. -/
def Follows (policy : CompletionPolicy) (alone : Database → Option (α × Database))
    (future : List Given) (now : Database) (call : Call α) : Prop :=
  ∀ later, now.Evolves policy later → alone later = call.alone future later

theorem GoesOn.done (formed : now.WellFormed)
    (follows : (Call.done result).Follows policy alone future now) :
    (Call.done result).GoesOn policy alone future now :=
  .inr ⟨result, follows now (.refl formed), rfl⟩

theorem GoesOn.ite {condition : Prop} [Decidable condition] {first second : Call α}
    (follows : (if condition then first else second).Follows policy alone future now)
    (yes : condition → first.Follows policy alone future now →
      first.GoesOn policy alone future now)
    (no : ¬condition → second.Follows policy alone future now →
      second.GoesOn policy alone future now) :
    (if condition then first else second).GoesOn policy alone future now := by
  by_cases holds : condition
  · rw [if_pos holds] at follows ⊢
    exact yes holds follows
  · rw [if_neg holds] at follows ⊢
    exact no holds follows

theorem Atomic.of_shape {shape : Call α} (same : call = shape) (atomic : shape.Atomic policy) :
    call.Atomic policy :=
  same ▸ atomic

theorem Atomic.of_clock {next : Instant → Call α}
    (goesOn : ∀ now, (∃ result, next now = .done result) ∨ (next now).Atomic policy) :
    (Call.ask .clock next).Atomic policy := by
  intro all known formed patient
  cases all with
  | nil => trivial
  | cons given future =>
      refine ⟨rfl, ?_⟩
      rcases goesOn given.fresh.now with ⟨result, done⟩ | atomic
      · refine .inr ⟨result, done, fun now => ?_⟩
        change (next given.fresh.now).alone future now = _
        rw [done]
        rfl
      · exact .inl (atomic future known formed fun given member =>
          patient given (List.mem_cons_of_mem _ member))

theorem Atomic.of_last {job : Job} {next : Except StoreError job.Result → Call α}
    (ends : ∀ answer, ∃ result, next answer = .done result) :
    (Call.ask (.store job) next).Atomic policy := by
  intro all known formed patient
  cases all with
  | nil => trivial
  | cons given future =>
      intro now answer after evolved unused ran
      obtain ⟨result, done⟩ := ends answer
      refine .inr ⟨result, ?_, ?_⟩
      · refine (alone_store ran).trans ?_
        rw [done]
        rfl
      · rw [done]
        rfl

section Attempts

variable {ε : Type} {wrap : StoreError → ε}

/-- A write that ends the call takes effect when it is carried out, whatever
happened since the lookup before it. -/
theorem GoesOn.close (job : Job) {alone : Database → Option (Except ε job.Result × Database)}
    (follows : (Attempt.close wrap job).Follows policy alone future now) :
    (Attempt.close wrap job).GoesOn policy alone future now := by
  refine .inl ?_
  cases future with
  | nil => trivial
  | cons given future =>
      intro later answer after evolved unused ran
      exact .inr ⟨_, (follows later evolved).trans (alone_store ran), rfl⟩

/-- A call that looks something up first.  Whatever it finds later is what it
would find alone. -/
theorem Atomic.of_look {job : Job} {look : Database → Except StoreError job.Result}
    {next : job.Result → Call (Except ε α)} (planned : ∀ fresh, job.plan fresh = .read look)
    (goesOn : ∀ alone future now found, (∀ given ∈ future, given.patience = none) →
      now.WellFormed → look now = .ok found →
      (∀ later other, look later = .ok other → alone later = (next other).alone future later) →
      (next found).GoesOn policy alone future now) :
    (Attempt.go wrap job next).Atomic policy := by
  intro all known formed patient
  cases all with
  | nil => trivial
  | cons given future =>
      intro now answer after evolved unused ran
      obtain ⟨rfl, rfl⟩ := Job.of_read (planned given.fresh) ran
      cases looked : look after with
      | error error =>
          refine .inr ⟨_, Attempt.look_alone_error (planned given.fresh) looked, ?_⟩
          rfl
      | ok found =>
          have patientOn : ∀ given ∈ future, given.patience = none := fun given member =>
            patient given (List.mem_cons_of_mem _ member)
          rcases goesOn ((Attempt.go wrap job next).alone (given :: future)) future after found
              patientOn evolved.grown.formed looked (fun later other lookedLater =>
                Attempt.look_alone_ok (planned given.fresh) lookedLater rfl)
            with pending | ⟨result, same, settled⟩
          · exact .inl ⟨rfl, pending⟩
          · exact .inr ⟨result, same, settled⟩

end Attempts

end Call

end Carpool
