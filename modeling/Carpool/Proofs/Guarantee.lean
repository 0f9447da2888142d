import Carpool.Proofs.Service.Shape
import Carpool.Proofs.Store.Growth
import Carpool.Proofs.Store.Reading
import Carpool.Proofs.System

/-!
# What a call relies on and guarantees

Between two questions of a call, other calls may extend the stored contents.
Relying on no more than that, a call guarantees that each of its store jobs is
granted at the moment it is carried out, and that its result fits what is stored
from then on.  The running system keeps the guarantees of all calls under way.
-/

namespace Carpool

open Store

variable {policy : CompletionPolicy} {α ε : Type}

namespace Call

/-- Last answered over some contents, a call only issues jobs that are granted
when they are carried out, and ends with results that keep fitting. -/
def Meets (policy : CompletionPolicy) (grant : Database → Job → Prop)
    (fits : Database → α → Prop) : Call α → Database → Prop
  | .done result, known => ∀ now, known.Extends policy now → fits now result
  | .ask (.store job) next, known =>
      ∀ now, known.Extends policy now →
        grant now job ∧
          ∀ fresh patience answer after,
            job.runWhile fresh patience now = (some answer, after) →
            Meets policy grant fits (next answer) after
  | .ask .clock next, known => ∀ now, Meets policy grant fits (next now) known
  | .ask (.introspect _) next, known => ∀ reply, Meets policy grant fits (next reply) known

variable {grant : Database → Job → Prop} {fits : Database → α → Prop}

/-- What others add in the meantime does no harm. -/
theorem Meets.later {call : Call α} {known now : Database}
    (meets : call.Meets policy grant fits known) (grown : known.Extends policy now) :
    call.Meets policy grant fits now := by
  induction call generalizing known with
  | done result =>
      intro later grownOn
      exact meets later (grown.trans grownOn)
  | ask query next ih =>
      cases query with
      | store job =>
          intro later grownOn
          exact meets later (grown.trans grownOn)
      | clock =>
          intro reading
          exact ih reading (meets reading) grown
      | introspect token =>
          intro reply
          exact ih reply (meets reply) grown

theorem Meets.ite {condition : Prop} [Decidable condition] {first second : Call α}
    {known : Database} (yes : condition → first.Meets policy grant fits known)
    (no : ¬condition → second.Meets policy grant fits known) :
    (if condition then first else second).Meets policy grant fits known := by
  split
  · exact yes ‹_›
  · exact no ‹_›

theorem Meets.close {wrap : StoreError → ε} {job : Job}
    {fits : Database → Except ε job.Result → Prop} {known : Database}
    (granted : ∀ now, known.Extends policy now → grant now job)
    (answers : ∀ now fresh patience answer after, known.Extends policy now →
      job.runWhile fresh patience now = (some answer, after) →
      ∀ later, after.Extends policy later → fits later (answer.mapError wrap)) :
    (Attempt.close wrap job).Meets policy grant fits known := by
  intro now grown
  refine ⟨granted now grown, ?_⟩
  intro fresh patience answer after ran later grownOn
  exact answers now fresh patience answer after grown ran later grownOn

theorem Meets.go {wrap : StoreError → ε} {job : Job} {next : job.Result → Call (Except ε α)}
    {fits : Database → Except ε α → Prop} {known : Database}
    (granted : ∀ now, known.Extends policy now → grant now job)
    (fails : ∀ now fresh patience error after, known.Extends policy now →
      job.runWhile fresh patience now = (some (.error error), after) →
      ∀ later, after.Extends policy later → fits later (.error (wrap error)))
    (goesOn : ∀ now fresh patience result after, known.Extends policy now →
      job.runWhile fresh patience now = (some (.ok result), after) →
      (next result).Meets policy grant fits after) :
    (Attempt.go wrap job next).Meets policy grant fits known := by
  intro now grown
  refine ⟨granted now grown, ?_⟩
  intro fresh patience answer after ran
  cases answer with
  | error error =>
      intro later grownOn
      exact fails now fresh patience error after grown ran later grownOn
  | ok result => exact goesOn now fresh patience result after grown ran

theorem Meets.look {wrap : StoreError → ε} {job : Job}
    {look : Database → Except StoreError job.Result} {next : job.Result → Call (Except ε α)}
    {fits : Database → Except ε α → Prop} {known : Database}
    (planned : ∀ fresh, job.plan fresh = .read look) (granted : ∀ now, grant now job)
    (fails : ∀ now error, now.WellFormed → look now = .error error →
      ∀ later, now.Extends policy later → fits later (.error (wrap error)))
    (goesOn : ∀ now result, now.WellFormed → look now = .ok result →
      (next result).Meets policy grant fits now) :
    (Attempt.go wrap job next).Meets policy grant fits known := by
  apply Meets.go
  · intro now grown
    exact granted now
  · intro now fresh patience error after grown ran
    obtain ⟨failed, rfl⟩ := Job.of_read (planned fresh) ran
    exact fails after error grown.formed failed.symm
  · intro now fresh patience result after grown ran
    obtain ⟨read, rfl⟩ := Job.of_read (planned fresh) ran
    exact goesOn after result grown.formed read.symm

end Call

/-! ## The guarantees of all calls -/

/-- For every operation, what its jobs must satisfy when they are carried out
and what its result must keep satisfying. -/
structure Contract where
  policy : CompletionPolicy
  grant : Operation → Database → Job → Prop
  fits : (operation : Operation) → Database → operation.Reply → Prop

namespace Contract

/-- A call under way keeps the contract. -/
def Kept (contract : Contract) (database : Database) (call : Running) : Prop :=
  call.rest.Meets contract.policy (contract.grant call.operation) (contract.fits call.operation)
    database

/-- Every operation keeps the contract, and the contract grants no job that the
services do not issue. -/
structure Lawful (contract : Contract) (setup : Setup) : Prop where
  permits : ∀ {operation : Operation} {database : Database} {job : Job},
    contract.grant operation database job → job.Permitted contract.policy
  keeps : ∀ (operation : Operation) {database : Database}, database.WellFormed →
    contract.Kept database (operation.start setup)

/-- The contract holds throughout a state of the system and its past. -/
structure Holds (contract : Contract) (system : System) : Prop where
  formed : system.database.WellFormed
  kept : ∀ call ∈ system.running, contract.Kept system.database call
  granted : ∀ entry ∈ system.history, contract.grant entry.operation entry.before entry.job
  formedBefore : ∀ entry ∈ system.history, entry.before.WellFormed
  effects : ∀ entry ∈ system.history,
    Effect entry.fresh entry.before entry.job entry.answer entry.after

variable {contract : Contract} {setup : Setup} {system after : System} {event : System.Event}

theorem Holds.initial : contract.Holds System.initial where
  formed := Database.WellFormed.empty
  kept call member := by cases member
  granted entry member := by cases member
  formedBefore entry member := by cases member
  effects entry member := by cases member

theorem Holds.asking (holds : contract.Holds system) {place : Nat} {call : Running}
    (asks : system.running[place]? = some call) : contract.Kept system.database call :=
  holds.kept call (List.mem_of_getElem? asks)

theorem Holds.grows (lawful : contract.Lawful setup) (holds : contract.Holds system)
    (stepped : System.step setup system event = some after) :
    system.database.Extends contract.policy after.database := by
  have unchanged : system.database.Extends contract.policy system.database :=
    .refl holds.formed
  cases System.stepped_of_step stepped with
  | arrived operation => exact unchanged
  | left place => exact unchanged
  | timed given asks => exact unchanged
  | introspected given asks => exact unchanged
  | answered given asks ran =>
      have granted := (holds.asking asks _ unchanged).1
      exact (Job.runWhile_effect ran).grows (lawful.permits granted) holds.formed
  | abandoned given asks ran =>
      have granted := (holds.asking asks _ unchanged).1
      exact (Job.runWhile_effect ran).grows (lawful.permits granted) holds.formed

theorem Holds.record (holds : contract.Holds system) (entry : Entry) {running : List Running}
    (before : entry.before = system.database)
    (grown : entry.before.Extends contract.policy entry.after)
    (effect : Effect entry.fresh entry.before entry.job entry.answer entry.after)
    (granted : contract.grant entry.operation entry.before entry.job)
    (kept : ∀ call ∈ running, contract.Kept entry.after call) :
    contract.Holds ⟨entry.after, running, system.history ++ [entry]⟩ where
  formed := grown.formed
  kept := kept
  granted other member := by
    rcases List.mem_append.mp member with old | new
    · exact holds.granted other old
    · rw [List.mem_singleton.mp new]
      exact granted
  formedBefore other member := by
    rcases List.mem_append.mp member with old | new
    · exact holds.formedBefore other old
    · rw [List.mem_singleton.mp new, before]
      exact holds.formed
  effects other member := by
    rcases List.mem_append.mp member with old | new
    · exact holds.effects other old
    · rw [List.mem_singleton.mp new]
      exact effect

theorem Holds.step (lawful : contract.Lawful setup) (holds : contract.Holds system)
    (stepped : System.step setup system event = some after) : contract.Holds after := by
  have grown := holds.grows lawful stepped
  have unchanged : system.database.Extends contract.policy system.database :=
    .refl holds.formed
  cases System.stepped_of_step stepped with
  | arrived operation =>
      refine { holds with kept := fun call member => ?_ }
      rcases List.mem_append.mp member with old | new
      · exact holds.kept call old
      · rw [List.mem_singleton.mp new]
        exact lawful.keeps operation holds.formed
  | left place =>
      refine { holds with kept := fun call member => ?_ }
      exact holds.kept call (List.mem_of_mem_eraseIdx member)
  | timed given asks =>
      refine { holds with kept := fun call member => ?_ }
      rcases List.mem_or_eq_of_mem_set member with old | rfl
      · exact holds.kept call old
      · exact holds.asking asks given.fresh.now
  | introspected given asks =>
      refine { holds with kept := fun call member => ?_ }
      rcases List.mem_or_eq_of_mem_set member with old | rfl
      · exact holds.kept call old
      · exact holds.asking asks given.reply
  | answered given asks ran =>
      -- the call that asked goes on by its own guarantee, and the others do not mind
      obtain ⟨granted, goesOn⟩ := holds.asking asks _ unchanged
      refine holds.record ⟨_, _, _, _, _, _⟩ rfl grown (Job.runWhile_effect ran) granted ?_
      intro call member
      rcases List.mem_or_eq_of_mem_set member with old | rfl
      · exact Call.Meets.later (holds.kept call old) grown
      · exact goesOn _ _ _ _ ran
  | abandoned given asks ran =>
      have granted := (holds.asking asks _ unchanged).1
      refine holds.record ⟨_, _, _, _, _, _⟩ rfl grown (Job.runWhile_effect ran) granted ?_
      intro call member
      exact Call.Meets.later (holds.kept call (List.mem_of_mem_eraseIdx member)) grown

theorem Lawful.holds_later (lawful : contract.Lawful setup) (holds : contract.Holds system)
    (reaches : System.Reaches setup system after) : contract.Holds after := by
  refine reaches.induct holds ?_
  intro middle event later _ held stepped
  exact held.step lawful stepped

/-- A lawful contract holds in every state that a run reaches. -/
theorem Lawful.holds (lawful : contract.Lawful setup) (reachable : System.Reachable setup system) :
    contract.Holds system :=
  lawful.holds_later .initial reachable

theorem Lawful.grows (lawful : contract.Lawful setup) (reachable : System.Reachable setup system)
    (reaches : System.Reaches setup system after) :
    system.database.Extends contract.policy after.database := by
  refine reaches.induct
    (motive := fun last => system.database.Extends contract.policy last.database)
    (.refl (lawful.holds reachable).formed) ?_
  intro middle event later reached grown stepped
  exact grown.trans ((lawful.holds (reachable.trans reached)).grows lawful stepped)

end Contract

end Carpool
