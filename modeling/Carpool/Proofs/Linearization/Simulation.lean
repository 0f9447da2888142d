import Carpool.Proofs.Linearization.Operations
import Carpool.Proofs.Linearization.Schedule
import Carpool.Proofs.Service.Entitlement

/-!
# Following a schedule

Next to the calls of a schedule runs a sequential system, in which nothing
happens until some call takes effect; then that call runs, from its first
question to its last.  Turn by turn, both have the same contents, and a call that
has taken effect will have the same result.
-/

namespace Carpool

open Store

namespace System

variable {setup : Setup} {start system final last : System} {schedule : List Turn}

/-! ## The sequential run that follows a schedule -/

/-- What is known of a call after some turns of the schedule: how it was at the
start, how it is now, and how it is in the sequential run. -/
inductive Slot (setup : Setup) (start : System) (schedule : List Turn) (position : Nat)
    (database : Database) (moments : List Moment) (place : Nat) :
    Option Running → Option Running → Option Running → Prop
  | absent (waiting : place ∉ moments.map Moment.place) :
      Slot setup start schedule position database moments place none none none
  | pending {operation : Operation} {whole rest : Call operation.Reply} {asked : Bool}
      (waiting : place ∉ moments.map Moment.place)
      (unasked : asked = false → ∀ earlier < position, ¬JobAt setup start schedule place earlier)
      (pending : rest.Pending setup.policy (whole.alone (Turn.givens place schedule)) asked
        (Turn.givens place (schedule.drop position)) database) :
      Slot setup start schedule position database moments place
        (some ⟨operation, whole⟩) (some ⟨operation, rest⟩) (some ⟨operation, whole⟩)
  | settled {operation : Operation} {whole rest : Call operation.Reply} {result : operation.Reply}
      (placed : place ∈ moments.map Moment.place)
      (settled : rest.Settled setup.policy result (Turn.givens place (schedule.drop position))
        database) :
      Slot setup start schedule position database moments place
        (some ⟨operation, whole⟩) (some ⟨operation, rest⟩) (some ⟨operation, .done result⟩)

/-- Up to some position of the schedule, the calls that have taken effect have
run one after the other to the same contents. -/
structure Simulates (setup : Setup) (start : System) (schedule : List Turn) (position : Nat)
    (system : System) (moments : List Moment) : Prop where
  played : play setup start (schedule.take position) = some system
  distinct : (moments.map Moment.place).Nodup
  inOrder : moments.Pairwise fun first second => first.position < second.position
  passed : ∀ moment ∈ moments, moment.position < position
  ownTurn : ∀ moment ∈ moments,
    (schedule[moment.position]?).map Turn.place = some moment.place
  atJob : ∀ moment ∈ moments, JobAt setup start schedule moment.place moment.position ∨
    (∀ earlier < position, ¬JobAt setup start schedule moment.place earlier) ∧
      ∃ call, system.running[moment.place]? = some call ∧ call.Finished
  sequential : ∃ last, play setup start (moments.flatMap (Moment.block schedule)) = some last ∧
    last.database = system.database ∧
    ∀ place, Slot setup start schedule position system.database moments place
      start.running[place]? system.running[place]? last.running[place]?

section Turns

variable {position place : Nat} {given : Given} {after : System} {moments : List Moment}
  {database changed : Database}

theorem JobAt.place_eq {turn : Turn} (job : JobAt setup start schedule place position)
    (turnAt : schedule[position]? = some turn) : turn.place = place := by
  obtain ⟨given, -, -, -, -, turned, -⟩ := job
  obtain rfl := Option.some.inj (turnAt.symm.trans turned)
  rfl

theorem drop_of_turn {turn : Turn} (turnAt : schedule[position]? = some turn) :
    schedule.drop position = turn :: schedule.drop (position + 1) := by
  obtain ⟨bound, rfl⟩ := List.getElem?_eq_some_iff.mp turnAt
  exact List.drop_eq_getElem_cons bound

theorem Slot.other {turn : Turn} (turnAt : schedule[position]? = some turn)
    (others : turn.place ≠ place) {more : List Moment} {whole now alone : Option Running}
    (elsewhere : ∀ moment ∈ more, moment.place ≠ place)
    (evolved : database.Evolves setup.policy changed)
    (slot : Slot setup start schedule position database moments place whole now alone) :
    Slot setup start schedule (position + 1) changed (moments ++ more) place whole now alone := by
  have givens : Turn.givens place (schedule.drop position) =
      Turn.givens place (schedule.drop (position + 1)) := by
    rw [drop_of_turn turnAt, Turn.givens_cons_other others]
  have kept : place ∈ (moments ++ more).map Moment.place ↔ place ∈ moments.map Moment.place := by
    rw [List.map_append, List.mem_append, or_iff_left]
    intro member
    obtain ⟨moment, added, same⟩ := List.mem_map.mp member
    exact elsewhere moment added same
  cases slot with
  | absent waiting => exact .absent (mt kept.mp waiting)
  | pending waiting unasked pending =>
      rw [givens] at pending
      refine .pending (mt kept.mp waiting) (fun untouched earlier passed job => ?_)
        (pending.later evolved)
      rcases Nat.lt_succ_iff_lt_or_eq.mp passed with before | rfl
      · exact unasked untouched earlier before job
      · exact others (job.place_eq turnAt)
  | settled placed settled =>
      rw [givens] at settled
      exact .settled (kept.mpr placed) (settled.later evolved)

theorem play_take_succ {turn : Turn} (turnAt : schedule[position]? = some turn)
    (played : play setup start (schedule.take position) = some system)
    (stepped : step setup system turn.event = some after) :
    play setup start (schedule.take (position + 1)) = some after := by
  rw [List.take_add_one, turnAt, play_append, played, Option.bind_some, Option.toList_some,
    play_cons, stepped]
  rfl

/-- The moment, if any, at which a turn has its call take effect. -/
inductive Added (setup : Setup) (start : System) (schedule : List Turn) (place position : Nat)
    (moments : List Moment) (call : Running) : List Moment → Prop
  | none : Added setup start schedule place position moments call []
  | one (turns : Nat) (waiting : place ∉ moments.map Moment.place)
      (atJob : JobAt setup start schedule place position ∨
        (∀ earlier < position + 1, ¬JobAt setup start schedule place earlier) ∧ call.Finished) :
      Added setup start schedule place position moments call [⟨place, position, turns⟩]

theorem Simulates.turn {asking call : Running} {more : List Moment} {next : System}
    (simulates : Simulates setup start schedule position system moments)
    (turnAt : schedule[position]? = some ⟨place, given⟩)
    (stepped : step setup system (.proceed place given) = some after)
    (asks : system.running[place]? = some asking) (unfinished : ¬asking.Finished)
    (moved : after.running = system.running.set place call)
    (evolved : system.database.Evolves setup.policy after.database)
    (added : Added setup start schedule place position moments call more)
    (slots : ∀ place, Slot setup start schedule position system.database moments place
      start.running[place]? system.running[place]? last.running[place]?)
    (sequential : play setup start ((moments ++ more).flatMap (Moment.block schedule)) = some next)
    (same : next.database = after.database)
    (elsewhere : ∀ other, place ≠ other → next.running[other]? = last.running[other]?)
    (own : Slot setup start schedule (position + 1) after.database (moments ++ more) place
      start.running[place]? (some call) next.running[place]?) :
    Simulates setup start schedule (position + 1) after (moments ++ more) where
  played := play_take_succ turnAt simulates.played stepped
  distinct := by
    cases added with
    | none => simpa using simulates.distinct
    | one turns waiting atJob =>
        rw [List.map_append, List.map_singleton, ← List.concat_eq_append]
        exact simulates.distinct.concat waiting
  inOrder := by
    refine List.pairwise_append.mpr ⟨simulates.inOrder, ?_, ?_⟩
    · cases added <;> simp
    · intro earlier member moment new
      cases added with
      | none => cases new
      | one turns waiting atJob =>
          rw [List.mem_singleton.mp new]
          exact simulates.passed earlier member
  passed moment member := by
    rcases List.mem_append.mp member with old | new
    · exact Nat.lt_succ_of_lt (simulates.passed moment old)
    · cases added with
      | none => cases new
      | one turns waiting atJob =>
          rw [List.mem_singleton.mp new]
          exact Nat.lt_succ_self position
  ownTurn moment member := by
    rcases List.mem_append.mp member with old | new
    · exact simulates.ownTurn moment old
    · cases added with
      | none => cases new
      | one turns waiting atJob =>
          rw [List.mem_singleton.mp new, turnAt]
          rfl
  atJob moment member := by
    have bound := (List.getElem?_eq_some_iff.mp asks).1
    rcases List.mem_append.mp member with old | new
    · refine (simulates.atJob moment old).imp_right ?_
      rintro ⟨untouched, finishedCall, running, finished⟩
      -- a call that is through has no turn
      have others : place ≠ moment.place := by
        rintro rfl
        obtain rfl := Option.some.inj (asks.symm.trans running)
        exact unfinished finished
      refine ⟨fun earlier passed job => ?_, finishedCall, ?_, finished⟩
      · rcases Nat.lt_succ_iff_lt_or_eq.mp passed with before | rfl
        · exact untouched earlier before job
        · exact others (job.place_eq turnAt)
      · rw [moved, List.getElem?_set_ne others]
        exact running
    · cases added with
      | none => cases new
      | one turns waiting atJob =>
          rw [List.mem_singleton.mp new]
          refine atJob.imp_right fun ⟨untouched, finished⟩ => ⟨untouched, call, ?_, finished⟩
          rw [moved, List.getElem?_set_self bound]
  sequential := by
    have bound := (List.getElem?_eq_some_iff.mp asks).1
    refine ⟨next, sequential, same, fun other => ?_⟩
    by_cases turned : place = other
    · subst turned
      rw [moved, List.getElem?_set_self bound]
      exact own
    · rw [moved, List.getElem?_set_ne turned, elsewhere other turned]
      refine (slots other).other turnAt turned ?_ evolved
      intro moment new
      cases added with
      | none => cases new
      | one turns waiting atJob =>
          rw [List.mem_singleton.mp new]
          exact turned

theorem Simulates.quiet {asking call : Running} {beginning alone : Option Running}
    (simulates : Simulates setup start schedule position system moments)
    (turnAt : schedule[position]? = some ⟨place, given⟩)
    (stepped : step setup system (.proceed place given) = some after)
    (asks : system.running[place]? = some asking) (unfinished : ¬asking.Finished)
    (moved : after.running = system.running.set place call)
    (formed : system.database.WellFormed) (unchanged : after.database = system.database)
    (sequential : play setup start (moments.flatMap (Moment.block schedule)) = some last)
    (same : last.database = system.database)
    (slots : ∀ place, Slot setup start schedule position system.database moments place
      start.running[place]? system.running[place]? last.running[place]?)
    (begun : start.running[place]? = beginning) (lone : last.running[place]? = alone)
    (own : Slot setup start schedule (position + 1) system.database moments place
      beginning (some call) alone) :
    ∃ more, Simulates setup start schedule (position + 1) after (moments ++ more) := by
  refine ⟨[], simulates.turn turnAt stepped asks unfinished moved ?_ .none slots ?_ ?_
    (fun _ _ => rfl) ?_⟩
  · rw [unchanged]
    exact .refl formed
  · rw [List.append_nil]
    exact sequential
  · rw [same, unchanged]
  · rw [List.append_nil, unchanged, begun, lone]
    exact own

theorem Simulates.takesEffect {operation : Operation} {whole rest call : Call operation.Reply}
    {result : operation.Reply}
    (simulates : Simulates setup start schedule position system moments)
    (turnAt : schedule[position]? = some ⟨place, given⟩)
    (stepped : step setup system (.proceed place given) = some after)
    (begun : start.running[place]? = some ⟨operation, whole⟩)
    (asks : system.running[place]? = some ⟨operation, rest⟩)
    (unfinished : ¬(⟨operation, rest⟩ : Running).Finished)
    (waiting : place ∉ moments.map Moment.place)
    (moved : after.running = system.running.set place ⟨operation, call⟩)
    (evolved : system.database.Evolves setup.policy after.database)
    (atJob : JobAt setup start schedule place position ∨
      (∀ earlier < position + 1, ¬JobAt setup start schedule place earlier) ∧
        (⟨operation, call⟩ : Running).Finished)
    (ran : whole.alone (Turn.givens place schedule) system.database = some (result, after.database))
    (settled : call.Settled setup.policy result (Turn.givens place (schedule.drop (position + 1)))
      after.database) :
    ∃ more, Simulates setup start schedule (position + 1) after (moments ++ more) := by
  obtain ⟨last, sequential, same, slots⟩ := simulates.sequential
  have untouched : last.running[place]? = some ⟨operation, whole⟩ := by
    have slot := slots place
    rw [begun, asks] at slot
    generalize last.running[place]? = alone at slot ⊢
    cases slot with
    | pending _ _ _ => rfl
    | settled placed _ => exact absurd placed waiting
  rw [← same] at ran
  obtain ⟨turns, next, played, ended, running⟩ := play_alone untouched ran
  have bound := (List.getElem?_eq_some_iff.mp untouched).1
  refine ⟨[⟨place, position, turns⟩], simulates.turn turnAt stepped asks unfinished moved evolved
    (.one turns waiting atJob) slots ?_ ended ?_ ?_⟩
  · rw [List.flatMap_append, play_append, sequential, Option.bind_some, List.flatMap_singleton]
    rw [Turn.map_givens] at played
    exact played
  · intro other elsewhere
    rw [running, List.getElem?_set_ne elsewhere]
  · rw [begun, running, List.getElem?_set_self bound]
    exact .settled (by simp) settled

theorem users_of_onRides {operation : Operation} (onRides : operation.OnRides) {fresh : Fresh}
    {policy : CompletionPolicy} {before after : Database} {job : Job}
    {answer : Option (Except StoreError job.Result)}
    (entitled : Entitled policy operation before job)
    (effect : Effect fresh before job answer after) : after.userRows = before.userRows := by
  have frame := effect.frame
  cases effect with
  | userCreated input after inserted =>
      cases entitled with
      | lookUp lookup => exact lookup.elim
      | signUp => exact onRides.elim
  | seenSwapped id expected new =>
      cases entitled with
      | lookUp lookup => exact lookup.elim
      | touch => exact onRides.elim
      | touchAt => exact onRides.elim
  | read | abandoned | refused | declined => rfl
  | _ => exact frame.users id

theorem not_jobAt_of_clock {operation : Operation} {next : Instant → Call operation.Reply}
    (played : play setup start (schedule.take position) = some system)
    (asks : system.running[place]? = some ⟨operation, .ask .clock next⟩) :
    ¬JobAt setup start schedule place position := by
  rintro ⟨given, other, operation, job, next, -, playedOther, asksOther⟩
  obtain rfl := Option.some.inj (played.symm.trans playedOther)
  cases asks.symm.trans asksOther

/-- Every turn leads the simulation on, and has at most its own call take
effect. -/
theorem Simulates.step (simulates : Simulates setup start schedule position system moments)
    (holds : (entitlements setup.policy).Holds system)
    (onRides : ∀ call ∈ start.running, call.operation.OnRides)
    (turnAt : schedule[position]? = some ⟨place, given⟩) (stays : given.patience = none)
    (stepped : step setup system (.proceed place given) = some after)
    (fresh : ∀ entry ∈ after.history, entry.job.DrawsUnused entry.fresh entry.before) :
    ∃ more, Simulates setup start schedule (position + 1) after (moments ++ more) := by
  have formed := holds.formed
  have grown := holds.grows (entitlements_lawful setup) stepped
  have givens : Turn.givens place (schedule.drop position) =
      given :: Turn.givens place (schedule.drop (position + 1)) := by
    rw [drop_of_turn turnAt, Turn.givens_cons_own]
  obtain ⟨last, sequential, same, slots⟩ := simulates.sequential
  have slot := slots place
  cases stepped_of_step stepped with
  | abandoned _ asks ran =>
      rw [stays] at ran
      exact (Job.runWhile_ne_none ran).elim
  | @answered _ operation job next _ answer database asks ran =>
      have unfinished := Running.not_finished_of_ask operation (.store job) next
      have unused : job.DrawsUnused given.fresh system.database :=
        fresh ⟨operation, job, given.fresh, some answer, system.database, database⟩ (by simp)
      rw [asks] at slot
      generalize begun : start.running[place]? = beginning at slot
      generalize lone : last.running[place]? = alone at slot
      cases slot with
      | @pending _ whole _ asked waiting unasked pending =>
          rw [givens] at pending
          -- either nothing was written, or this is the moment of the call
          rcases pending _ answer database (.refl formed) unused ran
            with ⟨rfl, goesOn⟩ | ⟨result, ranAlone, settled⟩
          · exact simulates.quiet turnAt stepped asks unfinished rfl formed rfl sequential same
              slots begun lone (.pending waiting (fun asked : true = false => nomatch asked) goesOn)
          · have granted := (holds.asking asks _ (.refl formed)).1
            have kept := users_of_onRides (onRides _ (List.mem_of_getElem? begun)) granted
              (Job.runWhile_effect ran)
            have atJob : JobAt setup start schedule place position :=
              ⟨given, system, operation, job, next, turnAt, simulates.played, asks⟩
            exact simulates.takesEffect turnAt stepped begun asks unfinished waiting rfl
              ⟨grown, kept⟩ (.inl atJob) ranAlone settled
      | settled placed settled =>
          rw [givens] at settled
          obtain ⟨rfl, goesOn⟩ := settled _ answer database (.refl formed) unused ran
          exact simulates.quiet turnAt stepped asks unfinished rfl formed rfl sequential same slots
            begun lone (.settled placed goesOn)
  | @timed _ operation next _ asks =>
      have unfinished := Running.not_finished_of_ask operation .clock next
      have noJob := not_jobAt_of_clock simulates.played asks
      rw [asks] at slot
      generalize begun : start.running[place]? = beginning at slot
      generalize lone : last.running[place]? = alone at slot
      cases slot with
      | @pending _ whole _ asked waiting unasked pending =>
          rw [givens] at pending
          obtain ⟨rfl, pending⟩ := pending
          -- asked before any job, the clock may reveal a flaw that ends the call
          have untouched : ∀ earlier < position + 1,
              ¬JobAt setup start schedule place earlier := by
            intro earlier passed
            rcases Nat.lt_succ_iff_lt_or_eq.mp passed with before | rfl
            · exact unasked rfl earlier before
            · exact noJob
          rcases pending with goesOn | ⟨result, done, ranAlone⟩
          · exact simulates.quiet turnAt stepped asks unfinished rfl formed rfl sequential same
              slots begun lone (.pending waiting (fun _ => untouched) goesOn)
          · refine simulates.takesEffect turnAt stepped begun asks unfinished waiting rfl
              (.refl formed) (.inr ⟨untouched, result, done⟩) (ranAlone _) ?_
            rw [done]
            rfl
      | settled placed settled =>
          rw [givens] at settled
          exact simulates.quiet turnAt stepped asks unfinished rfl formed rfl sequential same slots
            begun lone (.settled placed settled)
  | @introspected _ operation token next _ asks =>
      have unfinished := Running.not_finished_of_ask operation (.introspect token) next
      rw [asks] at slot
      generalize begun : start.running[place]? = beginning at slot
      generalize lone : last.running[place]? = alone at slot
      cases slot with
      | pending waiting unasked pending =>
          rw [givens] at pending
          exact pending.elim
      | settled placed settled =>
          rw [givens] at settled
          exact simulates.quiet turnAt stepped asks unfinished rfl formed rfl sequential same slots
            begun lone (.settled placed settled)

end Turns

end System

end Carpool
