import Carpool.Proofs.Alone

/-!
# Schedules

Calls that are under way at the same time take turns, one question at a time.
A schedule says whose turn comes when, and what the world gives to it.  It is
linearizable when the calls come out as if each of them had run alone at one of
its own turns.
-/

namespace Carpool

open Store

def Running.Finished (call : Running) : Prop :=
  ∃ result, call.rest = .done result

theorem Running.not_finished_of_ask (operation : Operation) (query : Query)
    (next : query.Answer → Call operation.Reply) :
    ¬(⟨operation, .ask query next⟩ : Running).Finished := by
  rintro ⟨result, finished⟩
  cases finished

instance : DecidablePred Running.Finished
  | ⟨_, .done result⟩ => .isTrue ⟨result, rfl⟩
  | ⟨operation, .ask query next⟩ => .isFalse (Running.not_finished_of_ask operation query next)

namespace System

/-! ## Schedules -/

/-- A turn of a call: the answer to its next question, as the world gives it. -/
structure Turn where
  place : Nat
  given : Given
  deriving DecidableEq

def Turn.event (turn : Turn) : Event := .proceed turn.place turn.given

def Turn.own (place : Nat) (schedule : List Turn) : List Turn :=
  schedule.filter fun turn => turn.place = place

/-- The steps of a schedule, one after the other. -/
def play (setup : Setup) (system : System) (schedule : List Turn) : Option System :=
  run setup system (schedule.map Turn.event)

def opening (setup : Setup) (database : Database) (operations : List Operation) : System :=
  ⟨database, operations.map (Operation.start setup), []⟩

/-- The turn at some position of the schedule is a store job of a call. -/
def JobAt (setup : Setup) (start : System) (schedule : List Turn) (place position : Nat) : Prop :=
  ∃ given system operation job next, schedule[position]? = some ⟨place, given⟩ ∧
    play setup start (schedule.take position) = some system ∧
    system.running[place]? = some ⟨operation, .ask (.store job) next⟩

/-! ## Sequential order -/

/-- When a call takes effect: at which turn of the schedule.  When it runs alone
it needs that many turns. -/
structure Moment where
  place : Nat
  position : Nat
  turns : Nat

/-- The turns of a call that runs alone. -/
def Moment.block (schedule : List Turn) (moment : Moment) : List Turn :=
  (Turn.own moment.place schedule).take moment.turns

/-- Some moments explain how a schedule ends. -/
structure Linearizes (setup : Setup) (start : System) (schedule : List Turn) (final : System)
    (moments : List Moment) : Prop where
  /-- Every call takes effect once. -/
  everyCall : (moments.map Moment.place).Perm (List.range start.running.length)
  inOrder : moments.Pairwise fun first second => first.position < second.position
  ownTurn : ∀ moment ∈ moments,
    (schedule[moment.position]?).map Turn.place = some moment.place
  /-- It does so at one of its store jobs, unless it has none. -/
  atJob : ∀ moment ∈ moments, JobAt setup start schedule moment.place moment.position ∨
    ∀ position, ¬JobAt setup start schedule moment.place position
  /-- One after the other, the calls end with the same results, over the same
  contents. -/
  sequential : ∃ last, play setup start (moments.flatMap (Moment.block schedule)) = some last ∧
    last.database = final.database ∧ last.running = final.running

/-! ## Playing a schedule -/

variable {setup : Setup} {start system final last : System} {schedule : List Turn}

theorem play_append {first second : List Turn} :
    play setup system (first ++ second) =
      (play setup system first).bind fun middle => play setup middle second := by
  rw [play, run, List.map_append, List.foldlM_append]
  rfl

theorem play_cons {turn : Turn} {rest : List Turn} :
    play setup system (turn :: rest) =
      (step setup system turn.event).bind fun after => play setup after rest := by
  rw [play, run, List.map_cons, List.foldlM_cons]
  rfl

theorem play_take (played : play setup start schedule = some final) (position : Nat) :
    ∃ system, play setup start (schedule.take position) = some system ∧
      play setup system (schedule.drop position) = some final := by
  rw [← List.take_append_drop position schedule, play_append] at played
  exact Option.bind_eq_some_iff.mp played

/-- What the world gives to one call. -/
def Turn.givens (place : Nat) (schedule : List Turn) : List Given :=
  (Turn.own place schedule).map Turn.given

theorem Turn.map_givens (place : Nat) (schedule : List Turn) :
    (Turn.givens place schedule).map (Turn.mk place) = Turn.own place schedule := by
  rw [Turn.givens, List.map_map]
  refine (List.map_congr_left fun turn member => ?_).trans (List.map_id _)
  obtain rfl : turn.place = place := by simpa using (List.mem_filter.mp member).2
  rfl

theorem Turn.givens_cons_own (given : Given) (place : Nat) (rest : List Turn) :
    Turn.givens place (⟨place, given⟩ :: rest) = given :: Turn.givens place rest := by
  simp [Turn.givens, Turn.own]

theorem Turn.givens_cons_other {turn : Turn} {place : Nat} (other : turn.place ≠ place)
    (rest : List Turn) : Turn.givens place (turn :: rest) = Turn.givens place rest := by
  simp [Turn.givens, Turn.own, other]

section Alone

variable {place : Nat} {operation : Operation} {given : Given}

theorem step_store {job : Job} {next : Except StoreError job.Result → Call operation.Reply}
    {answer : Except StoreError job.Result} {after : Database}
    (asks : system.running[place]? = some ⟨operation, .ask (.store job) next⟩)
    (ran : job.runWhile given.fresh given.patience system.database = (some answer, after)) :
    step setup system (.proceed place given) = some
      { database := after
        running := system.running.set place ⟨operation, next answer⟩
        history := system.history ++
          [⟨operation, job, given.fresh, some answer, system.database, after⟩] } := by
  rw [step, asks]
  simp only [carryOut, ran]

/-- A call that runs alone uses up some of its turns, and changes no other
call. -/
theorem play_alone {call : Call operation.Reply} {givens : List Given} {result : operation.Reply}
    {after : Database} (asks : system.running[place]? = some ⟨operation, call⟩)
    (ran : call.alone givens system.database = some (result, after)) :
    ∃ turns last, play setup system ((givens.map (Turn.mk place)).take turns) = some last ∧
      last.database = after ∧
      last.running = system.running.set place ⟨operation, .done result⟩ := by
  obtain ⟨bound, same⟩ := List.getElem?_eq_some_iff.mp asks
  induction call generalizing givens system with
  | done settled =>
      obtain ⟨rfl, rfl⟩ := Prod.mk.inj (Option.some.inj ran)
      refine ⟨0, system, rfl, rfl, ?_⟩
      rw [← same, List.set_getElem_self]
  | ask query next ih =>
      cases givens with
      | nil => cases ran
      | cons given givens =>
          -- one turn leads to `middle`, and the others on from there
          have goesOn (answer : query.Answer) (middle : System)
              (stepped : step setup system (.proceed place given) = some middle)
              (moved : middle.running = system.running.set place ⟨operation, next answer⟩)
              (ranOn : (next answer).alone givens middle.database = some (result, after)) :
              ∃ turns last, play setup system (((given :: givens).map (Turn.mk place)).take turns) =
                some last ∧ last.database = after ∧
                last.running = system.running.set place ⟨operation, .done result⟩ := by
            have stored : middle.running[place]? = some ⟨operation, next answer⟩ := by
              rw [moved, List.getElem?_set_self bound]
            obtain ⟨boundMiddle, sameMiddle⟩ := List.getElem?_eq_some_iff.mp stored
            obtain ⟨turns, last, played, ended, running⟩ :=
              ih answer stored ranOn boundMiddle sameMiddle
            refine ⟨turns + 1, last, ?_, ended, ?_⟩
            · rw [List.map_cons, List.take_succ_cons, play_cons]
              exact Option.bind_eq_some_iff.mpr ⟨middle, stepped, played⟩
            · rw [running, moved, List.set_set]
          cases query with
          | store job =>
              cases carried : job.runWhile given.fresh given.patience system.database with
              | mk answer changed =>
                  cases answer with
                  | none => simp [Call.alone, carried] at ran
                  | some answer =>
                      rw [Call.alone_store carried] at ran
                      exact goesOn answer _ (step_store asks carried) rfl ran
          | clock =>
              refine goesOn given.fresh.now (system.advance place ⟨operation, next _⟩) ?_ rfl ran
              rw [step, asks]
          | introspect token =>
              refine goesOn given.reply (system.advance place ⟨operation, next _⟩) ?_ rfl ran
              rw [step, asks]

end Alone

end System

end Carpool
