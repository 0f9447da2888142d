import Carpool.System
import Mathlib.Data.List.Induction

/-!
# Runs of the system

A step of the system has one of six shapes, and from what each of them keeps
follows what holds at the end of a run.
-/

namespace Carpool

open Store

namespace System

variable {setup : Setup}

theorem Reaches.refl (system : System) : Reaches setup system system := ⟨[], rfl⟩

theorem Reaches.trans {first second third : System} (earlier : Reaches setup first second)
    (later : Reaches setup second third) : Reaches setup first third := by
  obtain ⟨events, ran⟩ := earlier
  obtain ⟨more, ranOn⟩ := later
  refine ⟨events ++ more, ?_⟩
  rw [run, List.foldlM_append]
  simp only [run] at ran ranOn
  rw [ran]
  exact ranOn

theorem Reaches.next {first second third : System} {event : Event}
    (earlier : Reaches setup first second) (stepped : step setup second event = some third) :
    Reaches setup first third := by
  apply earlier.trans
  refine ⟨[event], ?_⟩
  simp [run, stepped]

/-- What holds at the start of a run and is kept by every step holds at its
end. -/
theorem Reaches.induct {motive : System → Prop} {first last : System}
    (reaches : Reaches setup first last) (start : motive first)
    (keeps : ∀ system event after, Reaches setup first system → motive system →
      step setup system event = some after → motive after) : motive last := by
  obtain ⟨events, ran⟩ := reaches
  induction events using List.reverseRecOn generalizing last with
  | nil =>
      obtain rfl : first = last := by simpa [run] using ran
      exact start
  | append_singleton events event ih =>
      rw [run, List.foldlM_append] at ran
      obtain ⟨system, ranFirst, stepped⟩ := Option.bind_eq_some_iff.mp ran
      have stepped : step setup system event = some last := by simpa using stepped
      exact keeps system event last ⟨events, ranFirst⟩ (ih ranFirst) stepped

/-! ## The cases of a step -/

/-- What a step can do. -/
inductive Stepped (setup : Setup) (system : System) : Event → System → Prop
  | arrived (operation : Operation) :
      Stepped setup system (.arrive operation)
        { system with running := system.running ++ [operation.start setup] }
  | left (place : Nat) (found : place < system.running.length) :
      Stepped setup system (.leave place)
        { system with running := system.running.eraseIdx place }
  | answered {place : Nat} {operation : Operation} {job : Job}
      {next : Except StoreError job.Result → Call operation.Reply} (given : Given)
      {answer : Except StoreError job.Result} {database : Database}
      (asks : system.running[place]? = some ⟨operation, .ask (.store job) next⟩)
      (ran : job.runWhile given.fresh given.patience system.database = (some answer, database)) :
      Stepped setup system (.proceed place given)
        { database := database
          running := system.running.set place ⟨operation, next answer⟩
          history := system.history ++
            [⟨operation, job, given.fresh, some answer, system.database, database⟩] }
  | abandoned {place : Nat} {operation : Operation} {job : Job}
      {next : Except StoreError job.Result → Call operation.Reply} (given : Given)
      {database : Database}
      (asks : system.running[place]? = some ⟨operation, .ask (.store job) next⟩)
      (ran : job.runWhile given.fresh given.patience system.database = (none, database)) :
      Stepped setup system (.proceed place given)
        { database := database
          running := system.running.eraseIdx place
          history := system.history ++
            [⟨operation, job, given.fresh, none, system.database, database⟩] }
  | timed {place : Nat} {operation : Operation} {next : Instant → Call operation.Reply}
      (given : Given) (asks : system.running[place]? = some ⟨operation, .ask .clock next⟩) :
      Stepped setup system (.proceed place given)
        (system.advance place ⟨operation, next given.fresh.now⟩)
  | introspected {place : Nat} {operation : Operation} {token : String}
      {next : ProviderReply → Call operation.Reply} (given : Given)
      (asks : system.running[place]? = some ⟨operation, .ask (.introspect token) next⟩) :
      Stepped setup system (.proceed place given)
        (system.advance place ⟨operation, next given.reply⟩)

theorem stepped_of_step {system after : System} {event : Event}
    (stepped : step setup system event = some after) : Stepped setup system event after := by
  cases event with
  | arrive operation =>
      obtain rfl := Option.some.inj stepped
      exact .arrived operation
  | leave place =>
      rw [step] at stepped
      split at stepped
      · obtain rfl := Option.some.inj stepped
        exact .left place ‹_›
      · contradiction
  | proceed place given =>
      rw [step] at stepped
      split at stepped
      · rename_i operation job next asks
        obtain rfl := Option.some.inj stepped
        unfold carryOut
        cases ran : job.runWhile given.fresh given.patience system.database with
        | mk answer database =>
            cases answer with
            | none => exact .abandoned given asks ran
            | some answer => exact .answered given asks ran
      · obtain rfl := Option.some.inj stepped
        exact .timed given ‹_›
      · obtain rfl := Option.some.inj stepped
        exact .introspected given ‹_›
      · contradiction

theorem step_of_stepped {system after : System} {event : Event}
    (stepped : Stepped setup system event after) : step setup system event = some after := by
  cases stepped with
  | arrived operation => rfl
  | left place found => rw [step, if_pos found]
  | answered given asks ran => simp only [step, asks, carryOut, ran]
  | abandoned given asks ran => simp only [step, asks, carryOut, ran]
  | timed given asks => simp only [step, asks]
  | introspected given asks => simp only [step, asks]

theorem Stepped.reaches {system after : System} {event : Event}
    (stepped : Stepped setup system event after) : Reaches setup system after :=
  (Reaches.refl system).next (step_of_stepped stepped)

theorem Reaches.history_prefix {first last : System} (reaches : Reaches setup first last) :
    first.history <+: last.history := by
  refine reaches.induct (motive := fun system => first.history <+: system.history)
    (List.prefix_refl _) ?_
  intro system event after _ kept stepped
  cases stepped_of_step stepped with
  | answered given asks ran => exact kept.trans (List.prefix_append _ _)
  | abandoned given asks ran => exact kept.trans (List.prefix_append _ _)
  | _ => exact kept

end System

/-!
## Two drivers race for a request

A run for later reference: a rider and two drivers sign up, the rider publishes
a request, and both drivers find it active before either of them accepts it.
-/

namespace Sample

def uuid (number : Nat) : Uuid := .ofNat number

def moment : Instant :=
  ⟨1700000000, 0, by decide, by decide, Instant.epoch.nanosecond_lt, by decide⟩

def setup (policy : CompletionPolicy) : Setup :=
  ⟨policy, ⟨⟨"carpool", ["example".toList]⟩, [], 1⟩⟩

def fresh (first second : Nat) : Given :=
  ⟨⟨uuid first, uuid second, moment⟩, none, .unreachable ""⟩

/-- What the identity provider says of a token for an address. -/
def verified (email : String) : ProviderReply :=
  .answered 200 (Octets.ofText
    ("\x7b\"aud\":\"carpool\",\"email\":\"" ++ email ++ "\",\"email_verified\":\"true\"\x7d"))

/-- A first login, of a user who leaves as soon as the account exists. -/
def signUp (number : Nat) (email : String) : List System.Event :=
  [.arrive (.login email), .proceed 0 { fresh 0 0 with reply := verified email },
    .proceed 0 (fresh 0 0), .proceed 0 (fresh number 0), .leave 0]

def rider : Identity := ⟨uuid 1, none⟩
def driver : Identity := ⟨uuid 2, none⟩
def rival : Identity := ⟨uuid 3, none⟩

/-- The rider publishes a request, under identifier four. -/
def published : List System.Event :=
  signUp 1 "rider@example" ++ signUp 2 "driver@example" ++ signUp 3 "rival@example" ++
    [.arrive (.createRequest rider ⟨"A", "B", moment, 2⟩), .proceed 0 (fresh 0 0),
      .proceed 0 (fresh 0 0), .proceed 0 (fresh 4 0), .leave 0]

/-- Both drivers read the request; the rival accepts it first. -/
def accepted : List System.Event :=
  published ++
    [.arrive (.acceptRideRequest driver (uuid 4)), .arrive (.acceptRideRequest rival (uuid 4)),
      .proceed 0 (fresh 0 0), .proceed 1 (fresh 0 0), .proceed 1 (fresh 5 6),
      .proceed 0 (fresh 7 8)]

/-- The rider completes the match. -/
def completed : List System.Event :=
  accepted ++
    [.arrive (.completeMatch rider (uuid 6)), .proceed 2 (fresh 0 0), .proceed 2 (fresh 0 0)]

end Sample

end Carpool
