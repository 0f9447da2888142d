import Carpool.Operation

/-!
# The running system

The services at work: the stored contents, the calls that are under way, and
the store jobs that have been carried out so far.  One step lets a call arrive,
lets a caller leave, or answers the next question of one call.  Steps of
different calls follow each other in any order, so a run of the system is any
interleaving of any calls, question by question.  A store job is a single step
here; the connection that carries it out belongs to the server.
-/

namespace Carpool

open Store

/-- What the world gives to the next question of a call: fresh identifiers and
the time, how long the caller stays, and what the identity provider says. -/
structure Given where
  fresh : Fresh
  patience : Patience
  reply : ProviderReply
  deriving DecidableEq

structure Running where
  operation : Operation
  rest : Call operation.Reply

def Operation.start (setup : Setup) (operation : Operation) : Running :=
  ⟨operation, operation.call setup⟩

/-- The record of a store job: for which operation it was carried out, what it
was given, how it was answered, and the contents before and after it. -/
structure Entry where
  operation : Operation
  job : Job
  fresh : Fresh
  answer : Option (Except StoreError job.Result)
  before : Database
  after : Database

structure System where
  database : Database
  running : List Running
  history : List Entry

namespace System

def initial : System := ⟨.empty, [], []⟩

/-- What can happen next.  Calls are named by their place among those under
way. -/
inductive Event
  | arrive (operation : Operation)
  | leave (place : Nat)
  | proceed (place : Nat) (given : Given)
  deriving DecidableEq

def advance (system : System) (place : Nat) (call : Running) : System :=
  { system with running := system.running.set place call }

def carryOut (system : System) (place : Nat) (operation : Operation) (job : Job)
    (next : Except StoreError job.Result → Call operation.Reply) (given : Given) : System :=
  let (answer, after) := job.runWhile given.fresh given.patience system.database
  { database := after
    running :=
      match answer with
      | some answer => system.running.set place ⟨operation, next answer⟩
      | none => system.running.eraseIdx place
    history :=
      system.history ++ [⟨operation, job, given.fresh, answer, system.database, after⟩] }

def step (setup : Setup) (system : System) : Event → Option System
  | .arrive operation =>
      some { system with running := system.running ++ [operation.start setup] }
  | .leave place =>
      if place < system.running.length then
        some { system with running := system.running.eraseIdx place }
      else none
  | .proceed place given =>
      match system.running[place]? with
      | some ⟨operation, .ask (.store job) next⟩ =>
          some (system.carryOut place operation job next given)
      | some ⟨operation, .ask .clock next⟩ =>
          some (system.advance place ⟨operation, next given.fresh.now⟩)
      | some ⟨operation, .ask (.introspect _) next⟩ =>
          some (system.advance place ⟨operation, next given.reply⟩)
      | _ => none

def run (setup : Setup) (system : System) (events : List Event) : Option System :=
  events.foldlM (step setup) system

/-- Some run leads from one state of the system to another. -/
def Reaches (setup : Setup) (first last : System) : Prop :=
  ∃ events, run setup first events = some last

/-- Some run leads to a state of the system from the empty store. -/
def Reachable (setup : Setup) (system : System) : Prop :=
  Reaches setup initial system

end System

end Carpool
