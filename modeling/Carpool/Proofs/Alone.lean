import Carpool.Proofs.Service.Shape
import Carpool.Proofs.Store.Reading
import Carpool.Proofs.System

/-!
# Calls that run alone

A call whose questions are answered one after the other, with no other call in
between.
-/

namespace Carpool

open Store

variable {α ε : Type}

/-- Run a call with what the world gives to its questions, as far as they are
all answered. -/
def Call.alone : Call α → List Given → Database → Option (α × Database)
  | .done result, _, database => some (result, database)
  | .ask _ _, [], _ => none
  | .ask (.store job) next, given :: rest, database =>
      match job.runWhile given.fresh given.patience database with
      | (some answer, after) => (next answer).alone rest after
      | (none, _) => none
  | .ask .clock next, given :: rest, database => (next given.fresh.now).alone rest database
  | .ask (.introspect _) next, given :: rest, database => (next given.reply).alone rest database

theorem Call.alone_store {job : Job} {next : (Query.store job).Answer → Call α} {given : Given}
    {rest : List Given} {database after : Database} {answer : Except StoreError job.Result}
    (ran : job.runWhile given.fresh given.patience database = (some answer, after)) :
    (Call.ask (.store job) next).alone (given :: rest) database =
      (next answer : Call α).alone rest after := by
  rw [Call.alone, ran]

namespace Attempt

variable {wrap : StoreError → ε} {job : Job} {next : job.Result → Call (Except ε α)}
  {given : Given} {rest : List Given} {database after : Database}

theorem go_alone_ok {result : job.Result}
    (ran : job.runWhile given.fresh given.patience database = (some (.ok result), after)) :
    (go wrap job next).alone (given :: rest) database = (next result).alone rest after :=
  Call.alone_store ran

theorem go_alone_error {error : StoreError}
    (ran : job.runWhile given.fresh given.patience database = (some (.error error), after)) :
    (go wrap job next).alone (given :: rest) database = some (.error (wrap error), after) := by
  have failed : (go wrap job next).alone (given :: rest) database =
      (Call.done (.error (wrap error)) : Call (Except ε α)).alone rest after :=
    Call.alone_store ran
  rw [failed, Call.alone]

theorem look_alone_ok {look : Database → Except StoreError job.Result} {result : job.Result}
    {outcome : Option (Except ε α × Database)} (planned : job.plan given.fresh = .read look)
    (looked : look database = .ok result)
    (goesOn : (next result).alone rest database = outcome) :
    (go wrap job next).alone (given :: rest) database = outcome :=
  goesOn ▸ go_alone_ok (looked ▸ Job.runWhile_read planned)

theorem look_alone_error {look : Database → Except StoreError job.Result} {error : StoreError}
    (planned : job.plan given.fresh = .read look) (looked : look database = .error error) :
    (go wrap job next).alone (given :: rest) database = some (.error (wrap error), database) :=
  go_alone_error (looked ▸ Job.runWhile_read planned)

end Attempt

end Carpool
