import Carpool.Login.TokenInfo
import Carpool.Store.Job

/-!
# Calls

A call to a service is a tree of questions to the world: store jobs, readings
of the clock, and queries to the identity provider.  The answer to each decides
how the call goes on.  Whoever runs a call gives the answers, so calls can be
interleaved question by question, dropped between two questions, and have their
store jobs fail.
-/

namespace Carpool

open Store (Job StoreError)

/-- A question that a call puts to the world. -/
inductive Query
  | store (job : Job)
  | clock
  | introspect (idToken : String)
  deriving DecidableEq

def Query.Answer : Query → Type
  | .store job => Except StoreError job.Result
  | .clock => Instant
  | .introspect _ => ProviderReply

/-- A call, as what is left of it. -/
inductive Call (α : Type)
  | done (result : α)
  | ask (query : Query) (next : query.Answer → Call α)

namespace Call

/-- Go on with another call where one ends. -/
def bind {α β : Type} : Call α → (α → Call β) → Call β
  | .done result, next => next result
  | .ask query rest, next => .ask query fun answer => (rest answer).bind next

instance : Monad Call where
  pure := .done
  bind := bind

def query (query : Query) : Call query.Answer :=
  .ask query .done

def clock : Call Instant :=
  .ask .clock .done

/-- Run a call in a world that answers questions. -/
def run {m : Type → Type} [Monad m] {α : Type}
    (answer : (query : Query) → m query.Answer) : Call α → m α
  | .done result => pure result
  | .ask query next => do
      let reply ← answer query
      (next reply).run answer

end Call

/-- A call that can fail. -/
abbrev Attempt (ε α : Type) := ExceptT ε Call α

namespace Attempt

/-- Run a store job; its failure is one of the call. -/
def store {ε : Type} (wrap : StoreError → ε) (job : Job) :
    Attempt ε job.Result :=
  ExceptT.mk (.ask (.store job) fun answer =>
    .done (match answer with
      | .ok result => .ok result
      | .error error => .error (wrap error)))

def clock {ε : Type} : Attempt ε Instant :=
  ExceptT.mk (.ask .clock fun now => .done (.ok now))

end Attempt

end Carpool
