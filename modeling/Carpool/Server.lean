import Carpool.Api.Router
import Carpool.Operation
import Mathlib.Logic.Function.Basic

/-!
# The server at work

Requests come in, and so may calls to the services and single store jobs.  All
store jobs go through one connection: they queue for it, and it carries them out
step by step, one job at a time.  Whoever waits for a call may leave at any
moment, of their own accord or because the deadline has passed.  The call then
asks nothing more, but a job of it that is queued or under way stays where it
is.
-/

namespace Carpool

open Store

/-- What somebody comes to the server for. -/
inductive Errand
  | request (message : Api.Request)
  | operation (action : Operation)
  | job (task : Job)
  deriving DecidableEq

namespace Errand

/-- What an errand comes to.  A request may come to no response. -/
def Reply : Errand → Type
  | .request _ => Option Api.Response
  | .operation action => action.Reply
  | .job task => Except StoreError task.Result

def call (config : ServerConfig) : (errand : Errand) → Call errand.Reply
  | .request message => Api.answer config message
  | .operation action => action.call config.setup
  | .job task => .ask (.store task) .done

end Errand

inductive Standing (α : Type)
  /-- It is between two store jobs, or through. -/
  | going (rest : Call α)
  /-- It waits for a store job. -/
  | waiting
  /-- Nobody waits for it any more. -/
  | left

structure Slot where
  errand : Errand
  standing : Standing errand.Reply

/-- A store job that has been given to the connection, and how its call goes on
with the answer. -/
structure Ticket where
  number : Nat
  errand : Errand
  job : Job
  fresh : Fresh
  next : Except StoreError job.Result → Call errand.Reply

/-- The job that is under way: the contents that it found, the steps that are
left of it, and what its open transaction sees. -/
structure Work where
  ticket : Ticket
  before : Database
  rest : Write (Except StoreError ticket.job.Result)
  pending : Option Database

structure Receipt where
  number : Nat
  errand : Errand
  job : Job
  fresh : Fresh
  answer : Option (Except StoreError job.Result)
  before : Database
  after : Database

/-- The permanent contents, the calls by their numbers, the jobs that wait for
the connection, the one that is under way, and those that have ended. -/
structure Server where
  database : Database
  slots : Nat → Option Slot
  queue : List Ticket
  work : Option Work
  receipts : List Receipt

def Ticket.begin (ticket : Ticket) (database : Database) : Work :=
  ⟨ticket, database, (ticket.job.plan ticket.fresh).steps database, none⟩

def Work.receipt (work : Work) (answer : Option (Except StoreError work.ticket.job.Result))
    (after : Database) : Receipt :=
  ⟨work.ticket.number, work.ticket.errand, work.ticket.job, work.ticket.fresh, answer,
    work.before, after⟩

namespace Server

/-- Nobody has come yet. -/
def opening (database : Database) : Server :=
  ⟨database, fun _ => none, [], none, []⟩

/-- What can happen next. -/
inductive Event
  | arrive (number : Nat) (errand : Errand)
  | leave (number : Nat)
  /-- A call gives its next store job to the connection. -/
  | issue (number : Nat) (fresh : Fresh)
  /-- A call reads the clock. -/
  | tell (number : Nat) (now : Instant)
  /-- A call hears from the identity provider. -/
  | report (number : Nat) (reply : ProviderReply)
  /-- The connection takes a step. -/
  | work
  deriving DecidableEq

def put (server : Server) (number : Nat) (slot : Slot) : Server :=
  { server with slots := Function.update server.slots number (some slot) }

/-- Somebody still waits for a call. -/
def isHere (server : Server) (number : Nat) : Bool :=
  match server.slots number with
  | none | some ⟨_, .left⟩ => false
  | some _ => true

/-- The calls once a job has been answered.  The answer goes to its caller, if
there still is one. -/
def deliver (server : Server) (ticket : Ticket) :
    Option (Except StoreError ticket.job.Result) → Nat → Option Slot
  | some answer =>
      if server.isHere ticket.number then
        Function.update server.slots ticket.number
          (some ⟨ticket.errand, .going (ticket.next answer)⟩)
      else server.slots
  | none => server.slots

def finish (server : Server) (work : Work)
    (answer : Option (Except StoreError work.ticket.job.Result)) (after : Database) : Server :=
  ⟨after, server.deliver work.ticket answer, server.queue, none,
    server.receipts ++ [work.receipt answer after]⟩

/-- The next step of the job that is under way. -/
def proceed (server : Server) (work : Work) : Server :=
  match work.rest.advance (server.isHere work.ticket.number) ⟨server.database, work.pending⟩ with
  | .goesOn rest later =>
      { server with
        database := later.permanent
        work := some { work with rest, pending := later.pending } }
  | .ended ending after => server.finish work ending.answer? after

def step (config : ServerConfig) (server : Server) : Event → Option Server
  | .arrive number errand =>
      match server.slots number with
      | none => some (server.put number ⟨errand, .going (errand.call config)⟩)
      | some _ => none
  | .leave number =>
      (server.slots number).map fun slot => server.put number ⟨slot.errand, .left⟩
  | .issue number fresh =>
      match server.slots number with
      | some ⟨errand, .going (.ask (.store job) next)⟩ =>
          some { server.put number ⟨errand, .waiting⟩ with
            queue := server.queue ++ [⟨number, errand, job, fresh, next⟩] }
      | _ => none
  | .tell number now =>
      match server.slots number with
      | some ⟨errand, .going (.ask .clock next)⟩ =>
          some (server.put number ⟨errand, .going (next now)⟩)
      | _ => none
  | .report number reply =>
      match server.slots number with
      | some ⟨errand, .going (.ask (.introspect _) next)⟩ =>
          some (server.put number ⟨errand, .going (next reply)⟩)
      | _ => none
  | .work =>
      match server.work, server.queue with
      | some work, _ => some (server.proceed work)
      | none, ticket :: queue =>
          some { server with queue, work := some (ticket.begin server.database) }
      | none, [] => none

def run (config : ServerConfig) (server : Server) (events : List Event) : Option Server :=
  events.foldlM (step config) server

/-! ## What can be seen of a server -/

/-- The contents as the last job that has ended left them. -/
def settled (server : Server) : Database :=
  match server.work with
  | some work => work.before
  | none => server.database

/-- The jobs that are with the connection. -/
def tickets (server : Server) : List Ticket :=
  (server.work.map Work.ticket).toList ++ server.queue

/-- A call has no job with the connection. -/
def AsksNothing (server : Server) (number : Nat) : Prop :=
  ∀ ticket ∈ server.tickets, ticket.number ≠ number

/-- The jobs of one call that have ended. -/
def receiptsOf (server : Server) (number : Nat) : List Receipt :=
  server.receipts.filter fun receipt => receipt.number = number

end Server

end Carpool
