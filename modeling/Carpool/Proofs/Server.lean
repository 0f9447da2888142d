import Carpool.Proofs.System
import Carpool.Server

/-!
# Runs of the server

A step of the server has one of eight shapes: four for what callers do and what
they are told, one for a job that is handed to the connection, and three for what
the connection does with it.
-/

namespace Carpool

open Store

namespace Server

/-! ## The cases of a step -/

variable {config : ServerConfig} {server after : Server} {event : Event}

/-- What a step can do. -/
inductive Stepped (config : ServerConfig) (server : Server) : Event → Server → Prop
  | arrived {number : Nat} (errand : Errand) (free : server.slots number = none) :
      Stepped config server (.arrive number errand)
        (server.put number ⟨errand, .going (errand.call config)⟩)
  | left {number : Nat} {slot : Slot} (found : server.slots number = some slot) :
      Stepped config server (.leave number) (server.put number ⟨slot.errand, .left⟩)
  | issued {number : Nat} (fresh : Fresh) {errand : Errand} {job : Job}
      {next : Except StoreError job.Result → Call errand.Reply}
      (asks : server.slots number = some ⟨errand, .going (.ask (.store job) next)⟩) :
      Stepped config server (.issue number fresh)
        { server.put number ⟨errand, .waiting⟩ with
          queue := server.queue ++ [⟨number, errand, job, fresh, next⟩] }
  | told {number : Nat} (now : Instant) {errand : Errand} {next : Instant → Call errand.Reply}
      (asks : server.slots number = some ⟨errand, .going (.ask .clock next)⟩) :
      Stepped config server (.tell number now)
        (server.put number ⟨errand, .going (next now)⟩)
  | reported {number : Nat} (reply : ProviderReply) {errand : Errand} {token : String}
      {next : ProviderReply → Call errand.Reply}
      (asks : server.slots number = some ⟨errand, .going (.ask (.introspect token) next)⟩) :
      Stepped config server (.report number reply)
        (server.put number ⟨errand, .going (next reply)⟩)
  | begun {ticket : Ticket} {queue : List Ticket} (idle : server.work = none)
      (queued : server.queue = ticket :: queue) :
      Stepped config server .work
        { server with queue, work := some (ticket.begin server.database) }
  | goesOn {work : Work} {rest : Write (Except StoreError work.ticket.job.Result)}
      {later : Connection} (working : server.work = some work)
      (advanced : work.rest.advance (server.isHere work.ticket.number)
        ⟨server.database, work.pending⟩ = .goesOn rest later) :
      Stepped config server .work
        { server with
          database := later.permanent
          work := some { work with rest, pending := later.pending } }
  | finished {work : Work} {ending : Ending (Except StoreError work.ticket.job.Result)}
      {database : Database} (working : server.work = some work)
      (advanced : work.rest.advance (server.isHere work.ticket.number)
        ⟨server.database, work.pending⟩ = .ended ending database) :
      Stepped config server .work (server.finish work ending.answer? database)

theorem stepped_of_step (stepped : step config server event = some after) :
    Stepped config server event after := by
  cases event with
  | arrive number errand =>
      rw [step] at stepped
      split at stepped
      · obtain rfl := Option.some.inj stepped
        exact .arrived errand ‹_›
      · contradiction
  | leave number =>
      obtain ⟨slot, found, rfl⟩ := Option.map_eq_some_iff.mp stepped
      exact .left found
  | issue number fresh =>
      rw [step] at stepped
      split at stepped
      · obtain rfl := Option.some.inj stepped
        exact .issued fresh ‹_›
      · contradiction
  | tell number now =>
      rw [step] at stepped
      split at stepped
      · obtain rfl := Option.some.inj stepped
        exact .told now ‹_›
      · contradiction
  | report number reply =>
      rw [step] at stepped
      split at stepped
      · obtain rfl := Option.some.inj stepped
        exact .reported reply ‹_›
      · contradiction
  | work =>
      rw [step] at stepped
      split at stepped
      · rename_i work _ working
        obtain rfl := Option.some.inj stepped
        rw [proceed]
        split
        · exact .goesOn working ‹_›
        · exact .finished working ‹_›
      · rename_i ticket queue idle queued
        obtain rfl := Option.some.inj stepped
        exact .begun idle queued
      · contradiction

theorem step_of_stepped (stepped : Stepped config server event after) :
    step config server event = some after := by
  cases stepped with
  | arrived errand free => simp only [step, free]
  | left found => simp only [step, found, Option.map_some]
  | issued fresh asks => simp only [step, asks]
  | told now asks => simp only [step, asks]
  | reported reply asks => simp only [step, asks]
  | begun idle queued => simp only [step, idle, queued]
  | goesOn working advanced => simp only [step, working, proceed, advanced]
  | finished working advanced => simp only [step, working, proceed, advanced]

/-! ## Runs -/

/-- What holds at the start of a run and is kept by each of its steps holds at
its end. -/
theorem run_induct {motive : Server → Prop} {events : List Event} {first last : Server}
    (ran : run config first events = some last) (start : motive first)
    (keeps : ∀ server event after, event ∈ events → motive server →
      step config server event = some after → motive after) : motive last := by
  induction events generalizing first with
  | nil =>
      obtain rfl : first = last := by simpa [run] using ran
      exact start
  | cons event events ih =>
      rw [run, List.foldlM_cons] at ran
      obtain ⟨server, stepped, ranOn⟩ := Option.bind_eq_some_iff.mp ran
      refine ih ranOn (keeps first event server List.mem_cons_self start stepped) ?_
      intro middle next after member
      exact keeps middle next after (List.mem_cons_of_mem event member)

/-- No record of a job is ever lost. -/
theorem receipts_prefix_of_step (stepped : step config server event = some after) :
    server.receipts <+: after.receipts := by
  cases stepped_of_step stepped with
  | finished working advanced => exact List.prefix_append _ _
  | _ => exact List.prefix_refl _

theorem run_append {first second : List Event} :
    run config server (first ++ second) =
      (run config server first).bind fun middle => run config middle second := by
  rw [run, List.foldlM_append]
  rfl

end Server

/-!
## A request for which drivers race

The beginning of some runs for later reference.
-/

namespace Sample

/-- A server that lets only those who take part in a match complete it. -/
def config : ServerConfig where
  host := "127.0.0.1"
  listenPort := 8080
  storePath := ":memory:"
  jwtSecret := "secret"
  sessionHours := 24
  clientId := "carpool"
  tokeninfoUrl := ServerConfig.defaultTokeninfoUrl
  allowedDomains := ["example"]
  publicMethods := ServerConfig.defaultPublicMethods
  completionPolicy := .participants
  requestTimeoutSeconds := 30

/-- A call gives its next job to the connection, which takes so many steps. -/
def serve (number first second steps : Nat) : List Server.Event :=
  .issue number ⟨uuid first, uuid second, moment⟩ :: List.replicate steps .work

/-- Three users are there, and the first of them publishes a request. -/
def opened : List Server.Event :=
  .arrive 1 (.job (.createUser ⟨"rider@example", "", none⟩)) :: serve 1 1 0 4 ++
  .arrive 2 (.job (.createUser ⟨"driver@example", "", none⟩)) :: serve 2 2 0 4 ++
  .arrive 3 (.job (.createUser ⟨"rival@example", "", none⟩)) :: serve 3 3 0 4 ++
  .arrive 4 (.operation (.createRequest rider ⟨"A", "B", moment, 2⟩)) ::
    .tell 4 moment :: serve 4 0 0 2 ++ serve 4 4 0 4

end Sample

end Carpool
