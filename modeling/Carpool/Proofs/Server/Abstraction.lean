import Carpool.Proofs.Server.Entrustment
import Carpool.Proofs.Server.Record

/-!
# The server as a running system

Whatever the server does for requests and calls to the services, the running
system can do as well.  A job shows in the system when it ends, as one step for
a caller with some patience.  A request is there as the operation that it is
read as, from the moment that the gate has let it in.
-/

namespace Carpool

open Store

/-- The record of a job, as that of a job for an operation. -/
def Receipt.entry (receipt : Receipt) (operation : Operation) : Entry :=
  ⟨operation, receipt.job, receipt.fresh, receipt.answer, receipt.before, receipt.after⟩

def Errand.IsRequest : Errand → Prop
  | .request _ => True
  | _ => False

/-- What a call is given that reads the clock or hears from the identity provider. -/
def Given.reading (now : Instant) (reply : ProviderReply) : Given :=
  ⟨⟨.ofNat 0, .ofNat 0, now⟩, none, reply⟩

namespace Server

variable {config : ServerConfig} {errand : Errand}

/-! ## Errands as operations -/

/-- An operation is under way for an errand, and what is left of the errand is
what is left of the operation. -/
def Carries (config : ServerConfig) : (errand : Errand) → Call errand.Reply → Running → Prop
  | .request message, rest, running =>
      (∃ gate, Performs config (.request message) gate running.operation) ∧
        rest = running.rest.map fun reply =>
          Api.respond (Api.present running.operation reply)
  | .operation action, rest, running => running = ⟨action, rest⟩
  | .job _, _, _ => False

/-- An errand begins with an operation. -/
def Begins (config : ServerConfig) (errand : Errand) (rest : Call errand.Reply) : Prop :=
  ∃ action : Operation, Carries config errand rest (action.start config.setup)

/-- No operation is under way for a request: it has been answered, or waits for the
gate to let it in. -/
inductive Idles (config : ServerConfig) (errand : Errand) : Call errand.Reply → Prop
  | ended (isRequest : errand.IsRequest) (reply : errand.Reply) :
      Idles config errand (.done reply)
  | gate {next : Instant → Call errand.Reply} (isRequest : errand.IsRequest)
      (opens : ∀ now, (∃ reply, next now = .done reply) ∨ Begins config errand (next now)) :
      Idles config errand (.ask .clock next)

theorem Carries.of_ask {query : Query} {next : query.Answer → Call errand.Reply}
    {running : Running} (carries : Carries config errand (.ask query next) running) :
    ∃ gate action following, Performs config errand gate action ∧
      running = ⟨action, .ask query following⟩ ∧
      ∀ answer, Carries config errand (next answer) ⟨action, following answer⟩ := by
  cases errand with
  | request message =>
      obtain ⟨action, rest⟩ := running
      obtain ⟨⟨gate, performs⟩, same⟩ := carries
      cases rest with
      | done reply => cases same
      | ask asked following =>
          cases same
          exact ⟨gate, action, following, performs, rfl, fun answer => ⟨⟨gate, performs⟩, rfl⟩⟩
  | operation action => exact ⟨[], action, next, .operation action, carries, fun answer => rfl⟩
  | job task => exact carries.elim

theorem begins_of_attend {message : Api.Request} {method : Method} {caller : Option Identity}
    {gate : List Exchange} (named : Method.ofPath? message.path = some method)
    (enters : Api.Enters config message gate caller) :
    (∃ reply, Api.attend config method caller message = .done reply) ∨
      Begins config (.request message) (Api.attend config method caller message) := by
  rw [Api.attend]
  split
  · cases commanded : Api.command method caller message with
    | error error => exact .inl ⟨_, rfl⟩
    | ok action =>
        exact .inr ⟨action, ⟨gate, .request named enters commanded⟩, Call.map_map _ _ _⟩
  · exact .inl ⟨_, rfl⟩

/-- Whoever wants something of the services waits for the gate, is answered at
once, or begins with an operation. -/
theorem idles_or_begins (service : IsService errand) :
    Idles config errand (errand.call config) ∨ Begins config errand (errand.call config) := by
  cases errand with
  | request message =>
      change Idles config (.request message) (Api.answer config message) ∨
        Begins config (.request message) (Api.answer config message)
      cases named : Method.ofPath? message.path with
      | none =>
          rw [Api.answer_of_unknown config named]
          exact .inl (@Idles.ended config (.request message) trivial _)
      | some method =>
          rw [Api.answer_shape config named]
          split
          · rename_i isPublic
            refine (begins_of_attend named (.openly isPublic)).imp_left ?_
            rintro ⟨reply, ended⟩
            rw [ended]
            exact @Idles.ended config (.request message) trivial reply
          · rename_i gated
            refine .inl (.gate trivial fun now => ?_)
            split
            · exact .inl ⟨_, rfl⟩
            · exact begins_of_attend named (.verified (by simpa using gated) ‹_›)
  | operation action => exact .inr ⟨action, rfl⟩
  | job task => exact service.elim

/-! ## Rosters -/

/-- The calls under way in a system, with the numbers that they have with a
server. -/
abbrev Roster := List (Nat × Running)

/-- All calls of a roster but one are on another roster too. -/
def Roster.Keeps (roster : Roster) (number : Nat) (later : Roster) : Prop :=
  ∀ other running, other ≠ number → (other, running) ∈ roster → (other, running) ∈ later

theorem Roster.Keeps.refl (roster : Roster) (number : Nat) : roster.Keeps number roster :=
  fun _ _ _ listed => listed

theorem Roster.Keeps.append (roster more : Roster) (number : Nat) :
    roster.Keeps number (roster ++ more) :=
  fun _ _ _ listed => List.mem_append_left more listed

/-- A call that is listed has a place in the system, where it can be put anew and
from which it can be taken. -/
theorem Roster.exists_place {roster : Roster} {number : Nat} {running : Running}
    (listed : (number, running) ∈ roster) :
    ∃ place, (roster.map Prod.snd)[place]? = some running ∧
      (∀ next, ∃ later : Roster, (roster.map Prod.snd).set place next = later.map Prod.snd ∧
        (number, next) ∈ later ∧ roster.Keeps number later) ∧
      ∃ later : Roster, (roster.map Prod.snd).eraseIdx place = later.map Prod.snd ∧
        roster.Keeps number later := by
  obtain ⟨earlier, after, rfl⟩ := List.append_of_mem listed
  refine ⟨earlier.length, by simp, fun next => ?_, earlier ++ after, ?_, ?_⟩
  · refine ⟨earlier ++ (number, next) :: after, by simp, by simp, ?_⟩
    intro other running different listed
    simpa [different] using listed
  · simp [List.eraseIdx_append_of_length_le]
  · intro other running different listed
    simpa [different] using listed

/-! ## Servers and systems that agree -/

/-- A job has been carried out for an errand, and for an operation that the errand
carries out. -/
def Matches (config : ServerConfig) (receipt : Receipt) (entry : Entry) : Prop :=
  ∃ gate action, Performs config receipt.errand gate action ∧ entry = receipt.entry action

/-- A server and a system have carried out the same jobs, one after the other with
the same answers, and have come to the same contents. -/
structure Tallies (config : ServerConfig) (server : Server) (system : System) : Prop where
  database : system.database = server.settled
  history : List.Forall₂ (Matches config) server.receipts system.history

/-- A server and a system have carried out the same jobs, and the operations that
go on at the server, for themselves or for a request, are under way in the
system. -/
structure Agrees (config : ServerConfig) (server : Server) (system : System) : Prop
    extends Tallies config server system where
  calls : ∀ {number : Nat} {errand : Errand} {rest : Call errand.Reply},
    server.slots number = some ⟨errand, .going rest⟩ → Idles config errand rest ∨
      ∃ running ∈ system.running, Carries config errand rest running

/-- The calls of a server are those of a system that a roster lists for them.  A
call that has been left stays on the roster, for a job of it may yet be carried
out. -/
structure Mirrors (config : ServerConfig) (server : Server) (roster : Roster)
    (system : System) : Prop extends Tallies config server system where
  running : system.running = roster.map Prod.snd
  going : ∀ {number : Nat} {errand : Errand} {rest : Call errand.Reply},
    server.slots number = some ⟨errand, .going rest⟩ → Idles config errand rest ∨
      ∃ running, (number, running) ∈ roster ∧ Carries config errand rest running
  outstanding : ∀ ticket ∈ server.tickets, ∃ running, (ticket.number, running) ∈ roster ∧
    Carries config ticket.errand (.ask (.store ticket.job) ticket.next) running

/-- The system can go on to mirror a server. -/
def CanMirror (config : ServerConfig) (system : System) (server : Server) : Prop :=
  ∃ roster later, System.Reaches config.setup system later ∧ Mirrors config server roster later

variable {start : Database} {server after : Server} {event : Event} {number : Nat}
  {roster later : Roster} {system : System}

theorem Mirrors.opening (config : ServerConfig) (start : Database) :
    Mirrors config (opening start) [] ⟨start, [], []⟩ where
  database := rfl
  history := .nil
  running := rfl
  going found := by cases found
  outstanding ticket member := by cases member

theorem Mirrors.agrees (mirrors : Mirrors config server roster system) :
    Agrees config server system where
  toTallies := mirrors.toTallies
  calls found := by
    refine (mirrors.going found).imp_right ?_
    rintro ⟨running, listed, carries⟩
    exact ⟨running, mirrors.running ▸ List.mem_map_of_mem listed, carries⟩

/-- A call of the server goes on without a job, and so does the one that the
roster lists for it. -/
theorem Mirrors.put (mirrors : Mirrors config server roster system)
    {rest : Call errand.Reply} (keeps : roster.Keeps number later)
    (apart : ∀ ticket ∈ server.tickets, ticket.number ≠ number)
    (stands : Idles config errand rest ∨
      ∃ running, (number, running) ∈ later ∧ Carries config errand rest running) :
    Mirrors config (server.put number ⟨errand, .going rest⟩) later
      { system with running := later.map Prod.snd } where
  database := mirrors.database
  history := mirrors.history
  running := rfl
  going {other _ _} found := by
    rw [put_slots] at found
    split at found
    · subst other
      cases found
      exact stands
    · rename_i different
      refine (mirrors.going found).imp_right ?_
      rintro ⟨running, listed, carries⟩
      exact ⟨running, keeps other running different listed, carries⟩
  outstanding ticket member := by
    obtain ⟨running, listed, carries⟩ := mirrors.outstanding ticket member
    exact ⟨running, keeps ticket.number running (apart ticket member) listed, carries⟩

/-- The step of the system for an errand that begins. -/
theorem Mirrors.begins (mirrors : Mirrors config server roster system) {rest : Call errand.Reply}
    (apart : ∀ ticket ∈ server.tickets, ticket.number ≠ number)
    (begins : Begins config errand rest) :
    CanMirror config system (server.put number ⟨errand, .going rest⟩) := by
  obtain ⟨action, carries⟩ := begins
  refine ⟨roster ++ [(number, action.start config.setup)], _,
    (System.Stepped.arrived action).reaches, ?_⟩
  have same : system.running ++ [action.start config.setup] =
      (roster ++ [(number, action.start config.setup)]).map Prod.snd := by
    rw [mirrors.running, List.map_append]
    rfl
  rw [same]
  exact mirrors.put (.append _ _ _) apart (.inr ⟨_, by simp, carries⟩)

/-- An errand for which no operation is under way takes no step of the system. -/
theorem Mirrors.idles (mirrors : Mirrors config server roster system) {rest : Call errand.Reply}
    (apart : ∀ ticket ∈ server.tickets, ticket.number ≠ number)
    (idles : Idles config errand rest) :
    CanMirror config system (server.put number ⟨errand, .going rest⟩) := by
  refine ⟨roster, system, .refl system, ?_⟩
  have put := mirrors.put (.refl roster number) apart (.inl idles)
  rw [← mirrors.running] at put
  exact put

/-! ## Steps of the server in the system -/

/-- The operation that is under way for an errand is answered a question that is
no job. -/
theorem Mirrors.goesOn (mirrors : Mirrors config server roster system) (query : Query)
    {next : query.Answer → Call errand.Reply} {running : Running} (answer : query.Answer)
    (given : Given) (apart : ∀ ticket ∈ server.tickets, ticket.number ≠ number)
    (listed : (number, running) ∈ roster)
    (carries : Carries config errand (.ask query next) running)
    (proceeds : ∀ {place : Nat} {action : Operation} {following : query.Answer → Call action.Reply},
      system.running[place]? = some ⟨action, .ask query following⟩ →
        System.Stepped config.setup system (.proceed place given)
          (system.advance place ⟨action, following answer⟩)) :
    CanMirror config system (server.put number ⟨errand, .going (next answer)⟩) := by
  obtain ⟨gate, action, following, -, rfl, carriesOn⟩ := carries.of_ask
  obtain ⟨place, found, put, -⟩ := Roster.exists_place listed
  obtain ⟨later, same, listedOn, keeps⟩ := put ⟨action, following answer⟩
  rw [← mirrors.running] at found same
  refine ⟨later, _, (proceeds found).reaches, ?_⟩
  rw [System.advance, same]
  exact mirrors.put keeps apart (.inr ⟨_, listedOn, carriesOn answer⟩)

theorem Mirrors.told (mirrors : Mirrors config server roster system)
    {next : Instant → Call errand.Reply} (now : Instant)
    (apart : ∀ ticket ∈ server.tickets, ticket.number ≠ number)
    (asks : server.slots number = some ⟨errand, .going (.ask .clock next)⟩) :
    CanMirror config system (server.put number ⟨errand, .going (next now)⟩) := by
  rcases mirrors.going asks with idles | ⟨running, listed, carries⟩
  · cases idles with
    | gate isRequest opens =>
        rcases opens now with ⟨reply, ended⟩ | begins
        · exact mirrors.idles apart (ended ▸ .ended isRequest reply)
        · exact mirrors.begins apart begins
  · exact mirrors.goesOn .clock now (.reading now (.unreachable "")) apart listed carries
      fun asks => .timed _ asks

theorem Mirrors.reported (mirrors : Mirrors config server roster system) {token : String}
    {next : ProviderReply → Call errand.Reply} (reply : ProviderReply)
    (apart : ∀ ticket ∈ server.tickets, ticket.number ≠ number)
    (asks : server.slots number = some ⟨errand, .going (.ask (.introspect token) next)⟩) :
    CanMirror config system (server.put number ⟨errand, .going (next reply)⟩) := by
  rcases mirrors.going asks with idles | ⟨running, listed, carries⟩
  · cases idles
  · exact mirrors.goesOn (.introspect token) reply (.reading .epoch reply) apart listed carries
      fun asks => .introspected _ asks

/-- A job leaves the connection, and the calls are listed that are left in the
system. -/
theorem Mirrors.finish (mirrors : Mirrors config server roster system) (orderly : server.Orderly)
    {work : Work} {answer : Option (Except StoreError work.ticket.job.Result)}
    {database : Database} {gate : List Exchange} {action : Operation}
    (working : server.work = some work) (keeps : roster.Keeps work.ticket.number later)
    (performs : Performs config work.ticket.errand gate action)
    (delivered : ∀ result, answer = some result → ∃ running,
      (work.ticket.number, running) ∈ later ∧
        Carries config work.ticket.errand (work.ticket.next result) running) :
    Mirrors config (server.finish work answer database) later
      ⟨database, later.map Prod.snd, system.history ++
        [⟨action, work.ticket.job, work.ticket.fresh, answer, system.database, database⟩]⟩ where
  database := rfl
  history := by
    refine List.rel_append mirrors.history (.cons ⟨gate, action, performs, ?_⟩ .nil)
    rw [mirrors.database, settled_of_work working]
    rfl
  running := rfl
  going {number errand rest} going := by
    have held := orderly.held work.ticket (mem_tickets_of_work working)
    obtain same | ⟨-, rfl, result, answered, slot⟩ :=
      server.finish_slots work answer database number
    · rw [same] at going
      have other : number ≠ work.ticket.number := by
        rintro rfl
        exact held.not_going going
      refine (mirrors.going going).imp_right ?_
      rintro ⟨running, listed, carries⟩
      exact ⟨running, keeps number running other listed, carries⟩
    · rw [slot] at going
      cases going
      exact .inr (delivered result answered)
  outstanding ticket member := by
    have listed := tickets_finish working answer database
    obtain ⟨running, found, carries⟩ :=
      mirrors.outstanding ticket (listed ▸ List.mem_cons_of_mem _ member)
    have other := orderly.elsewhere working member
    exact ⟨running, keeps ticket.number running other.symm found, carries⟩

/-- The end of a job is one step of the system. -/
theorem Mirrors.finished (mirrors : Mirrors config server roster system)
    (orderly : server.Orderly) {work : Work} {patience : Patience}
    {answer : Option (Except StoreError work.ticket.job.Result)} {database : Database}
    (working : server.work = some work)
    (ran : work.ticket.job.runWhile work.ticket.fresh patience work.before = (answer, database)) :
    CanMirror config system (server.finish work answer database) := by
  obtain ⟨running, listed, carries⟩ :=
    mirrors.outstanding work.ticket (mem_tickets_of_work working)
  obtain ⟨gate, action, following, performs, rfl, goesOn⟩ := carries.of_ask
  obtain ⟨place, found, put, taken⟩ := Roster.exists_place listed
  rw [← settled_of_work working, ← mirrors.database] at ran
  rw [← mirrors.running] at found put taken
  let given : Given := ⟨work.ticket.fresh, patience, .unreachable ""⟩
  cases answer with
  | none =>
      obtain ⟨later, same, keeps⟩ := taken
      refine ⟨later, _, (System.Stepped.abandoned given found ran).reaches, ?_⟩
      rw [same]
      exact mirrors.finish orderly working keeps performs (by simp)
  | some result =>
      obtain ⟨later, same, listedOn, keeps⟩ := put ⟨action, following result⟩
      refine ⟨later, _, (System.Stepped.answered given found ran).reaches, ?_⟩
      rw [same]
      refine mirrors.finish orderly working keeps performs ?_
      rintro _ ⟨⟩
      exact ⟨_, listedOn, goesOn result⟩

/-- No call goes on because another has come to wait or has been left. -/
theorem going_of_put {held : Errand} {standing : Standing held.Reply}
    (rests : ∀ rest, standing ≠ .going rest) {other : Nat} {rest : Call errand.Reply}
    (going : (server.put number ⟨held, standing⟩).slots other = some ⟨errand, .going rest⟩) :
    server.slots other = some ⟨errand, .going rest⟩ := by
  rw [put_slots] at going
  split at going
  · cases going
    exact absurd rfl (rests rest)
  · exact going

/-- A step by which no call goes on and no job ends is none of the system. -/
theorem Mirrors.quiet (mirrors : Mirrors config server roster system)
    (settled : after.settled = server.settled) (receipts : after.receipts = server.receipts)
    (going : ∀ {number : Nat} {errand : Errand} {rest : Call errand.Reply},
      after.slots number = some ⟨errand, .going rest⟩ →
        server.slots number = some ⟨errand, .going rest⟩)
    (outstanding : ∀ ticket ∈ after.tickets, ticket ∈ server.tickets ∨
      server.slots ticket.number =
        some ⟨ticket.errand, .going (.ask (.store ticket.job) ticket.next)⟩) :
    Mirrors config after roster system where
  database := mirrors.database.trans settled.symm
  history := receipts ▸ mirrors.history
  running := mirrors.running
  going found := mirrors.going (going found)
  outstanding ticket member := by
    rcases outstanding ticket member with old | asks
    · exact mirrors.outstanding ticket old
    · rcases mirrors.going asks with idles | carried
      · cases idles
      · exact carried

/-- Each step of the server is at most one of the system. -/
theorem Mirrors.step (mirrors : Mirrors config server roster system)
    (carried : CarriedOut start server) (service : event.IsService)
    (stepped : step config server event = some after) :
    CanMirror config system after := by
  cases stepped_of_step stepped with
  | @arrived number errand free =>
      have apart : ∀ ticket ∈ server.tickets, ticket.number ≠ number := by
        rintro ticket member rfl
        obtain ⟨standing, found⟩ := (carried.orderly.held ticket member).knows
        rw [free] at found
        contradiction
      have isService : IsService errand := by
        cases errand with
        | job task => exact service
        | _ => trivial
      rcases idles_or_begins isService with idles | begins
      · exact mirrors.idles apart idles
      · exact mirrors.begins apart begins
  | told now asks =>
      exact mirrors.told now (fun ticket => carried.orderly.apart asks) asks
  | reported reply asks =>
      exact mirrors.reported reply (fun ticket => carried.orderly.apart asks) asks
  | finished working advanced =>
      obtain ⟨patience, ran⟩ := (carried.underWay _ working).ended advanced
      exact mirrors.finished carried.orderly working ran
  | @left number slot found =>
      exact ⟨roster, system, .refl system,
        mirrors.quiet rfl rfl (going_of_put (by simp)) fun _ => .inl⟩
  | @issued number fresh errand job next asks =>
      refine ⟨roster, system, .refl system,
        mirrors.quiet rfl rfl (going_of_put (by simp)) ?_⟩
      intro ticket member
      rw [tickets, ← List.append_assoc] at member
      refine (List.mem_append.mp member).imp_right ?_
      intro new
      obtain rfl := List.mem_singleton.mp new
      exact asks
  | begun idle queued =>
      refine ⟨roster, system, .refl system, mirrors.quiet (settled_begun idle _ _) rfl id ?_⟩
      rw [tickets_begun idle queued]
      exact fun _ => .inl
  | goesOn working advanced =>
      refine ⟨roster, system, .refl system,
        mirrors.quiet (settled_goesOn working _ _ _) rfl id ?_⟩
      rw [tickets_goesOn working]
      exact fun _ => .inl

/-- Some run for services leads from one state of the server to another. -/
def Reaches (config : ServerConfig) (first last : Server) : Prop :=
  ∃ events, (∀ event ∈ events, Event.IsService event) ∧ run config first events = some last

/-- Whatever a server comes to for services, the system comes to as well. -/
theorem Reaches.exists_system (reaches : Reaches config (opening start) server) :
    ∃ system, System.Reaches config.setup ⟨start, [], []⟩ system ∧ Agrees config server system := by
  obtain ⟨events, services, ran⟩ := reaches
  obtain ⟨-, roster, system, came, mirrors⟩ :
      CarriedOut start server ∧ CanMirror config ⟨start, [], []⟩ server := by
    refine run_induct
      (motive := fun server => CarriedOut start server ∧ CanMirror config ⟨start, [], []⟩ server)
      ran ⟨.opening start, [], _, .refl _, .opening config start⟩ ?_
    intro middle event after member ⟨carried, roster, system, came, mirrors⟩ stepped
    obtain ⟨later, system', cameOn, mirrorsOn⟩ :=
      mirrors.step carried (services event member) stepped
    exact ⟨carried.step stepped, later, system', came.trans cameOn, mirrorsOn⟩
  exact ⟨system, came, mirrors.agrees⟩

end Server

end Carpool
