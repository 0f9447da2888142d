import Carpool.Proofs.Server.Abstraction

/-!
# The running system on a server

Whatever the running system comes to, a server comes to as well at which the
same operations arrive.  The connection is given one job at a time: the caller of
one that is answered waits for it to end, and the caller of one that is abandoned
leaves when it has just begun.  So the contents that a server can settle are those
that the system can come to.
-/

namespace Carpool

open Store

namespace Server

variable {config : ServerConfig} {server after : Server} {event : Event} {number : Nat}
  {errand : Errand}

/-! ## Jobs from beginning to end -/

theorem Reaches.refl (config : ServerConfig) (server : Server) : Reaches config server server :=
  ⟨[], by simp, rfl⟩

theorem Reaches.trans {first second third : Server} (earlier : Reaches config first second)
    (later : Reaches config second third) : Reaches config first third := by
  obtain ⟨events, services, ran⟩ := earlier
  obtain ⟨more, servicesOn, ranOn⟩ := later
  refine ⟨events ++ more, fun event member => ?_, ?_⟩
  · exact (List.mem_append.mp member).elim (services event) (servicesOn event)
  · rw [run_append, ran]
    exact ranOn

theorem Stepped.reaches (stepped : Stepped config server event after) (service : event.IsService) :
    Reaches config server after := by
  refine ⟨[event], by simpa using service, ?_⟩
  rw [run, List.foldlM_cons, step_of_stepped stepped]
  rfl

/-- The connection takes the steps of a job one after the other as long as its
caller waits. -/
theorem Reaches.worked {ticket : Ticket} {before : Database}
    (rest : Write (Except StoreError ticket.job.Result)) (connection : Connection)
    (working : server.work = some ⟨ticket, before, rest, connection.pending⟩)
    (found : server.database = connection.permanent)
    (here : server.isHere ticket.number = true) :
    Reaches config server (server.finish ⟨ticket, before, rest, connection.pending⟩
      (rest.run none connection).1.answer? (rest.run none connection).2) := by
  induction rest, connection using Write.advance_induct generalizing server with
  | ended rest connection ending database advanced =>
      have present : Patience.present none = true := rfl
      rw [Write.run_advance, present, advanced]
      refine (Stepped.finished working ?_).reaches trivial
      rw [here, found]
      exact advanced
  | goesOn rest connection next later advanced ih =>
      have present : Patience.present none = true := rfl
      rw [Write.run_advance, present, advanced]
      have goesOn : Stepped config server .work _ := .goesOn working (by
        rw [here, found]
        exact advanced)
      exact (goesOn.reaches trivial).trans (ih rfl rfl here)

/-- The server once it has begun to carry out a job, with nothing else to do. -/
def underWay (server : Server) (ticket : Ticket) : Server where
  database := server.database
  slots := (server.put ticket.number ⟨ticket.errand, .waiting⟩).slots
  queue := []
  work := some (ticket.begin server.database)
  receipts := server.receipts

theorem underWay_slots (server : Server) (ticket : Ticket) :
    (server.underWay ticket).slots ticket.number = some ⟨ticket.errand, .waiting⟩ := by
  rw [underWay, put_slots, if_pos rfl]

theorem update_underWay (server : Server) (ticket : Ticket) (slot : Slot) :
    Function.update (server.underWay ticket).slots ticket.number (some slot) =
      (server.put ticket.number slot).slots :=
  Function.update_idem _ _ _

/-- A job begins at once if the connection is free. -/
theorem Reaches.begun {ticket : Ticket} (idle : server.work = none) (unqueued : server.queue = [])
    (asks : server.slots ticket.number =
      some ⟨ticket.errand, .going (.ask (.store ticket.job) ticket.next)⟩) :
    Reaches config server (server.underWay ticket) := by
  let waiting : Server :=
    { server.put ticket.number ⟨ticket.errand, .waiting⟩ with queue := [ticket] }
  have issued : Stepped config server (.issue ticket.number ticket.fresh) _ := .issued _ asks
  have begun : Stepped config waiting .work (server.underWay ticket) := .begun idle rfl
  rw [unqueued] at issued
  exact (issued.reaches trivial).trans (begun.reaches trivial)

/-- A job is answered if its caller waits for it. -/
theorem Reaches.answered (ticket : Ticket) {answer : Except StoreError ticket.job.Result}
    {database : Database} (idle : server.work = none) (unqueued : server.queue = [])
    (asks : server.slots ticket.number =
      some ⟨ticket.errand, .going (.ask (.store ticket.job) ticket.next)⟩)
    (ran : ticket.job.runWhile ticket.fresh none server.database = (some answer, database)) :
    Reaches config server
      ⟨database, (server.put ticket.number ⟨ticket.errand, .going (ticket.next answer)⟩).slots, [],
        none,
        server.receipts ++ [(ticket.begin server.database).receipt (some answer) database]⟩ := by
  have here : (server.underWay ticket).isHere ticket.number = true := by
    rw [isHere, underWay_slots]
  have worked : Reaches config (server.underWay ticket) _ :=
    .worked ((ticket.job.plan ticket.fresh).steps server.database) ⟨server.database, none⟩
      rfl rfl here
  rw [Job.runWhile_steps, Write.runOn] at ran
  obtain ⟨answered, rfl⟩ := Prod.mk.inj ran
  rw [answered, finish, deliver, if_pos here, update_underWay] at worked
  exact (Reaches.begun idle unqueued asks).trans worked

/-- A job that can be abandoned is, if its caller leaves when it has just begun. -/
theorem Reaches.abandoned (ticket : Ticket) {patience : Patience} {database : Database}
    (idle : server.work = none) (unqueued : server.queue = [])
    (asks : server.slots ticket.number =
      some ⟨ticket.errand, .going (.ask (.store ticket.job) ticket.next)⟩)
    (ran : ticket.job.runWhile ticket.fresh patience server.database = (none, database)) :
    Reaches config server
      ⟨database, (server.put ticket.number ⟨ticket.errand, .left⟩).slots, [], none,
        server.receipts ++ [(ticket.begin server.database).receipt none database]⟩ := by
  obtain rfl : database = server.database := by
    rcases Job.runWhile_whole ran with ⟨-, same⟩ | patient
    · exact same
    · exact (Job.runWhile_ne_none patient).elim
  obtain ⟨rest, checks⟩ := Job.exists_check ran
  have left : Stepped config (server.underWay ticket) (.leave ticket.number) _ :=
    .left (server.underWay_slots ticket)
  let deserted := (server.underWay ticket).put ticket.number ⟨ticket.errand, .left⟩
  have gone : deserted.isHere ticket.number = false := by
    rw [isHere, put_slots, if_pos rfl]
  have advanced : ((ticket.job.plan ticket.fresh).steps server.database).advance
      (deserted.isHere ticket.number) ⟨server.database, none⟩ =
        .ended .abandoned server.database := by
    rw [checks, gone]
    rfl
  have finished : Stepped config deserted .work
      (deserted.finish (ticket.begin server.database) (Ending.answer? .abandoned)
        server.database) :=
    .finished rfl advanced
  have slots : deserted.slots = (server.put ticket.number ⟨ticket.errand, .left⟩).slots :=
    update_underWay server ticket _
  rw [Ending.answer?, finish, deliver, slots] at finished
  exact (Reaches.begun idle unqueued asks).trans
    ((left.reaches trivial).trans (finished.reaches trivial))

/-! ## Systems on a server -/

/-- The calls of a system are those that go on at a server, by the numbers of a
roster, and the connection is free. -/
structure Hosts (config : ServerConfig) (server : Server) (roster : Roster)
    (system : System) : Prop extends Tallies config server system where
  running : system.running = roster.map Prod.snd
  distinct : (roster.map Prod.fst).Nodup
  going : ∀ call ∈ roster, server.slots call.1 =
    some ⟨.operation call.2.operation, .going call.2.rest⟩
  listed : ∀ {number : Nat} {errand : Errand} {rest : Call errand.Reply},
    server.slots number = some ⟨errand, .going rest⟩ →
      ∃ running, (number, running) ∈ roster ∧ Carries config errand rest running
  idle : server.work = none
  unqueued : server.queue = []
  /-- There is always a number for one more call. -/
  free : ∃ bound, ∀ number, bound ≤ number → server.slots number = none

variable {start : Database} {roster earlier later : Roster} {system system' : System}
  {running next : Running} {happening : System.Event}

theorem mem_split {entry call : Nat × Running} (listed : entry ∈ earlier ++ later) :
    entry ∈ earlier ++ call :: later := by
  rcases List.mem_append.mp listed with first | second
  · exact List.mem_append_left _ first
  · exact List.mem_append_right _ (List.mem_cons_of_mem call second)

theorem Hosts.opening (config : ServerConfig) (start : Database) :
    Hosts config (opening start) [] ⟨start, [], []⟩ where
  database := rfl
  history := .nil
  running := rfl
  distinct := .nil
  going call member := by cases member
  listed found := by cases found
  idle := rfl
  unqueued := rfl
  free := ⟨0, fun number above => rfl⟩

theorem Hosts.agrees (hosts : Hosts config server roster system) :
    Agrees config server system where
  toTallies := hosts.toTallies
  calls found := by
    obtain ⟨running, listed, carries⟩ := hosts.listed found
    exact .inr ⟨running, hosts.running ▸ List.mem_map_of_mem listed, carries⟩

theorem Hosts.database_eq (hosts : Hosts config server roster system) :
    system.database = server.database :=
  hosts.database.trans (settled_of_idle hosts.idle)

theorem Hosts.exists_split (hosts : Hosts config server roster system) {place : Nat}
    (found : system.running[place]? = some running) :
    ∃ earlier number later, roster = earlier ++ (number, running) :: later ∧
      earlier.length = place := by
  rw [hosts.running, List.getElem?_map, Option.map_eq_some_iff] at found
  obtain ⟨⟨number, running⟩, found, rfl⟩ := found
  obtain ⟨inside, found⟩ := List.getElem?_eq_some_iff.mp found
  refine ⟨roster.take place, number, roster.drop (place + 1), ?_, ?_⟩
  · rw [← found, List.getElem_cons_drop, List.take_append_drop]
  · exact List.length_take_of_le inside.le

theorem Hosts.going_of_split
    (hosts : Hosts config server (earlier ++ (number, running) :: later) system) :
    server.slots number = some ⟨.operation running.operation, .going running.rest⟩ :=
  hosts.going (number, running) (by simp)

/-- No other call has the number of one that is listed. -/
theorem Hosts.apart (hosts : Hosts config server (earlier ++ (number, running) :: later) system) :
    number ∉ (earlier ++ later).map Prod.fst ∧ ((earlier ++ later).map Prod.fst).Nodup := by
  have distinct := hosts.distinct
  rwa [List.map_append, List.map_cons, List.nodup_middle, ← List.map_append,
    List.nodup_cons] at distinct

/-- What is put in the place of one call leaves the others as they are. -/
theorem Hosts.going_put
    (hosts : Hosts config server (earlier ++ (number, running) :: later) system) (slot : Slot) :
    ∀ call ∈ earlier ++ later, (server.put number slot).slots call.1 =
      some ⟨.operation call.2.operation, .going call.2.rest⟩ := by
  intro call member
  have other : call.1 ≠ number := by
    rintro rfl
    exact hosts.apart.1 (List.mem_map_of_mem member)
  rw [put_slots, if_neg other]
  exact hosts.going call (mem_split member)

theorem Hosts.free_put
    (hosts : Hosts config server (earlier ++ (number, running) :: later) system) (slot : Slot) :
    ∃ bound, ∀ other, bound ≤ other → (server.put number slot).slots other = none := by
  obtain ⟨bound, free⟩ := hosts.free
  refine ⟨bound, fun other above => ?_⟩
  have different : other ≠ number := by
    rintro rfl
    exact nomatch hosts.going_of_split.symm.trans (free other above)
  rw [put_slots, if_neg different]
  exact free other above

/-- A call that goes on beside another that is put anew is listed beside it. -/
theorem Hosts.listed_put
    (hosts : Hosts config server (earlier ++ (number, running) :: later) system) {slot : Slot}
    {other : Nat} (different : other ≠ number) {rest : Call errand.Reply}
    (found : (server.put number slot).slots other = some ⟨errand, .going rest⟩) :
    ∃ running, (other, running) ∈ earlier ++ later ∧ Carries config errand rest running := by
  rw [put_slots, if_neg different] at found
  obtain ⟨running, listed, carries⟩ := hosts.listed found
  exact ⟨running, by simpa [different] using listed, carries⟩

/-- One call goes on, at the server and in the system. -/
theorem Hosts.goesOn (hosts : Hosts config server (earlier ++ (number, running) :: later) system)
    (tallies : Tallies config after system')
    (slots : after.slots =
      (server.put number ⟨.operation next.operation, .going next.rest⟩).slots)
    (idle : after.work = none) (unqueued : after.queue = [])
    (calls : system'.running = system.running.set earlier.length next) :
    Hosts config after (earlier ++ (number, next) :: later) system' where
  toTallies := tallies
  running := by
    rw [calls, hosts.running]
    simp
  distinct := by
    have distinct := hosts.distinct
    rwa [List.map_append, List.map_cons] at distinct ⊢
  going call member := by
    have others := hosts.going_put ⟨.operation next.operation, .going next.rest⟩
    rw [slots]
    rcases List.mem_append.mp member with first | second
    · exact others call (List.mem_append_left _ first)
    · rcases List.mem_cons.mp second with rfl | second
      · rw [put_slots, if_pos rfl]
      · exact others call (List.mem_append_right _ second)
  listed {other errand rest} found := by
    rw [slots] at found
    by_cases own : other = number
    · subst own
      rw [put_slots, if_pos rfl] at found
      cases found
      exact ⟨next, by simp, rfl⟩
    · obtain ⟨running, listed, carries⟩ := hosts.listed_put own found
      exact ⟨running, mem_split listed, carries⟩
  idle := idle
  unqueued := unqueued
  free := slots ▸ hosts.free_put _

/-- One call is over, at the server and in the system. -/
theorem Hosts.gone (hosts : Hosts config server (earlier ++ (number, running) :: later) system)
    (tallies : Tallies config after system')
    (slots : after.slots = (server.put number ⟨.operation running.operation, .left⟩).slots)
    (idle : after.work = none) (unqueued : after.queue = [])
    (calls : system'.running = system.running.eraseIdx earlier.length) :
    Hosts config after (earlier ++ later) system' where
  toTallies := tallies
  running := by
    rw [calls, hosts.running]
    simp [List.eraseIdx_append_of_length_le]
  distinct := hosts.apart.2
  going := slots ▸ hosts.going_put _
  listed {other errand rest} found := by
    rw [slots] at found
    by_cases own : other = number
    · subst own
      rw [put_slots, if_pos rfl] at found
      cases found
    · exact hosts.listed_put own found
  idle := idle
  unqueued := unqueued
  free := slots ▸ hosts.free_put _

/-- A job for an operation is recorded by the server as by the system. -/
theorem Tallies.recorded (tallies : Tallies config server system)
    (same : system.database = server.database) (number : Nat) (action : Operation) (job : Job)
    (fresh : Fresh) (answer : Option (Except StoreError job.Result)) (database : Database)
    (slots : Nat → Option Slot) (calls : List Running) :
    Tallies config
      ⟨database, slots, [], none, server.receipts ++
        [⟨number, .operation action, job, fresh, answer, server.database, database⟩]⟩
      ⟨database, calls, system.history ++
        [⟨action, job, fresh, answer, system.database, database⟩]⟩ where
  database := rfl
  history := by
    refine List.rel_append tallies.history (.cons ⟨[], action, .operation action, ?_⟩ .nil)
    rw [same]
    rfl

/-- A call arrives, at the server under a number that is free. -/
theorem Hosts.arrived (hosts : Hosts config server roster system) {bound : Nat}
    (action : Operation) (free : ∀ number, bound ≤ number → server.slots number = none) :
    Hosts config (server.put bound ⟨.operation action, .going (action.call config.setup)⟩)
      (roster ++ [(bound, action.start config.setup)])
      { system with running := system.running ++ [action.start config.setup] } := by
  have other : ∀ call ∈ roster, call.1 ≠ bound := by
    rintro call member rfl
    exact nomatch (hosts.going call member).symm.trans (free call.1 le_rfl)
  refine ⟨⟨hosts.database, hosts.history⟩, ?_, ?_, fun call member => ?_, fun found => ?_,
    hosts.idle, hosts.unqueued, bound + 1, fun number above => ?_⟩
  · rw [hosts.running, List.map_append]
    rfl
  · rw [List.map_append]
    refine List.Nodup.append hosts.distinct (by simp) fun number old new => ?_
    obtain ⟨call, member, rfl⟩ := List.mem_map.mp old
    exact other call member (by simpa using new)
  · rcases List.mem_append.mp member with old | new
    · rw [put_slots, if_neg (other call old)]
      exact hosts.going call old
    · obtain rfl := List.mem_singleton.mp new
      rw [put_slots, if_pos rfl]
      rfl
  · rw [put_slots] at found
    split at found
    · rename_i own
      subst own
      cases found
      exact ⟨action.start config.setup, by simp, rfl⟩
    · obtain ⟨running, listed, carries⟩ := hosts.listed found
      exact ⟨running, List.mem_append_left _ listed, carries⟩
  · rw [put_slots, if_neg (by omega)]
    exact free number (by omega)

/-- A server can go on to host a system. -/
def CanHost (config : ServerConfig) (server : Server) (system : System) : Prop :=
  ∃ roster later, Reaches config server later ∧ Hosts config later roster system

/-- Each step of a system can be taken by the server that hosts it. -/
theorem Hosts.step (hosts : Hosts config server roster system)
    (stepped : System.Stepped config.setup system happening system') :
    CanHost config server system' := by
  cases stepped with
  | arrived action =>
      obtain ⟨bound, free⟩ := hosts.free
      have arrived : Stepped config server (.arrive bound (.operation action)) _ :=
        .arrived _ (free bound le_rfl)
      exact ⟨_, _, arrived.reaches trivial, hosts.arrived action free⟩
  | left place found =>
      obtain ⟨earlier, number, later, rfl, rfl⟩ :=
        hosts.exists_split (List.getElem?_eq_getElem found)
      have left : Stepped config server (.leave number) _ := .left hosts.going_of_split
      exact ⟨_, _, left.reaches trivial,
        hosts.gone ⟨hosts.database, hosts.history⟩ rfl hosts.idle hosts.unqueued rfl⟩
  | timed given asks =>
      obtain ⟨earlier, number, later, rfl, rfl⟩ := hosts.exists_split asks
      have told : Stepped config server (.tell number given.fresh.now) _ :=
        .told _ hosts.going_of_split
      exact ⟨_, _, told.reaches trivial,
        hosts.goesOn ⟨hosts.database, hosts.history⟩ rfl hosts.idle hosts.unqueued rfl⟩
  | introspected given asks =>
      obtain ⟨earlier, number, later, rfl, rfl⟩ := hosts.exists_split asks
      have reported : Stepped config server (.report number given.reply) _ :=
        .reported _ hosts.going_of_split
      exact ⟨_, _, reported.reaches trivial,
        hosts.goesOn ⟨hosts.database, hosts.history⟩ rfl hosts.idle hosts.unqueued rfl⟩
  | @answered place action job next given answer database asks ran =>
      obtain ⟨earlier, number, later, rfl, rfl⟩ := hosts.exists_split asks
      -- a job that is answered would be so for a caller who stays
      obtain ⟨contra, -⟩ | patient := Job.runWhile_whole ran
      · cases contra
      rw [hosts.database_eq] at patient
      let ticket : Ticket := ⟨number, .operation action, job, given.fresh, next⟩
      exact ⟨_, _, .answered ticket hosts.idle hosts.unqueued hosts.going_of_split patient,
        hosts.goesOn (hosts.toTallies.recorded hosts.database_eq ..) rfl rfl rfl rfl⟩
  | @abandoned place action job next given database asks ran =>
      obtain ⟨earlier, number, later, rfl, rfl⟩ := hosts.exists_split asks
      rw [hosts.database_eq] at ran
      let ticket : Ticket := ⟨number, .operation action, job, given.fresh, next⟩
      exact ⟨_, _, .abandoned ticket hosts.idle hosts.unqueued hosts.going_of_split ran,
        hosts.gone (hosts.toTallies.recorded hosts.database_eq ..) rfl rfl rfl rfl⟩

/-- Whatever a system comes to, a server comes to as well for operations. -/
theorem exists_server (reaches : System.Reaches config.setup ⟨start, [], []⟩ system) :
    ∃ server, Reaches config (opening start) server ∧ Agrees config server system ∧
      ∀ running ∈ system.running, ∃ number, server.slots number =
        some ⟨.operation running.operation, .going running.rest⟩ := by
  have hosted : CanHost config (opening start) system := by
    refine reaches.induct ⟨[], _, .refl config _, .opening config start⟩ ?_
    intro middle event after _ ⟨roster, server, came, hosts⟩ stepped
    obtain ⟨later, server', cameOn, hostsOn⟩ := hosts.step (System.stepped_of_step stepped)
    exact ⟨later, server', came.trans cameOn, hostsOn⟩
  obtain ⟨roster, server, came, hosts⟩ := hosted
  refine ⟨server, came, hosts.agrees, fun running member => ?_⟩
  rw [hosts.running] at member
  obtain ⟨call, listed, rfl⟩ := List.mem_map.mp member
  exact ⟨call.1, hosts.going call listed⟩

/-- The contents that a server can settle are those that a system can come to. -/
theorem settles_iff_reaches {database : Database} :
    (∃ server, Reaches config (opening start) server ∧ server.settled = database) ↔
      ∃ system, System.Reaches config.setup ⟨start, [], []⟩ system ∧
        system.database = database := by
  constructor
  · rintro ⟨server, reaches, rfl⟩
    obtain ⟨system, came, agrees⟩ := reaches.exists_system
    exact ⟨system, came, agrees.database⟩
  · rintro ⟨system, reaches, rfl⟩
    obtain ⟨server, came, agrees, -⟩ := exists_server reaches
    exact ⟨server, came, agrees.database.symm⟩

end Server

end Carpool
