import Carpool.Proofs.Api.Transcript
import Carpool.Proofs.Server.Conduct

/-!
# The record of a run

The events of a run and the jobs that have ended in it bear out how each call
has come to where it stands: it has asked what its errand asks, it was told
what the events say, and its jobs were answered as their receipts say, in that
order.
-/

namespace Carpool

open Store

namespace Server

/-- The events of a run and the jobs of a call that have ended bear a transcript
of the call out. -/
inductive Recorded (events : List Event) (number : Nat) :
    List Receipt → List Exchange → Prop
  | nil : Recorded events number [] []
  | told {own : List Receipt} {later : List Exchange} {now : Instant}
      (told : .tell number now ∈ events) (rest : Recorded events number own later) :
      Recorded events number own (.clock now :: later)
  | reported {own : List Receipt} {later : List Exchange} {token : String}
      {reply : ProviderReply} (reported : .report number reply ∈ events)
      (rest : Recorded events number own later) :
      Recorded events number own (.introspect token reply :: later)
  | answered {own : List Receipt} {later : List Exchange} {caller : Nat} {errand : Errand}
      {job : Job} {fresh : Fresh} {answer : Except StoreError job.Result}
      {before after : Database} (rest : Recorded events number own later) :
      Recorded events number (⟨caller, errand, job, fresh, some answer, before, after⟩ :: own)
        (.store job answer :: later)

variable {config : ServerConfig} {events : List Event} {number : Nat} {server : Server}

theorem Recorded.own_eq_nil {own : List Receipt} (recorded : Recorded events number own []) :
    own = [] := by
  cases recorded
  rfl

theorem Recorded.append {first second : List Receipt} {earlier later : List Exchange}
    (before : Recorded events number first earlier)
    (after : Recorded events number second later) :
    Recorded events number (first ++ second) (earlier ++ later) := by
  induction before with
  | nil => exact after
  | told told _ ih => exact .told told ih
  | reported reported _ ih => exact .reported reported ih
  | answered _ ih => exact .answered ih

theorem Recorded.of_clock {own : List Receipt} {later : List Exchange} {now : Instant}
    (recorded : Recorded events number own (.clock now :: later)) :
    .tell number now ∈ events ∧ Recorded events number own later := by
  cases recorded with
  | told told rest => exact ⟨told, rest⟩

theorem Recorded.of_introspect {own : List Receipt} {later : List Exchange} {token : String}
    {reply : ProviderReply}
    (recorded : Recorded events number own (.introspect token reply :: later)) :
    .report number reply ∈ events ∧ Recorded events number own later := by
  cases recorded with
  | reported reported rest => exact ⟨reported, rest⟩

theorem Recorded.of_store {own : List Receipt} {later : List Exchange} {job : Job}
    {answer : Except StoreError job.Result}
    (recorded : Recorded events number own (.store job answer :: later)) :
    ∃ caller errand fresh before after rest,
      own = ⟨caller, errand, job, fresh, some answer, before, after⟩ :: rest ∧
        Recorded events number rest later := by
  cases recorded with
  | answered rest => exact ⟨_, _, _, _, _, _, rfl, rest⟩

theorem mem_receiptsOf_iff {receipt : Receipt} :
    receipt ∈ server.receiptsOf number ↔ receipt ∈ server.receipts ∧ receipt.number = number := by
  simp [receiptsOf]

theorem mem_receipts_of_own {receipt : Receipt} {rest : List Receipt}
    (own : server.receiptsOf number = receipt :: rest) : receipt ∈ server.receipts :=
  (mem_receiptsOf_iff.mp (own ▸ List.mem_cons_self)).1

/-- A call has come to its errand, and all its jobs were asked for in the course
of it, each by what the call knew from the ones before. -/
structure Asked (config : ServerConfig) (events : List Event) (number : Nat) (errand : Errand)
    (own : List Receipt) : Prop where
  arrived : .arrive number errand ∈ events
  each : ∀ earlier receipt later, own = earlier ++ receipt :: later →
    .issue number receipt.fresh ∈ events ∧
      ∃ transcript next, (errand.call config).Leads transcript (.ask (.store receipt.job) next) ∧
        Recorded events number earlier transcript

theorem Asked.concat {errand : Errand} {own : List Receipt} {receipt : Receipt}
    {transcript : List Exchange} {next : Except StoreError receipt.job.Result → Call errand.Reply}
    (asked : Asked config events number errand own)
    (issued : .issue number receipt.fresh ∈ events)
    (leads : (errand.call config).Leads transcript (.ask (.store receipt.job) next))
    (recorded : Recorded events number own transcript) :
    Asked config events number errand (own ++ [receipt]) where
  arrived := asked.arrived
  each earlier other later split := by
    obtain rfl | ⟨before, last, rfl⟩ := List.eq_nil_or_concat later
    · obtain ⟨rfl, same⟩ := List.append_inj' split rfl
      obtain rfl := List.singleton_inj.mp same
      exact ⟨issued, transcript, next, leads, recorded⟩
    · rw [List.concat_eq_append, ← List.cons_append, ← List.append_assoc] at split
      exact asked.each earlier other before (List.append_inj' split rfl).1

/-- How a call has come to where it stands is borne out by what has happened. -/
def record (config : ServerConfig) (events : List Event) : Conduct where
  allows event := event ∈ events
  good _ := True
  grows _ _ := True
  keeps number errand own rest _ :=
    Asked config events number errand own ∧
      ∃ transcript, (errand.call config).Leads transcript rest ∧
        Recorded events number own transcript
  tells number errand own := Asked config events number errand own

theorem record_lawful (config : ServerConfig) (events : List Event) :
    (record config events).Lawful config where
  begins {number errand database} arrived _ := by
    have asked : Asked config events number errand [] :=
      ⟨arrived, fun earlier receipt later split => by simp at split⟩
    exact ⟨⟨asked, [], .start, .nil⟩, asked⟩
  carries {ticket own patience before after answer} issued _ keeps ran := by
    obtain ⟨asked, transcript, leads, recorded⟩ := keeps
    have askedOn : Asked config events ticket.number ticket.errand
        (own ++ [(ticket.begin before).receipt answer after]) :=
      asked.concat issued leads recorded
    refine ⟨trivial, trivial, askedOn, ?_⟩
    rintro result rfl
    refine ⟨askedOn, _, leads.trans (.store result .start), recorded.append ?_⟩
    exact .answered .nil
  told {number errand own next database now} told _ keeps := by
    obtain ⟨asked, transcript, leads, recorded⟩ := keeps
    refine ⟨asked, _, leads.trans (.clock now .start), ?_⟩
    simpa using recorded.append (.told told .nil)
  reported {number errand own token next database reply} reported keeps := by
    obtain ⟨asked, transcript, leads, recorded⟩ := keeps
    refine ⟨asked, _, leads.trans (.introspect reply .start), ?_⟩
    simpa using recorded.append (.reported reported .nil)
  later _ keeps := keeps

theorem record_holds {start : Database}
    (ran : run config (opening start) events = some server) :
    (record config events).Holds server :=
  (record_lawful config events).holds trivial (fun _ member => member) ran

/-- What is left of a call is what its errand leaves after what has happened. -/
theorem leads_of_going {start : Database} {errand : Errand} {rest : Call errand.Reply}
    (ran : run config (opening start) events = some server)
    (going : server.slots number = some ⟨errand, .going rest⟩) :
    ∃ transcript, (errand.call config).Leads transcript rest ∧
      Recorded events number (server.receiptsOf number) transcript :=
  ((record_holds ran).going going).2

/-- Every job that has ended was asked for by a call that had come. -/
theorem asked_of_receipts {start : Database} {earlier later : List Receipt} {receipt : Receipt}
    (ran : run config (opening start) events = some server)
    (split : server.receipts = earlier ++ receipt :: later) :
    .arrive receipt.number receipt.errand ∈ events ∧
      .issue receipt.number receipt.fresh ∈ events ∧
        ∃ transcript next,
          (receipt.errand.call config).Leads transcript (.ask (.store receipt.job) next) ∧
          Recorded events receipt.number
            (earlier.filter fun other => other.number = receipt.number) transcript := by
  have member : receipt ∈ server.receipts := by simp [split]
  obtain ⟨standing, found⟩ := (carriedOut ran).orderly.known receipt member
  have asked : Asked config events receipt.number receipt.errand
      (server.receiptsOf receipt.number) := (record_holds ran).tells found
  refine ⟨asked.arrived, asked.each _ receipt
    (later.filter fun other => other.number = receipt.number) ?_⟩
  rw [receiptsOf, split, List.filter_append, List.filter_cons_of_pos (by simp)]

/-! ## Operations in the record -/

/-- Whoever comes wants something of the services, and not of the store itself. -/
def IsService : Errand → Prop
  | .job _ => False
  | _ => True

/-- An errand carries out an operation, after what the gate had to ask. -/
inductive Performs (config : ServerConfig) : Errand → List Exchange → Operation → Prop
  | operation (action : Operation) : Performs config (.operation action) [] action
  | request {message : Api.Request} {method : Method} {caller : Option Identity}
      {gate : List Exchange} {action : Operation}
      (named : Method.ofPath? message.path = some method)
      (enters : Api.Enters config message gate caller)
      (commanded : Api.command method caller message = .ok action) :
      Performs config (.request message) gate action

theorem performs_of_asked {errand : Errand} {transcript : List Exchange} {job : Job}
    {next : Except StoreError job.Result → Call errand.Reply} (service : IsService errand)
    (leads : (errand.call config).Leads transcript (.ask (.store job) next)) :
    ∃ action gate later following, transcript = gate ++ later ∧ Performs config errand gate action ∧
      (action.call config.setup).Leads later (.ask (.store job) following) := by
  cases errand with
  | job task => exact service.elim
  | operation action => exact ⟨action, [], transcript, next, rfl, .operation action, leads⟩
  | request message =>
      obtain ⟨method, caller, action, gate, later, following, named, rfl, enters, commanded,
        came⟩ :=
        Api.asked_of_answer leads
      exact ⟨action, gate, later, following, rfl, .request named enters commanded, came⟩

/-- The gate has no jobs. -/
theorem Recorded.of_enters {message : Api.Request} {caller : Option Identity}
    {own : List Receipt} {gate later : List Exchange}
    (enters : Api.Enters config message gate caller)
    (recorded : Recorded events number own (gate ++ later)) : Recorded events number own later := by
  cases enters with
  | openly isPublic => exact recorded
  | verified gated identified =>
      cases recorded with
      | told told rest => exact rest

theorem Recorded.of_performs {errand : Errand} {action : Operation} {own : List Receipt}
    {gate later : List Exchange} (performs : Performs config errand gate action)
    (recorded : Recorded events number own (gate ++ later)) : Recorded events number own later := by
  cases performs with
  | operation => exact recorded
  | request named enters commanded => exact recorded.of_enters enters

/-- Every job of a service was asked for by an operation in the course of it. -/
theorem performs_of_receipts {start : Database} {earlier later : List Receipt} {receipt : Receipt}
    (ran : run config (opening start) events = some server)
    (split : server.receipts = earlier ++ receipt :: later) (service : IsService receipt.errand) :
    ∃ action gate transcript next, Performs config receipt.errand gate action ∧
      (action.call config.setup).Leads transcript (.ask (.store receipt.job) next) ∧
      Recorded events receipt.number
        (earlier.filter fun other => other.number = receipt.number) transcript := by
  obtain ⟨-, -, transcript, next, leads, recorded⟩ := asked_of_receipts ran split
  obtain ⟨action, gate, own, following, rfl, performs, came⟩ := performs_of_asked service leads
  exact ⟨action, gate, own, following, performs, came, recorded.of_performs performs⟩

/-! ## The chain of jobs -/

variable {first last : Database} {receipts : List Receipt}

theorem Chained.split {earlier later : List Receipt} {receipt : Receipt}
    (chained : Chained first (earlier ++ receipt :: later) last) :
    Chained first earlier receipt.before ∧ Chained receipt.after later last := by
  induction earlier generalizing first with
  | nil => exact ⟨chained.1, chained.2⟩
  | cons other earlier ih =>
      obtain ⟨before, after⟩ := ih chained.2
      exact ⟨⟨chained.1, before⟩, after⟩

/-- What every job keeps is kept by all of them together. -/
theorem Chained.keeps {motive : Database → Prop} (chained : Chained first receipts last)
    (each : ∀ receipt ∈ receipts, motive receipt.before → motive receipt.after)
    (start : motive first) : motive last := by
  induction receipts generalizing first with
  | nil =>
      obtain rfl : last = first := chained
      exact start
  | cons receipt receipts ih =>
      obtain ⟨rfl, chainedOn⟩ := chained
      refine ih chainedOn (fun other member => each other (List.mem_cons_of_mem _ member)) ?_
      exact each receipt List.mem_cons_self start

/-- What was not so at first and is so at last came about by some job. -/
theorem Chained.exists_turn {motive : Database → Prop} (chained : Chained first receipts last)
    (before : ¬motive first) (after : motive last) :
    ∃ earlier receipt later, receipts = earlier ++ receipt :: later ∧
      ¬motive receipt.before ∧ motive receipt.after := by
  induction receipts generalizing first with
  | nil =>
      obtain rfl : last = first := chained
      exact absurd after before
  | cons receipt receipts ih =>
      obtain ⟨rfl, chainedOn⟩ := chained
      by_cases turned : motive receipt.after
      · exact ⟨[], receipt, receipts, rfl, before, turned⟩
      · obtain ⟨earlier, other, later, rfl, turn⟩ := ih chainedOn turned
        exact ⟨receipt :: earlier, other, later, rfl, turn⟩

end Server

end Carpool
