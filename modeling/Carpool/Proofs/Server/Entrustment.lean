import Carpool.Proofs.Server.Conduct
import Carpool.Proofs.Service.Attribution

/-!
# What requests are entrusted with

A request asks the store nothing before the gate has let it in.  From then on it
carries out one operation for the caller that the gate has told it, and nothing
that this operation is not entitled to.
-/

namespace Carpool

open Store

theorem Call.Meets.map {α β : Type} {policy : CompletionPolicy} {grant : Database → Job → Prop}
    {fits : Database → α → Prop} {fitsToo : Database → β → Prop} {change : α → β} {call : Call α}
    {known : Database} (meets : call.Meets policy grant fits known)
    (fitting : ∀ now result, fits now result → fitsToo now (change result)) :
    (call.map change).Meets policy grant fitsToo known := by
  induction call generalizing known with
  | done result => exact fun now grown => fitting now result (meets now grown)
  | ask query next ih =>
      cases query with
      | store job =>
          intro now grown
          obtain ⟨granted, goesOn⟩ := meets now grown
          refine ⟨granted, fun fresh patience answer after ran => ?_⟩
          exact ih answer (goesOn fresh patience answer after ran)
      | clock => exact fun now => ih now (meets now)
      | introspect token => exact fun reply => ih reply (meets reply)

namespace Gate

theorem identify_eq_ok {secret : Octets} {now : Instant} {values : List Octets}
    {identity : Identity} :
    identify secret now values = .ok identity ↔
      ∃ value token, values = [value] ∧ bearerToken? value = some token ∧
        Session.validate secret now token = .ok identity := by
  match values with
  | [] => simp [identify]
  | [value] =>
      cases bearer : bearerToken? value with
      | none => simp [identify, bearer]
      | some token =>
          cases valid : Session.validate secret now token <;>
            simp [identify, bearer, valid, Except.mapError]
  | _ :: _ :: _ => simp [identify]

end Gate

namespace Api

/-- The gate lets a request in as somebody: its path is not public, and there is
exactly one authorization header, whose token is accepted at the time. -/
structure Admits (config : ServerConfig) (request : Request) (now : Instant)
    (identity : Identity) : Prop where
  gated : config.publicMethods.contains request.path = false
  verified : ∃ value token, request.headerValues "authorization" = [value] ∧
    Gate.bearerToken? value = some token ∧
    Session.validate config.secret now token = .ok identity

end Api

namespace Server

open Api (Admits)

/-- Whoever comes wants something of the services, and not of the store itself. -/
def Event.IsService : Event → Prop
  | .arrive _ (.job _) => False
  | _ => True

/-- A request has been let in: as nobody if its path is public, and otherwise as
the gate has decided at a time that it was told. -/
def LetIn (config : ServerConfig) (events : List Event) (number : Nat) (message : Api.Request) :
    Option Identity → Prop
  | none => config.publicMethods.contains message.path = true
  | some identity => ∃ now, .tell number now ∈ events ∧ Admits config message now identity

/-- An operation that a request has been let in to carry out, and the jobs that
it has asked for. -/
structure Granted (config : ServerConfig) (events : List Event) (number : Nat)
    (message : Api.Request) (operation : Operation) (own : List Receipt) : Prop where
  commanded : ∃ method caller, Method.ofPath? message.path = some method ∧
    LetIn config events number message caller ∧
    Api.command method caller message = .ok operation
  entitled : ∀ receipt ∈ own,
    Entitled config.completionPolicy operation receipt.before receipt.job
  account : ∀ receipt ∈ own, ∀ caller, operation.IsOf caller →
    receipt.job.KeepsToAccount caller.subject
  formed : ∀ receipt ∈ own, receipt.before.WellFormed

theorem Granted.concat {config : ServerConfig} {events : List Event} {number : Nat}
    {message : Api.Request} {operation : Operation} {own : List Receipt} {receipt : Receipt}
    (granted : Granted config events number message operation own)
    (entitled : Entitled config.completionPolicy operation receipt.before receipt.job)
    (account : ∀ caller, operation.IsOf caller → receipt.job.KeepsToAccount caller.subject)
    (formed : receipt.before.WellFormed) :
    Granted config events number message operation (own ++ [receipt]) where
  commanded := granted.commanded
  entitled other member := by
    rcases List.mem_append.mp member with old | new
    · exact granted.entitled other old
    · exact List.mem_singleton.mp new ▸ entitled
  account other member := by
    rcases List.mem_append.mp member with old | new
    · exact granted.account other old
    · exact List.mem_singleton.mp new ▸ account
  formed other member := by
    rcases List.mem_append.mp member with old | new
    · exact granted.formed other old
    · exact List.mem_singleton.mp new ▸ formed

/-- How it stands with a request: it is before the gate, it has been answered
without a job, or it carries out what it has been granted. -/
inductive Stage (config : ServerConfig) (events : List Event) (number : Nat)
    (message : Api.Request) : List Receipt → Call (Option Api.Response) → Database → Prop
  | atGate {rest : Call (Option Api.Response)} {database : Database}
      (gated : config.publicMethods.contains message.path = false) {method : Method}
      (named : Method.ofPath? message.path = some method)
      (same : rest = Api.answer config message) :
      Stage config events number message [] rest database
  | answered (response : Option Api.Response) {database : Database} :
      Stage config events number message [] (.done response) database
  | serving {operation : Operation} {own : List Receipt} {rest : Call (Option Api.Response)}
      {database : Database} (granted : Granted config events number message operation own)
      (meets : rest.Meets config.completionPolicy
        (Entitled config.completionPolicy operation) (fun _ _ => True) database)
      (account : ∀ caller, operation.IsOf caller →
        rest.Asks (Job.KeepsToAccount caller.subject)) :
      Stage config events number message own rest database

namespace Stage

variable {config : ServerConfig} {events : List Event} {number : Nat} {message : Api.Request}
  {own : List Receipt} {database after : Database}

/-- What a request does first waits for the gate, and asks for the clock. -/
theorem answer_eq_ask {method : Method} (named : Method.ofPath? message.path = some method)
    (gated : config.publicMethods.contains message.path = false) :
    Api.answer config message = .ask .clock fun now =>
      match Gate.identify config.secret now (message.headerValues "authorization") with
      | .error error => .done (some (Api.turnAway message error))
      | .ok identity => Api.attend config method (some identity) message := by
  refine (Api.answer_shape config named).trans (if_neg ?_)
  rw [gated]
  exact Bool.false_ne_true

theorem attend {method : Method} {caller : Option Identity}
    (named : Method.ofPath? message.path = some method)
    (letIn : LetIn config events number message caller) (formed : database.WellFormed) :
    Stage config events number message [] (Api.attend config method caller message) database := by
  rw [Api.attend]
  split
  · cases commanded : Api.command method caller message with
    | error error => exact .answered _
    | ok operation =>
        have granted : Granted config events number message operation [] :=
          ⟨⟨method, caller, named, letIn, commanded⟩, by simp, by simp, by simp⟩
        refine .serving granted ?_ fun identity isOf => ?_
        · have keeps := (entitlements_lawful config.setup).keeps operation formed
          have presented : ((operation.call config.setup).map (Api.present operation)).Meets
              config.completionPolicy (Entitled config.completionPolicy operation)
              (fun _ _ => True) database := Call.Meets.map keeps fun _ _ _ => trivial
          exact presented.map fun _ _ _ => trivial
        · exact (isOf.account config.setup).map.map
  · exact .answered _

theorem begin (formed : database.WellFormed) :
    Stage config events number message [] (Api.answer config message) database := by
  cases named : Method.ofPath? message.path with
  | none =>
      rw [Api.answer_of_unknown config named]
      exact .answered _
  | some method =>
      by_cases isPublic : config.publicMethods.contains message.path = true
      · rw [Api.answer_shape config named, if_pos isPublic]
        exact attend named isPublic formed
      · exact .atGate (by simpa using isPublic) named rfl

theorem told {next : Instant → Call (Option Api.Response)} {now : Instant}
    (stage : Stage config events number message own (.ask .clock next) database)
    (told : .tell number now ∈ events) (formed : database.WellFormed) :
    Stage config events number message own (next now) database := by
  cases stage with
  | atGate gated named same =>
      rw [answer_eq_ask named gated] at same
      cases same
      dsimp only
      cases identified :
        Gate.identify config.secret now (message.headerValues "authorization") with
      | error error => exact .answered _
      | ok identity =>
          exact attend named ⟨now, told, gated, Gate.identify_eq_ok.mp identified⟩ formed
  | serving granted meets account =>
      -- what reads the clock now is the operation, and no longer the gate
      exact .serving granted (meets now) fun caller isOf => account caller isOf now

theorem reported {token : String} {next : ProviderReply → Call (Option Api.Response)}
    (stage : Stage config events number message own (.ask (.introspect token) next) database)
    (reply : ProviderReply) : Stage config events number message own (next reply) database := by
  cases stage with
  | atGate gated named same =>
      rw [answer_eq_ask named gated] at same
      cases same
  | serving granted meets account =>
      exact .serving granted (meets reply) fun caller isOf => account caller isOf reply

theorem later {rest : Call (Option Api.Response)}
    (stage : Stage config events number message own rest database)
    (grown : database.Extends config.completionPolicy after) :
    Stage config events number message own rest after := by
  cases stage with
  | atGate gated named same => exact .atGate gated named same
  | answered response => exact .answered response
  | serving granted meets account => exact .serving granted (meets.later grown) account

theorem asking {job : Job} {next : Except StoreError job.Result → Call (Option Api.Response)}
    (stage : Stage config events number message own (.ask (.store job) next) database)
    (formed : database.WellFormed) :
    ∃ operation, Granted config events number message operation own ∧
      Entitled config.completionPolicy operation database job ∧
      (∀ caller, operation.IsOf caller → job.KeepsToAccount caller.subject) ∧
      ∀ {fresh patience answer after receipts},
        job.runWhile fresh patience database = (some answer, after) →
        Granted config events number message operation receipts →
        Stage config events number message receipts (next answer) after := by
  cases stage with
  | atGate gated named same =>
      rw [answer_eq_ask named gated] at same
      cases same
  | @serving operation _ _ _ granted meets account =>
      obtain ⟨entitled, goesOn⟩ := meets database (.refl formed)
      refine ⟨operation, granted, entitled, fun caller isOf => (account caller isOf).1, ?_⟩
      intro fresh patience answer after receipts ran grantedOn
      refine .serving grantedOn (goesOn fresh patience answer after ran) fun caller isOf => ?_
      exact (account caller isOf).2 answer

end Stage

/-- Requests are entrusted with what they have been granted, and operations with
their entitlements. -/
def entrustment (config : ServerConfig) (events : List Event) : Conduct where
  allows event := event ∈ events ∧ event.IsService
  good := Database.WellFormed
  grows := Database.Extends config.completionPolicy
  keeps number errand own rest database :=
    match errand, rest with
    | .request message, rest => Stage config events number message own rest database
    | .operation action, rest =>
        (entitlements config.completionPolicy).Kept database ⟨action, rest⟩
    | .job _, _ => False
  tells number errand own :=
    match errand with
    | .request message =>
        own = [] ∨ ∃ operation, Granted config events number message operation own
    | _ => True

theorem entrustment_lawful (config : ServerConfig) (events : List Event) :
    (entrustment config events).Lawful config where
  begins {number errand database} allowed formed := by
    cases errand with
    | request message => exact ⟨.begin formed, .inl rfl⟩
    | operation action =>
        exact ⟨(entitlements_lawful config.setup).keeps action formed, trivial⟩
    | job task => exact allowed.2.elim
  carries {ticket own patience before after answer} allowed formed keeps ran := by
    obtain ⟨number, errand, job, fresh, next⟩ := ticket
    have effect := Job.runWhile_effect ran
    cases errand with
    | request message =>
        obtain ⟨operation, granted, entitled, account, goesOn⟩ := Stage.asking keeps formed
        have grown := effect.grows entitled.permitted formed
        have grantedOn : Granted config events number message operation
            (own ++ [⟨number, .request message, job, fresh, answer, before, after⟩]) :=
          granted.concat entitled account formed
        refine ⟨grown.formed, grown, .inr ⟨operation, grantedOn⟩, ?_⟩
        rintro result rfl
        exact goesOn ran grantedOn
    | operation action =>
        obtain ⟨entitled, goesOn⟩ := keeps before (.refl formed)
        have grown := effect.grows (Entitled.permitted entitled) formed
        refine ⟨grown.formed, grown, trivial, ?_⟩
        rintro result rfl
        exact goesOn fresh patience result after ran
    | job task => exact keeps.elim
  told {number errand own next database now} allowed formed keeps := by
    cases errand with
    | request message => exact Stage.told keeps allowed.1 formed
    | operation action => exact keeps now
    | job task => exact keeps.elim
  reported {number errand own token next database reply} _ keeps := by
    cases errand with
    | request message => exact Stage.reported keeps reply
    | operation action => exact keeps reply
    | job task => exact keeps.elim
  later {number errand own rest before after} grown keeps := by
    cases errand with
    | request message => exact Stage.later keeps grown
    | operation action => exact Call.Meets.later keeps grown
    | job task => exact keeps.elim

end Server

end Carpool
