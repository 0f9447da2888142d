import Carpool.Proofs.Json.Members
import Carpool.Proofs.Server.Entrustment

/-!
# The gate alone decides who is trusted

Whoever the gate does not let in is told so and changes nothing, also where a
method has been made public.  Whoever it lets in acts in the name that it has
established, whatever else a request says.
-/

namespace Carpool

open Store

/-- The members of a body that a method reads. -/
def Method.keys : Method → List String
  | .login => ["id_token"]
  | .requestToJoin | .listMatchesByRide => ["ride_id"]
  | .acceptRideRequest | .getRequest => ["request_id"]
  | .acceptRequest | .rejectRequest | .completeMatch | .getMatch => ["match_id"]
  | .listMatchesByRider => ["rider_id"]
  | .getOffer => ["offer_id"]
  | .createOffer => ["from_geo", "to_geo", "fare", "depart_at", "seats"]
  | .createRequest => ["from_geo", "to_geo", "depart_at", "seats"]
  | .listMyMatches | .getMe | .touchLastSeen => []

namespace Api

/-! ## What a request says besides -/

/-- Two requests that differ in nothing but members of the body that a method
does not read. -/
structure SameArguments (method : Method) (first second : Request) : Prop where
  sameMethod : second.method = first.method
  sameTarget : second.target = first.target
  sameHeaders : second.headers = first.headers
  fits : first.body.length ≤ bodyLimit ∧ second.body.length ≤ bodyLimit
  named : Json.SameNamed method.keys first.body second.body

variable {config : ServerConfig} {method : Method} {first second : Request}

namespace SameArguments

theorem argument {α : Type} {form : Json.Form α} (same : SameArguments method first second)
    (reads : form.ReadsOnly method.keys) : argument form second = argument form first := by
  have json : second.declaresJson = first.declaresJson := by
    rw [Request.declaresJson, Request.declaresJson, Request.headerValues, Request.headerValues,
      same.sameHeaders]
  rw [Api.argument, Api.argument, readBody, readBody, json, same.named.ofOctets reads,
    if_neg (Nat.not_lt.mpr same.fits.1), if_neg (Nat.not_lt.mpr same.fits.2)]

theorem idCommand {caller : Option Identity} {key : String}
    {operation : Identity → Uuid → Operation} (same : SameArguments method first second)
    (only : method.keys = [key]) :
    idCommand caller second key operation = idCommand caller first key operation := by
  rw [Api.idCommand, Api.idCommand, same.argument]
  rw [only]
  exact Json.Form.record_readsOnly _ _ _

theorem command (same : SameArguments method first second) (caller : Option Identity) :
    command method caller second = command method caller first := by
  cases method with
  | login =>
      have token : Api.argument loginForm second = Api.argument loginForm first :=
        same.argument (Json.Form.record_readsOnly _ _ _)
      rw [Api.command, Api.command, token]
  | createOffer =>
      have draft : Api.argument OfferDraft.form second = Api.argument OfferDraft.form first :=
        same.argument (Json.Form.record_readsOnly _ _ _)
      rw [Api.command, Api.command, draft]
  | createRequest =>
      have draft : Api.argument RequestDraft.form second = Api.argument RequestDraft.form first :=
        same.argument (Json.Form.record_readsOnly _ _ _)
      rw [Api.command, Api.command, draft]
  | listMyMatches | getMe | touchLastSeen => rfl
  | _ => exact same.idCommand rfl

theorem answer (same : SameArguments method first second)
    (named : Method.ofPath? first.path = some method) :
    answer config second = answer config first := by
  have path : second.path = first.path := by rw [Request.path, Request.path, same.sameTarget]
  have post : second.isPost = first.isPost := by
    rw [Request.isPost, Request.isPost, same.sameMethod]
  have head (response : Response) :
      withoutBodyForHead second response = withoutBodyForHead first response := by
    rw [withoutBodyForHead, withoutBodyForHead, same.sameMethod]
  have authorization :
      second.headerValues "authorization" = first.headerValues "authorization" := by
    rw [Request.headerValues, Request.headerValues, same.sameHeaders]
  have attended (caller : Option Identity) :
      attend config method caller second = attend config method caller first := by
    rw [attend, attend, post, same.command, head]
  have refused (error : GateError) : turnAway second error = turnAway first error := by
    rw [turnAway, turnAway, post, head]
  rw [answer_shape config named, answer_shape config (path ▸ named), path, authorization]
  simp only [attended, refused]

end SameArguments

/-! ## Who is turned away -/

/-- The answer to somebody whom nobody has vouched for. -/
def unauthenticated (message : String) : Response :=
  .json 401 (ApiError.unauthenticated message).document.print

theorem command_of_nobody (other : method ≠ .login) (request : Request) :
    command method none request = .error (.unauthenticated "no authenticated caller") := by
  cases method with
  | login => exact absurd rfl other
  | _ => rfl

theorem operates_isOf {identity : Identity} {operation : Operation}
    (operates : Operates identity method operation) : operation.IsOf identity := by
  cases method with
  | login => exact operates.elim
  | listMyMatches | getMe | touchLastSeen =>
      obtain rfl := operates
      rfl
  | getMatch | listMatchesByRide | listMatchesByRider | getOffer | getRequest =>
      obtain ⟨id, rfl⟩ := operates
      trivial
  | _ =>
      obtain ⟨argument, rfl⟩ := operates
      rfl

end Api

/-- What is left of a call once it has been told the time. -/
def Call.afterClock {α : Type} (now : Instant) : Call α → Call α
  | .ask .clock next => next now
  | call => call

namespace Api

variable {config : ServerConfig} {method : Method} {message : Request}

/-- Whoever is not let in is told so, before the store is asked for anything. -/
theorem answer_of_not_admits (post : message.isPost = true)
    (named : Method.ofPath? message.path = some method) (other : method ≠ .login) {now : Instant}
    (barred : ∀ identity, ¬Admits config message now identity) :
    ∃ text, (answer config message).afterClock now = .done (some (unauthenticated text)) := by
  by_cases isPublic : config.publicMethods.contains message.path = true
  · rw [answer_shape config named, if_pos isPublic, attend, if_pos post,
      command_of_nobody other]
    exact ⟨_, rfl⟩
  · have gated : config.publicMethods.contains message.path = false := by simpa using isPublic
    rw [Server.Stage.answer_eq_ask named gated, Call.afterClock]
    cases identified : Gate.identify config.secret now (message.headerValues "authorization") with
    | error error =>
        refine ⟨error.message, ?_⟩
        dsimp only
        rw [turnAway, if_pos post]
        rfl
    | ok identity => exact absurd ⟨gated, Gate.identify_eq_ok.mp identified⟩ (barred identity)

end Api

namespace Server

open Api (Admits)

variable {config : ServerConfig} {events : List Event} {server : Server} {number : Nat}
  {method : Method} {message : Api.Request}

theorem entrustment_holds (ran : run config (opening .empty) events = some server)
    (services : ∀ event ∈ events, event.IsService) :
    (entrustment config events).Holds server := by
  refine (entrustment_lawful config events).holds .empty ?_ ran
  exact fun event member => ⟨member, services event member⟩

theorem Granted.admitted {operation : Operation} {own : List Receipt}
    (granted : Granted config events number message operation own)
    (named : Method.ofPath? message.path = some method) (other : method ≠ .login) :
    ∃ now identity, .tell number now ∈ events ∧ Admits config message now identity ∧
      Api.command method (some identity) message = .ok operation := by
  obtain ⟨commander, caller, namedToo, letIn, commanded⟩ := granted.commanded
  obtain rfl : method = commander := Option.some.inj (named.symm.trans namedToo)
  obtain ⟨identity, rfl, -⟩ := Api.operates_of_command other commanded
  obtain ⟨now, told, admits⟩ := letIn
  exact ⟨now, identity, told, admits, commanded⟩

theorem Granted.actsFor {operation : Operation} {own : List Receipt} {identity : Identity}
    (granted : Granted config events number message operation own) (other : method ≠ .login)
    (commanded : Api.command method (some identity) message = .ok operation) {receipt : Receipt}
    (member : receipt ∈ own) (carried : CarriedOut .empty server)
    (recorded : receipt ∈ server.receipts) :
    ActsFor config.completionPolicy identity.subject operation receipt.job receipt.before
      receipt.after := by
  obtain ⟨patience, ran⟩ := carried.ran receipt recorded
  obtain ⟨caller, same, operates⟩ := Api.operates_of_command other commanded
  obtain rfl := Option.some.inj same
  have isOf := Api.operates_isOf operates
  exact .of_effect (Job.runWhile_effect ran) (granted.entitled receipt member) isOf
    (granted.account receipt member identity isOf) (granted.formed receipt member)

theorem untouched_of_barred (carried : CarriedOut .empty server)
    (holds : (entrustment config events).Holds server)
    (named : Method.ofPath? message.path = some method) (other : method ≠ .login)
    {standing : Standing (Errand.request message).Reply}
    (found : server.slots number = some ⟨.request message, standing⟩)
    (barred : ∀ now identity, .tell number now ∈ events → ¬Admits config message now identity) :
    server.receiptsOf number = [] ∧ server.AsksNothing number := by
  have nothingGranted {operation : Operation} {own : List Receipt} :
      ¬Granted config events number message operation own := by
    intro granted
    obtain ⟨now, identity, told, admits, -⟩ := granted.admitted named other
    exact barred now identity told admits
  constructor
  · rcases holds.tells found with nothing | ⟨operation, granted⟩
    · exact nothing
    · exact absurd granted nothingGranted
  · -- a job that has been given to the connection had to be granted first
    rintro ticket listed rfl
    obtain ⟨-, stage⟩ := holds.outstanding ticket listed
    obtain ⟨asking, known⟩ := (carried.orderly.held ticket listed).knows
    obtain ⟨number, errand, job, fresh, next⟩ := ticket
    obtain ⟨rfl, -⟩ := Slot.mk.inj (Option.some.inj (found.symm.trans known))
    obtain ⟨operation, granted, -⟩ := Stage.asking stage holds.good
    exact nothingGranted granted

/-- The gate alone decides whom a request to a method is trusted to come from. -/
structure TrustsGateAlone (config : ServerConfig) (method : Method) (message : Api.Request) :
    Prop where
  /-- Whoever is not let in is told so, at once or when the clock has been read. -/
  barred : ∀ now, (∀ identity, ¬Admits config message now identity) →
    ∃ text, (Api.answer config message).afterClock now = .done (some (Api.unauthenticated text))
  /-- Whoever is not let in has no job carried out. -/
  untouched : ∀ {events : List Event} {server : Server} {number : Nat} {standing},
    run config (opening .empty) events = some server → (∀ event ∈ events, event.IsService) →
    server.slots number = some ⟨.request message, standing⟩ →
    (∀ now identity, .tell number now ∈ events → ¬Admits config message now identity) →
    server.receiptsOf number = [] ∧ server.AsksNothing number
  /-- Whatever jobs are carried out, they are in the name of one who has been let
  in. -/
  inName : ∀ {events : List Event} {server : Server} {number : Nat} {standing},
    run config (opening .empty) events = some server → (∀ event ∈ events, event.IsService) →
    server.slots number = some ⟨.request message, standing⟩ →
    server.receiptsOf number = [] ∨
      ∃ now identity operation, .tell number now ∈ events ∧ Admits config message now identity ∧
        Api.command method (some identity) message = .ok operation ∧
        ∀ receipt ∈ server.receiptsOf number,
          ActsFor config.completionPolicy identity.subject operation receipt.job receipt.before
            receipt.after
  /-- What else a body says makes no difference. -/
  indifferent : ∀ other, Api.SameArguments method message other →
    Api.answer config other = Api.answer config message

/-- Every method but the login trusts the gate alone, with any configuration and
whatever a request says. -/
theorem gate_alone_trusted (post : message.isPost = true)
    (named : Method.ofPath? message.path = some method) (other : method ≠ .login) :
    TrustsGateAlone config method message where
  barred now barred := Api.answer_of_not_admits post named other barred
  untouched {events server number standing} ran services found barred :=
    untouched_of_barred (carriedOut ran) (entrustment_holds ran services) named other found barred
  inName {events server number standing} ran services found := by
    rcases (entrustment_holds ran services).tells found with nothing | ⟨operation, granted⟩
    · exact .inl nothing
    · obtain ⟨now, identity, told, admits, commanded⟩ := granted.admitted named other
      refine .inr ⟨now, identity, operation, told, admits, commanded, fun receipt member => ?_⟩
      exact granted.actsFor other commanded member (carriedOut ran) (List.mem_filter.mp member).1
  indifferent other same := same.answer named

end Server

namespace Sample

def session : Option String :=
  Session.issue? config.secret
    ((⟨uuid 1, uuid 0, moment⟩ : Fresh).user ⟨"rider@example", "", none⟩) config.sessionHours moment

/-- A visit of the holder of that session. -/
def visit : Api.Request where
  method := "POST"
  target := Method.touchLastSeen.path
  headers := [("Authorization", Octets.ofText ("Bearer " ++ session.getD ""))]
  body := []

/-- The rider logs in, and then visits. -/
def visited : List Server.Event :=
  [.arrive 1 (.operation (.login "token")), .report 1 (verified "rider@example")] ++
    serve 1 0 0 2 ++ serve 1 1 0 4 ++ [.tell 1 moment] ++
    [.arrive 2 (.request visit), .tell 2 moment, .tell 2 moment] ++ serve 2 0 0 2 ++ serve 2 0 0 4

end Sample

namespace Server

/-- The rider is let in, and both jobs of the visit are carried out. -/
theorem visit_trusts_gate_alone :
    (∃ server, run Sample.config (opening .empty) Sample.visited = some server ∧
      (server.receiptsOf 2).map (·.answer.isSome) = [true, true]) ∧
      TrustsGateAlone Sample.config .touchLastSeen Sample.visit := by
  refine ⟨?_, gate_alone_trusted (by decide +kernel) (by decide +kernel) (by decide)⟩
  have visited : ((run Sample.config (opening .empty) Sample.visited).map fun server =>
      (server.receiptsOf 2).map (·.answer.isSome)) = some [true, true] := by
    decide +kernel
  exact Option.map_eq_some_iff.mp visited

end Server

end Carpool
