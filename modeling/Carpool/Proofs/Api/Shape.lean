import Carpool.Api.Router
import Carpool.Proofs.Service.Shape
import Carpool.Proofs.Store.Codec
import Carpool.Proofs.System

/-!
# From requests to operations

A request that the gate lets in is read as an operation, and the answer to the
request is what the operation says, as a response.  All other requests are
answered at once.
-/

namespace Carpool

namespace Call

variable {α β : Type}

def map (change : α → β) (call : Call α) : Call β :=
  call.bind fun result => .done (change result)

theorem map_ask (change : α → β) (query : Query) (next : query.Answer → Call α) :
    (Call.ask query next).map change = .ask query fun answer => (next answer).map change := rfl

theorem map_map {γ : Type} (first : α → β) (second : β → γ) (call : Call α) :
    (call.map first).map second = call.map fun result => second (first result) := by
  induction call with
  | done result => rfl
  | ask query next ih =>
      rw [map_ask, map_ask, map_ask]
      congr 1
      funext answer
      exact ih answer

theorem map_bind {γ : Type} (change : β → γ) (call : Call α) (next : α → Call β) :
    (call.bind next).map change = call.bind fun result => (next result).map change := by
  induction call with
  | done result => rfl
  | ask query following ih =>
      change Call.ask query _ = Call.ask query _
      congr 1
      funext answer
      exact ih answer

end Call

namespace Api

open Json (Document Form)

def argument {α : Type} (form : Form α) (request : Request) : Except ApiError α :=
  (readBody form request).mapError fun error => .invalidArgument error.message

def callerOf (caller : Option Identity) : Except ApiError Identity :=
  match caller with
  | some identity => .ok identity
  | none => .error (.unauthenticated "no authenticated caller")

/-- The operation on an identifier from the body. -/
def idCommand (caller : Option Identity) (request : Request) (key : String)
    (operation : Identity → Uuid → Operation) : Except ApiError Operation := do
  let identity ← callerOf caller
  let id ← argument (idForm key) request
  return operation identity id

/-- The operation that a method carries out for a caller. -/
def command (method : Method) (caller : Option Identity) (request : Request) :
    Except ApiError Operation :=
  match method with
  | .login => do
      let token ← argument loginForm request
      if (Text.trim token).isEmpty then .error (.invalidArgument "id_token is required")
      else .ok (.login (Text.trim token))
  | .requestToJoin => idCommand caller request "ride_id" .requestToJoin
  | .acceptRideRequest => idCommand caller request "request_id" .acceptRideRequest
  | .acceptRequest => idCommand caller request "match_id" .acceptRequest
  | .rejectRequest => idCommand caller request "match_id" .rejectRequest
  | .completeMatch => idCommand caller request "match_id" .completeMatch
  | .getMatch => idCommand caller request "match_id" fun _ => .getMatch
  | .listMatchesByRide => idCommand caller request "ride_id" fun _ => .listByRide
  | .listMatchesByRider => idCommand caller request "rider_id" fun _ => .listByRider
  | .listMyMatches => (callerOf caller).map .listMine
  | .createOffer => do
      let identity ← callerOf caller
      let draft ← argument OfferDraft.form request
      return .createOffer identity draft
  | .getOffer => idCommand caller request "offer_id" fun _ => .getOffer
  | .createRequest => do
      let identity ← callerOf caller
      let draft ← argument RequestDraft.form request
      return .createRequest identity draft
  | .getRequest => idCommand caller request "request_id" fun _ => .getRequest
  | .getMe => (callerOf caller).map .me
  | .touchLastSeen => (callerOf caller).map .touch

/-- The operations that a method may carry out for a caller. -/
def Operates (identity : Identity) : Method → Operation → Prop
  | .requestToJoin, operation => ∃ ride, operation = .requestToJoin identity ride
  | .acceptRideRequest, operation => ∃ request, operation = .acceptRideRequest identity request
  | .acceptRequest, operation => ∃ pairing, operation = .acceptRequest identity pairing
  | .rejectRequest, operation => ∃ pairing, operation = .rejectRequest identity pairing
  | .completeMatch, operation => ∃ pairing, operation = .completeMatch identity pairing
  | .getMatch, operation => ∃ pairing, operation = .getMatch pairing
  | .listMatchesByRide, operation => ∃ ride, operation = .listByRide ride
  | .listMatchesByRider, operation => ∃ rider, operation = .listByRider rider
  | .listMyMatches, operation => operation = .listMine identity
  | .createOffer, operation => ∃ draft, operation = .createOffer identity draft
  | .getOffer, operation => ∃ offer, operation = .getOffer offer
  | .createRequest, operation => ∃ draft, operation = .createRequest identity draft
  | .getRequest, operation => ∃ request, operation = .getRequest request
  | .getMe, operation => operation = .me identity
  | .touchLastSeen, operation => operation = .touch identity
  | .login, _ => False

/-- All methods but the login need a caller. -/
theorem operates_of_command {method : Method} {caller : Option Identity} {request : Request}
    {operation : Operation} (other : method ≠ .login)
    (commanded : command method caller request = .ok operation) :
    ∃ identity, caller = some identity ∧ Operates identity method operation := by
  cases caller with
  | none => cases method <;> first | exact absurd rfl other | cases commanded
  | some identity =>
      refine ⟨identity, rfl, ?_⟩
      have ofBody {α : Type} {form : Form α} {operate : α → Operation}
          (commanded : (do
            let value ← argument form request
            return operate value) = (.ok operation : Except ApiError Operation)) :
          ∃ value, operation = operate value := by
        obtain ⟨value, -, operated⟩ := Store.bind_eq_ok.mp commanded
        exact ⟨value, (Except.ok.inj operated).symm⟩
      cases method with
      | login => exact absurd rfl other
      | listMyMatches => exact (Except.ok.inj commanded).symm
      | getMe => exact (Except.ok.inj commanded).symm
      | touchLastSeen => exact (Except.ok.inj commanded).symm
      | _ => exact ofBody commanded

/-- The result of a service, as callers see it. -/
def shown {α : Type} (present : α → Document) (result : Except Failure α) :
    Except ApiError (Option Document) :=
  (result.mapError ApiError.ofFailure).map fun value => some (present value)

/-- The result of an operation, as callers see it.  Of a login that has broken off
there is nothing to see. -/
def present : (operation : Operation) → operation.Reply → Except ApiError (Option Document)
  | .requestToJoin _ _, result | .acceptRequest _ _, result | .rejectRequest _ _, result
  | .completeMatch _ _, result | .getMatch _, result => shown (reply "match" Match.form) result
  | .acceptRideRequest _ _, result => shown Accepted.form.write result
  | .listByRide _, result | .listByRider _, result | .listMine _, result =>
      shown (reply "matches" (.list Match.form)) result
  | .createOffer _ _, result | .getOffer _, result => shown (reply "offer" RideOffer.form) result
  | .createRequest _ _, result | .getRequest _, result =>
      shown (reply "request" RideRequest.form) result
  | .me _, result | .touch _, result | .touchAt _ _, result => shown (reply "user" User.form) result
  | .login _, result => (result.mapError ApiError.ofLogin).map (Option.map loginReply)

/-! ## What a method does -/

variable {α ε : Type}

theorem adapt_bind {β : Type} (wrap : ε → ApiError) (call : Call (Except ε α)) (present : α → β) :
    ((ExceptT.adapt wrap call : Attempt ApiError α) >>= fun result => pure (present result) :
      Attempt ApiError β) =
        call.map fun result => (result.mapError wrap).map present := by
  induction call with
  | done result => cases result <;> rfl
  | ask query next ih =>
      rw [Call.map_ask]
      change Call.ask query _ = _
      congr 1
      funext answer
      exact ih answer

theorem body_bind {β : Type} (form : Form α) (request : Request)
    (next : α → Attempt ApiError β) :
    (body form request >>= next : Attempt ApiError β) =
      match argument form request with
      | .error error => (.done (.error error) : Call (Except ApiError β))
      | .ok value => next value := by
  rw [body, argument]
  cases readBody form request <;> rfl

theorem require_bind {β : Type} (caller : Option Identity)
    (next : Identity → Attempt ApiError β) :
    (require caller >>= next : Attempt ApiError β) =
      match callerOf caller with
      | .error error => (.done (.error error) : Call (Except ApiError β))
      | .ok value => next value := by
  cases caller <;> rfl

def carryOut (config : ServerConfig) (commanded : Except ApiError Operation) :
    Call (Except ApiError (Option Document)) :=
  match commanded with
  | .error error => .done (.error error)
  | .ok operation => (operation.call config.setup).map (present operation)

theorem onId_shape (config : ServerConfig) (caller : Option Identity) (request : Request)
    (key : String) (action : Identity → Uuid → Attempt Failure α) (present : α → Document)
    (operation : Identity → Uuid → Operation)
    (same : ∀ identity id, (carryOut config (.ok (operation identity id))) =
      Call.map (shown present) (action identity id)) :
    (onId caller request key action present : Call (Except ApiError (Option Document))) =
      carryOut config (idCommand caller request key operation) := by
  refine (require_bind caller _).trans ?_
  rw [idCommand]
  cases callerOf caller with
  | error error => rfl
  | ok identity =>
      refine (body_bind (idForm key) request _).trans ?_
      cases argument (idForm key) request with
      | error error => rfl
      | ok id =>
          refine (adapt_bind ApiError.ofFailure (action identity id) _).trans ?_
          exact (same identity id).symm

theorem login_shape (config : ServerConfig) (caller : Option Identity) (request : Request) :
    (login config request : Call (Except ApiError (Option Document))) =
      carryOut config (command .login caller request) := by
  refine (body_bind loginForm request _).trans ?_
  rw [command]
  cases argument loginForm request with
  | error error => rfl
  | ok token =>
      by_cases blank : (Text.trim token).isEmpty = true
      · refine (if_pos blank).trans ?_
        rw [Store.ok_bind, if_pos blank]
        rfl
      · refine (if_neg blank).trans ?_
        rw [Store.ok_bind, if_neg blank]
        exact adapt_bind ApiError.ofLogin
          (Login.login config.loginSettings (Text.trim token)) (Option.map loginReply)

theorem asCaller_shape (config : ServerConfig) (caller : Option Identity)
    (service : Identity → Attempt Failure α) (present : α → Document)
    (operation : Identity → Operation)
    (same : ∀ identity, carryOut config (.ok (operation identity)) =
      Call.map (shown present) (service identity)) :
    ((do
      let identity ← require caller
      let result ← serve (service identity)
      pure (some (present result)) : Attempt ApiError (Option Document)) :
        Call (Except ApiError (Option Document))) =
          carryOut config ((callerOf caller).map operation) := by
  refine (require_bind caller _).trans ?_
  cases callerOf caller with
  | error error => rfl
  | ok identity => exact (adapt_bind ApiError.ofFailure _ _).trans (same identity).symm

theorem withDraft_shape {δ : Type} (config : ServerConfig) (caller : Option Identity)
    (request : Request) (form : Form δ) (service : Identity → δ → Attempt Failure α)
    (present : α → Document) (operation : Identity → δ → Operation)
    (same : ∀ identity draft, carryOut config (.ok (operation identity draft)) =
      Call.map (shown present) (service identity draft)) :
    ((do
      let identity ← require caller
      let draft ← body form request
      let result ← serve (service identity draft)
      pure (some (present result)) : Attempt ApiError (Option Document)) :
        Call (Except ApiError (Option Document))) =
          carryOut config (do
            let identity ← callerOf caller
            let draft ← argument form request
            return operation identity draft) := by
  refine (require_bind caller _).trans ?_
  cases callerOf caller with
  | error error => rfl
  | ok identity =>
      refine (body_bind form request _).trans ?_
      cases argument form request with
      | error error => rfl
      | ok draft =>
          exact (adapt_bind ApiError.ofFailure _ _).trans (same identity draft).symm

theorem handle_shape (config : ServerConfig) (method : Method) (caller : Option Identity)
    (request : Request) :
    (handle config method caller request : Call (Except ApiError (Option Document))) =
      carryOut config (command method caller request) := by
  cases method with
  | login => exact login_shape config caller request
  | listMyMatches => exact asCaller_shape config caller Matching.listMine _ _ fun _ => rfl
  | getMe => exact asCaller_shape config caller Presence.me _ _ fun _ => rfl
  | touchLastSeen => exact asCaller_shape config caller Presence.touch _ _ fun _ => rfl
  | createOffer =>
      exact withDraft_shape config caller request OfferDraft.form Publishing.createOffer _ _
        fun _ _ => rfl
  | createRequest =>
      exact withDraft_shape config caller request RequestDraft.form Publishing.createRequest _ _
        fun _ _ => rfl
  | _ => exact onId_shape config caller request _ _ _ _ fun _ _ => rfl

/-! ## What the router does -/

def Request.isPost (request : Request) : Bool :=
  request.method == "POST"

/-- The answer to a caller who has passed the gate, or to anybody where there is
none. -/
def attend (config : ServerConfig) (method : Method) (caller : Option Identity)
    (request : Request) : Call (Option Response) :=
  if request.isPost then (carryOut config (command method caller request)).map respond
  else .done (some (withoutBodyForHead request (Response.empty 405).allowingPost))

/-- The answer to somebody whom the gate turns away. -/
def turnAway (request : Request) (error : GateError) : Response :=
  let response := (ApiError.ofGate error).response
  if request.isPost then response else withoutBodyForHead request response.allowingPost

theorem withoutBodyForHead_of_post {request : Request} (post : request.isPost = true)
    (response : Response) : withoutBodyForHead request response = response := by
  have method : request.method = "POST" := by simpa [Request.isPost] using post
  rw [withoutBodyForHead, method, if_neg (by decide)]

theorem answerMethod_shape (config : ServerConfig) (method : Method) (request : Request) :
    (answerMethod config method request).map (Option.map (withoutBodyForHead request)) =
      (passGate config request).bind fun admitted =>
        match admitted with
        | .error error => .done (some (turnAway request error))
        | .ok caller => attend config method caller request := by
  have decided (admitted : Except GateError (Option Identity)) :
      Call.map (Option.map (withoutBodyForHead request))
        (match admitted with
        | .error error =>
            let response := (ApiError.ofGate error).response
            pure (some (if request.isPost then response else response.allowingPost))
        | .ok caller =>
            if request.isPost then do
              let outcome ← (handle config method caller request).run
              pure (respond outcome)
            else pure (some (Response.empty 405).allowingPost)) =
        match admitted with
        | .error error => .done (some (turnAway request error))
        | .ok caller => attend config method caller request := by
    cases admitted with
    | error error =>
        change Call.done (some (withoutBodyForHead request _)) =
          Call.done (some (turnAway request error))
        rw [turnAway]
        by_cases post : request.isPost = true
        · simp only [if_pos post]
          rw [withoutBodyForHead_of_post post]
        · simp only [if_neg post]
    | ok caller =>
        change _ = attend config method caller request
        rw [attend]
        by_cases post : request.isPost = true
        · simp only [if_pos post]
          refine (Call.map_map respond (Option.map (withoutBodyForHead request)) _).trans ?_
          refine (congrArg (Call.map _) (handle_shape config method caller request)).trans ?_
          congr 1
          funext outcome
          have whole : withoutBodyForHead request = id :=
            funext (withoutBodyForHead_of_post post)
          rw [whole, Option.map_id]
          rfl
        · simp only [if_neg post]
          rfl
  refine (Call.map_bind _ _ _).trans ?_
  congr 1
  funext admitted
  exact decided admitted

/-- How a request to a method is answered. -/
theorem answer_shape (config : ServerConfig) {request : Request} {method : Method}
    (named : Method.ofPath? request.path = some method) :
    answer config request =
      if config.publicMethods.contains request.path then attend config method none request
      else .ask .clock fun now =>
        match Gate.identify config.secret now (request.headerValues "authorization") with
        | .error error => .done (some (turnAway request error))
        | .ok identity => attend config method (some identity) request := by
  have routed : answer config request =
      (answerMethod config method request).map (Option.map (withoutBodyForHead request)) := by
    rw [answer, named]
    rfl
  rw [routed, answerMethod_shape, passGate]
  split
  · rfl
  · change Call.ask .clock _ = Call.ask .clock _
    congr 1
    funext now
    change (match (Gate.identify config.secret now (request.headerValues "authorization")).map some
      with
      | .error error => Call.done (some (turnAway request error))
      | .ok caller => attend config method caller request) = _
    cases Gate.identify config.secret now (request.headerValues "authorization") <;> rfl

theorem answer_of_unknown (config : ServerConfig) {request : Request}
    (unknown : Method.ofPath? request.path = none) :
    answer config request = .done (some (.empty 404)) := by
  rw [answer, unknown]
  rfl

end Api

end Carpool
