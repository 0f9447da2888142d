import Carpool.Json.Access
import Carpool.Proofs.Api.Transcript
import Carpool.Proofs.Json.RoundTrips
import Carpool.Proofs.Server
import Carpool.Proofs.Service.Caution
import Carpool.Proofs.Service.Failures
import Carpool.Proofs.Service.Login

/-!
# Errors on the wire

Every request to a method is answered as long as sessions have an end: with the
reply of the method, or with an error that has the code of its cause.  An error
is a record of exactly a code and a message, under the status of the code.  What
fails inside the service is answered in one and the same way, so that nobody
learns from an answer what has failed there.

Only a login can be left without an answer.  It has then been told a time from
which its session would have no end.
-/

namespace Carpool

open Store

namespace Api

open Json (Document Form)

/-! ## Errors -/

/-- The response is a JSON object of exactly the code and the message of an
error, under the status of the code. -/
structure Response.Shows (response : Response) (error : ApiError) : Prop where
  status : response.status = error.code.status
  kind : response.contentType = some "application/json"
  body : ∃ members, Json.read response.body = ⟨.record members true, true⟩ ∧
    members.map (fun member => (member.1.text?, member.2.textValue?)) =
      [(some "code", some error.code.name), (some "message", some error.message)]

theorem response_shows (error : ApiError) : error.response.Shows error where
  status := rfl
  kind := rfl
  body := by
    let members := [("code", Document.ofText error.code.name),
      ("message", Document.ofText error.message)]
    refine ⟨Json.readBack members, ?_, ?_⟩
    · have whole : error.document.isWhole = true := by
        refine Json.isWhole_ofMembers ?_
        rintro member (_ | ⟨_, _ | ⟨_, ⟨⟩⟩⟩) <;> rfl
      refine (Json.read_print whole).trans ?_
      rw [ApiError.document, Json.asRead_ofMembers]
    · have textValue (text : String) : (Document.ofText text).asRead.textValue? = some text :=
        Json.text?_ofText_asRead text
      simp only [members, Json.readBack, List.map_cons, List.map_nil, Json.text?_ofText_asRead,
        textValue]

theorem eq_internal_of_ofFailure {failure : Failure}
    (code : (ApiError.ofFailure failure).code = .internal) :
    ApiError.ofFailure failure = .internal := by
  cases inside : failure.code with
  | internal => rw [ApiError.ofFailure, inside]
  | _ =>
      rw [ApiError.ofFailure, inside] at code
      cases code

theorem eq_internal_of_ofLogin {error : LoginError}
    (code : (ApiError.ofLogin error).code = .internal) : ApiError.ofLogin error = .internal := by
  rw [ApiError.ofLogin] at code ⊢
  split
  · rename_i rejection
    rw [if_pos rejection] at code
    cases code
  · rfl

variable {α ε : Type}

theorem eq_internal_of_mapped {β : Type} {shown : ε → ApiError} {present : α → β}
    {result : Except ε α} {error : ApiError}
    (veils : ∀ error, (shown error).code = .internal → shown error = .internal)
    (failed : (result.mapError shown).map present = .error error) (code : error.code = .internal) :
    error = .internal := by
  cases result with
  | ok value => cases failed
  | error original =>
      obtain rfl := Except.error.inj failed
      exact veils original code

/-- What fails inside the service is shown in one and the same way. -/
theorem eq_internal_of_present {operation : Operation} {reply : operation.Reply}
    {error : ApiError} (failed : present operation reply = .error error)
    (code : error.code = .internal) : error = .internal := by
  cases operation with
  | login idToken => exact eq_internal_of_mapped (fun _ => eq_internal_of_ofLogin) failed code
  | _ => exact eq_internal_of_mapped (fun _ => eq_internal_of_ofFailure) failed code

/-! ## Arguments -/

/-- The body of a request cannot be read in a form. -/
def Request.Unreadable (request : Request) (form : Form α) : Prop :=
  ∃ error, readBody form request = .error error

/-- The body of a request does not hold what a method takes. -/
def Request.Undecodable (request : Request) : Method → Prop
  | .login => request.Unreadable loginForm
  | .requestToJoin | .listMatchesByRide => request.Unreadable (idForm "ride_id")
  | .acceptRideRequest | .getRequest => request.Unreadable (idForm "request_id")
  | .acceptRequest | .rejectRequest | .completeMatch | .getMatch =>
      request.Unreadable (idForm "match_id")
  | .listMatchesByRider => request.Unreadable (idForm "rider_id")
  | .getOffer => request.Unreadable (idForm "offer_id")
  | .createOffer => request.Unreadable OfferDraft.form
  | .createRequest => request.Unreadable RequestDraft.form
  | .listMyMatches | .getMe | .touchLastSeen => False

/-- All methods but the login need a caller. -/
def Known (method : Method) (caller : Option Identity) : Prop :=
  method = .login ∨ caller ≠ none

/-- The token in the body of a request is blank. -/
def Request.HasBlankToken (request : Request) : Prop :=
  ∃ token, readBody loginForm request = .ok token ∧ Text.trim token = ""

variable {method : Method} {caller : Option Identity} {request : Request}

/-- What a request comes to before the operation. -/
inductive Commanded (method : Method) (caller : Option Identity) (request : Request) :
    Except ApiError Operation → Prop
  | unknown {error : ApiError} (unknown : ¬Known method caller)
      (code : error.code = .unauthenticated) : Commanded method caller request (.error error)
  | undecodable {error : ApiError} (known : Known method caller)
      (undecodable : request.Undecodable method) (code : error.code = .invalidArgument) :
      Commanded method caller request (.error error)
  | blank {error : ApiError} (login : method = .login) (blank : request.HasBlankToken)
      (code : error.code = .invalidArgument) : Commanded method caller request (.error error)
  | operation {operation : Operation} (known : Known method caller)
      (decodable : ¬request.Undecodable method)
      (proper : method = .login → ¬request.HasBlankToken) :
      Commanded method caller request (.ok operation)

theorem argument_cases (form : Form α) (request : Request) :
    (∃ error, argument form request = .error error ∧ error.code = .invalidArgument ∧
        request.Unreadable form) ∨
      ∃ value, argument form request = .ok value ∧ readBody form request = .ok value ∧
        ¬request.Unreadable form := by
  rw [argument]
  cases read : readBody form request with
  | error error => exact .inl ⟨_, rfl, rfl, error, read⟩
  | ok value =>
      refine .inr ⟨value, rfl, rfl, ?_⟩
      rintro ⟨error, unread⟩
      cases read.symm.trans unread

theorem commanded_of_body {form : Form α} {operate : Identity → α → Operation}
    (other : method ≠ .login) (same : request.Undecodable method = request.Unreadable form) :
    Commanded method caller request (do
      let identity ← callerOf caller
      let value ← argument form request
      return operate identity value) := by
  cases caller with
  | none => exact .unknown (by simp [Known, other]) rfl
  | some identity =>
      have known : Known method (some identity) := .inr nofun
      obtain ⟨error, failed, code, unreadable⟩ | ⟨value, passed, -, readable⟩ :=
        argument_cases form request
      · rw [failed]
        exact .undecodable known (same ▸ unreadable) code
      · rw [passed]
        exact .operation known (same ▸ readable) fun login => absurd login other

theorem commanded_of_caller {operate : Identity → Operation} (other : method ≠ .login)
    (same : request.Undecodable method = False) :
    Commanded method caller request ((callerOf caller).map operate) := by
  cases caller with
  | none => exact .unknown (by simp [Known, other]) rfl
  | some identity =>
      exact .operation (.inr nofun) (same ▸ not_false) fun login => absurd login other

theorem commanded_of_login : Commanded .login caller request (command .login caller request) := by
  rw [command]
  obtain ⟨error, failed, code, unreadable⟩ | ⟨token, passed, read, readable⟩ :=
    argument_cases loginForm request
  · rw [failed]
    exact .undecodable (.inl rfl) unreadable code
  · rw [passed, Store.ok_bind]
    by_cases blank : (Text.trim token).isEmpty = true
    · rw [if_pos blank]
      exact .blank rfl ⟨token, read, by simpa using blank⟩ rfl
    · rw [if_neg blank]
      refine .operation (.inl rfl) readable ?_
      rintro - ⟨other, otherRead, empty⟩
      obtain rfl := Except.ok.inj (read.symm.trans otherRead)
      exact blank (by simpa using empty)

theorem commanded (method : Method) (caller : Option Identity) (request : Request) :
    Commanded method caller request (command method caller request) := by
  cases method with
  | login => exact commanded_of_login
  | listMyMatches => exact commanded_of_caller nofun rfl
  | getMe => exact commanded_of_caller nofun rfl
  | touchLastSeen => exact commanded_of_caller nofun rfl
  | _ => exact commanded_of_body nofun rfl

/-! ## Causes -/

/-- The causes for which a request fails once the gate has let it in, by what has
been said since, the latest first. -/
inductive FailsFor (config : ServerConfig) (method : Method) (caller : Option Identity)
    (request : Request) : List Exchange → Cause → Prop
  | unknown (unknown : ¬Known method caller) : FailsFor config method caller request [] .turnedAway
  | undecodable (known : Known method caller) (undecodable : request.Undecodable method) :
      FailsFor config method caller request [] .undecodable
  | blank (login : method = .login) (blank : request.HasBlankToken) :
      FailsFor config method caller request [] .invalid
  | operation {own : List Exchange} {operation : Operation} {cause : Cause}
      (commanded : command method caller request = .ok operation)
      (fails : operation.FailsBy config.setup own cause) :
      FailsFor config method caller request own cause

/-- The causes for which a request to a method fails, by what has been said in
the course of it, the latest first. -/
inductive FailsBy (config : ServerConfig) (method : Method) (request : Request) :
    List Exchange → Cause → Prop
  | turnedAway {now : Instant} {error : GateError}
      (gated : config.publicMethods.contains request.path = false)
      (turned : Gate.identify config.secret now (request.headerValues "authorization") =
        .error error) : FailsBy config method request [.clock now] .turnedAway
  | inside {own gate : List Exchange} {caller : Option Identity} {cause : Cause}
      (enters : Enters config request gate caller)
      (fails : FailsFor config method caller request own cause) :
      FailsBy config method request (own ++ gate) cause

variable {config : ServerConfig} {own otherOwn gate otherGate : List Exchange}
  {otherCaller : Option Identity} {cause other : Cause}

theorem FailsFor.of_command {operation : Operation}
    (fails : FailsFor config method caller request own cause)
    (ordered : command method caller request = .ok operation) :
    operation.FailsBy config.setup own cause := by
  have inverted := commanded method caller request
  rw [ordered] at inverted
  cases inverted with
  | operation known decodable proper =>
      cases fails with
      | unknown unknown => exact absurd known unknown
      | undecodable _ undecodable => exact absurd undecodable decodable
      | blank login blank => exact absurd blank (proper login)
      | operation otherwise fails =>
          obtain rfl := Except.ok.inj (ordered.symm.trans otherwise)
          exact fails

theorem FailsFor.unique (fails : FailsFor config method caller request own cause)
    (otherwise : FailsFor config method caller request own other) : cause = other := by
  cases ordered : command method caller request with
  | ok operation => exact (fails.of_command ordered).unique (otherwise.of_command ordered)
  | error error =>
      have proper (login : method = .login) (blank : request.HasBlankToken) :
          ¬request.Undecodable method := by
        subst login
        rintro ⟨error, unread⟩
        obtain ⟨token, read, -⟩ := blank
        cases read.symm.trans unread
      cases fails with
      | operation commanded => cases ordered.symm.trans commanded
      | unknown unknown =>
          cases otherwise with
          | operation commanded => cases ordered.symm.trans commanded
          | unknown => rfl
          | undecodable known => exact absurd known unknown
          | blank login => exact absurd (.inl login) unknown
      | undecodable known undecodable =>
          cases otherwise with
          | operation commanded => cases ordered.symm.trans commanded
          | unknown unknown => exact absurd known unknown
          | undecodable => rfl
          | blank login blank => exact absurd undecodable (proper login blank)
      | blank login blank =>
          cases otherwise with
          | operation commanded => cases ordered.symm.trans commanded
          | unknown unknown => exact absurd (.inl login) unknown
          | undecodable _ undecodable => exact absurd undecodable (proper login blank)
          | blank => rfl

theorem Enters.unique (enters : Enters config request gate caller)
    (otherwise : Enters config request otherGate otherCaller)
    (same : own ++ gate = otherOwn ++ otherGate) : caller = otherCaller ∧ own = otherOwn := by
  cases enters with
  | openly isPublic =>
      cases otherwise with
      | openly => exact ⟨rfl, by simpa using same⟩
      | verified gated => cases isPublic.symm.trans gated
  | verified gated identified =>
      cases otherwise with
      | openly isPublic => cases isPublic.symm.trans gated
      | verified _ otherIdentified =>
          obtain ⟨rfl, said⟩ := List.append_inj' same rfl
          cases said
          exact ⟨congrArg some (Except.ok.inj (identified.symm.trans otherIdentified)), rfl⟩

/-- Whom the gate lets in it does not turn away. -/
theorem Enters.not_turned {now : Instant} {error : GateError}
    (enters : Enters config request gate caller)
    (gated : config.publicMethods.contains request.path = false)
    (turned : Gate.identify config.secret now (request.headerValues "authorization") =
      .error error) : own ++ gate ≠ [.clock now] := by
  cases enters with
  | openly isPublic => cases isPublic.symm.trans gated
  | verified _ identified =>
      intro same
      obtain ⟨-, said⟩ := List.append_inj' (same.trans (List.nil_append _).symm) rfl
      cases said
      cases identified.symm.trans turned

theorem FailsBy.since (enters : Enters config request gate caller)
    (fails : FailsBy config method request (own ++ gate) cause) :
    FailsFor config method caller request own cause := by
  generalize same : own ++ gate = past at fails
  cases fails with
  | turnedAway gated turned => exact absurd same (enters.not_turned gated turned)
  | inside otherEnters fails =>
      obtain ⟨rfl, rfl⟩ := enters.unique otherEnters same
      exact fails

/-- There is never more than one cause. -/
theorem FailsBy.unique {past : List Exchange} (fails : FailsBy config method request past cause)
    (otherwise : FailsBy config method request past other) : cause = other := by
  cases fails with
  | inside enters fails => exact fails.unique (otherwise.since enters)
  | @turnedAway now error gated turned =>
      generalize same : [Exchange.clock now] = past at otherwise
      cases otherwise with
      | turnedAway => rfl
      | inside enters => exact absurd same.symm (enters.not_turned gated turned)

/-! ## Responses -/

/-- What a response is once so much has been said, the latest first: the reply
of the method, or an error of which there is a cause. -/
inductive Outcome (config : ServerConfig) (method : Method) (request : Request) :
    List Exchange → Response → Prop
  | replies {own gate : List Exchange} {caller : Option Identity} {operation : Operation}
      {reply : operation.Reply} {document : Document}
      (enters : Enters config request gate caller)
      (commanded : command method caller request = .ok operation)
      (ended : (operation.call config.setup).Leads own.reverse (.done reply))
      (shown : present operation reply = .ok (some document))
      (sound : ∀ cause, ¬FailsBy config method request (own ++ gate) cause) :
      Outcome config method request (own ++ gate) (.json 200 document.print)
  | fails {past : List Exchange} {cause : Cause} {error : ApiError} {response : Response}
      (fails : FailsBy config method request past cause) (code : error.code = cause.code)
      (veiled : error.code = .internal → error = .internal) (shows : response.Shows error) :
      Outcome config method request past response

/-- A cause that is not one inside the service is shown as it is. -/
theorem Outcome.of_refusal {past : List Exchange} {error : ApiError}
    (fails : FailsBy config method request past cause) (code : error.code = cause.code)
    (outside : cause.code ≠ .internal) : Outcome config method request past error.response :=
  .fails fails code (fun inside => absurd (code.symm.trans inside) outside) (response_shows error)

theorem Outcome.explained {past : List Exchange} {response : Response}
    (outcome : Outcome config method request past response)
    (because : FailsBy config method request past cause) :
    ∃ error, response.Shows error ∧ error.code = cause.code ∧
      (cause = .internal → error = .internal) := by
  cases outcome with
  | replies enters commanded ended shown sound => exact absurd because (sound cause)
  | fails fails code veiled shows =>
      obtain rfl := fails.unique because
      refine ⟨_, shows, code, ?_⟩
      rintro rfl
      exact veiled code

/-- A login has broken off: a session that starts at a time that it has been told
would have no end. -/
structure BreaksOff (config : ServerConfig) (method : Method) (said : List Exchange) : Prop where
  login : method = .login
  endless : ∃ now, .clock now ∈ said ∧ ¬config.loginSettings.CanEnd now

/-- A request comes to a response, or it breaks off without a cause to fail. -/
def ComesTo (config : ServerConfig) (method : Method) (request : Request) (past : List Exchange) :
    Option Response → Prop
  | some response => Outcome config method request past response
  | none => BreaksOff config method past ∧ ∀ cause, ¬FailsBy config method request past cause

/-- The response tells that something inside the service has failed, and nothing
of what has failed. -/
def Veiled (response? : Option Response) : Prop :=
  response? = some ApiError.internal.response

theorem exists_clock_of_brokenOff {settings : Login.Settings} {idToken : String}
    {transcript : List Exchange} (ends : Login.Ends settings idToken transcript (.ok none)) :
    ∃ now, .clock now ∈ transcript ∧ ¬settings.CanEnd now := by
  have endless {user : User} {now : Instant} (nothing : none = Login.session? settings user now) :
      ¬settings.CanEnd now := by
    intro canEnd
    obtain ⟨session, started, -⟩ := canEnd.exists_session user
    cases nothing.trans started
  generalize same : Except.ok none = outcome at ends
  cases ends with
  | unread | refused | unsought | uncreated => cases same
  | returning vouches user now => exact ⟨now, by simp, endless (Except.ok.inj same)⟩
  | created vouches user now => exact ⟨now, by simp, endless (Except.ok.inj same)⟩

/-- Of all operations only logins break off. -/
theorem brokenOff_of_present {setup : Setup} {operation : Operation} {reply : operation.Reply}
    {transcript : List Exchange} (ended : (operation.call setup).Leads transcript (.done reply))
    (nothing : present operation reply = .ok none) :
    (∃ idToken, operation = .login idToken) ∧
      ∃ now, .clock now ∈ transcript ∧ ¬setup.login.CanEnd now := by
  cases operation with
  | login idToken =>
      refine ⟨⟨idToken, rfl⟩, ?_⟩
      cases reply with
      | error error => cases nothing
      | ok session? =>
          cases session? with
          | some session => cases nothing
          | none => exact exists_clock_of_brokenOff (Login.ends_of_leads ended)
  | _ => cases reply <;> cases nothing

theorem method_of_command_login {idToken : String}
    (commanded : command method caller request = .ok (.login idToken)) : method = .login := by
  by_contra other
  obtain ⟨identity, -, operates⟩ := operates_of_command other commanded
  cases method with
  | login => exact other rfl
  | listMyMatches | getMe | touchLastSeen => cases operates
  | _ =>
      obtain ⟨argument, same⟩ := operates
      cases same

/-- The causes of an operation are those of the request that asks for it. -/
theorem comesTo_of_accounts {operation : Operation} {reply : operation.Reply}
    (enters : Enters config request gate caller)
    (commanded : command method caller request = .ok operation)
    (ended : (operation.call config.setup).Leads own.reverse (.done reply))
    (accounts : operation.Accounts config.setup id own (present operation reply)) :
    ComesTo config method request (own ++ gate) (respond (present operation reply)) := by
  cases shown : present operation reply with
  | ok document? =>
      rw [shown] at accounts
      have sound (cause : Cause) : ¬FailsBy config method request (own ++ gate) cause :=
        fun fails => accounts cause ((fails.since enters).of_command commanded)
      cases document? with
      | some document => exact .replies enters commanded ended shown sound
      | none =>
          obtain ⟨⟨idToken, rfl⟩, now, said, endless⟩ := brokenOff_of_present ended shown
          refine ⟨⟨method_of_command_login commanded, now, ?_, endless⟩, sound⟩
          exact List.mem_append_left _ (List.mem_reverse.mp said)
  | error error =>
      rw [shown] at accounts
      obtain ⟨cause, fails, code⟩ := accounts
      exact .fails (.inside enters (.operation commanded fails)) code
        (eq_internal_of_present shown) (response_shows error)

theorem attend_upholds (enters : Enters config request gate caller) (post : request.isPost = true) :
    (attend config method caller request).Upholds (ComesTo config method request) Veiled gate := by
  rw [attend, if_pos post]
  have inverted := commanded method caller request
  cases ordered : command method caller request with
  | ok operation =>
      have explained := (operation.explains config.setup).since gate
      refine .map (.map (explained.mono ?_ fun reply hides => congrArg respond hides))
      rintro past reply ⟨own, rfl, ended, accounts⟩
      exact comesTo_of_accounts enters ordered ended accounts
  | error error =>
      rw [ordered] at inverted
      change Outcome config method request gate error.response
      have fails {cause : Cause} (fails : FailsFor config method caller request [] cause) :
          FailsBy config method request gate cause := .inside enters fails
      cases inverted with
      | unknown unknown code => exact .of_refusal (fails (.unknown unknown)) code (by decide)
      | undecodable known undecodable code =>
          exact .of_refusal (fails (.undecodable known undecodable)) code (by decide)
      | blank login blank code => exact .of_refusal (fails (.blank login blank)) code (by decide)

theorem answer_upholds (named : Method.ofPath? request.path = some method)
    (post : request.isPost = true) :
    (answer config request).Upholds (ComesTo config method request) Veiled [] := by
  rw [answer_shape config named]
  split
  · rename_i isPublic
    exact attend_upholds (.openly isPublic) post
  · rename_i gated
    have gated : config.publicMethods.contains request.path = false := by simpa using gated
    intro now
    refine ⟨?_, False.elim⟩
    dsimp only
    split
    · rename_i error turned
      rw [turnAway, if_pos post]
      exact Outcome.of_refusal (.turnedAway gated turned) rfl (by decide)
    · rename_i identity identified
      exact attend_upholds (.verified gated identified) post

/-- What callers of a method can rely on in every world. -/
structure KeepsContract (config : ServerConfig) (method : Method) (request : Request) : Prop where
  /-- The request is answered; a login is if a session has an end that starts when
  the clock is read. -/
  answers : ∀ world : World,
    (method = .login → ∀ now, .clock now ∈ ((answer config request).converse world []).1 →
      config.loginSettings.CanEnd now) →
    ∃ response, ((answer config request).converse world []).2 = some response
  /-- The answer is the reply of the method, or an error of which there is a cause. -/
  justifies : ∀ (world : World) (response : Response),
    ((answer config request).converse world []).2 = some response →
      Outcome config method request ((answer config request).converse world []).1 response
  /-- Every cause is answered with its code, and a cause inside the service with
  nothing else. -/
  explains : ∀ (world : World) (cause : Cause),
    FailsBy config method request ((answer config request).converse world []).1 cause →
      ∃ response error, ((answer config request).converse world []).2 = some response ∧
        response.Shows error ∧ error.code = cause.code ∧ (cause = .internal → error = .internal)
  /-- Worlds that differ in what has failed inside the service cannot be told
  apart. -/
  veils : ∀ first second : World, first.Alike second →
    ((answer config request).converse first []).2 = ((answer config request).converse second []).2
  /-- Who takes too long is told so. -/
  late : ∀ milliseconds, ∃ error, (overdue milliseconds request).Shows error ∧
    error.code = Cause.overdue.code

/-- Every request to a method is answered as the contract says, whatever its
headers and its body are, and whatever happens to it. -/
theorem keeps_contract (config : ServerConfig)
    (named : Method.ofPath? request.path = some method) (post : request.isPost = true) :
    KeepsContract config method request := by
  have comesTo (world : World) : ComesTo config method request
      ((answer config request).converse world []).1
      ((answer config request).converse world []).2 := (answer_upholds named post).converse
  constructor
  case answers =>
    intro world timely
    have outcome := comesTo world
    cases answered : ((answer config request).converse world []).2 with
    | some response => exact ⟨response, rfl⟩
    | none =>
        rw [answered] at outcome
        obtain ⟨⟨login, now, said, endless⟩, -⟩ := outcome
        exact absurd (timely login now said) endless
  case justifies =>
    intro world response answered
    have outcome := comesTo world
    rw [answered] at outcome
    exact outcome
  case explains =>
    intro world cause fails
    have outcome := comesTo world
    cases answered : ((answer config request).converse world []).2 with
    | some response =>
        rw [answered] at outcome
        obtain ⟨error, shows, code, veiled⟩ := Outcome.explained outcome fails
        exact ⟨response, error, rfl, shows, code, veiled⟩
    | none =>
        rw [answered] at outcome
        exact absurd fails (outcome.2 cause)
  case veils =>
    intro first second alike
    obtain same | ⟨hides, otherHides⟩ := (answer_upholds named post).alike alike
    · exact same
    · exact hides.trans otherHides.symm
  case late =>
    intro milliseconds
    rw [overdue, withoutBodyForHead_of_post post]
    exact ⟨_, response_shows _, rfl⟩

end Api

namespace Sample

/-- The rider logs in. -/
def signIn : Api.Request where
  method := "POST"
  target := Method.login.path
  headers := [("Content-Type", Octets.ofText "application/json")]
  body := Octets.ofText "\x7b\"id_token\":\"token\"\x7d"

/-- The identity provider vouches for the rider, and the store fails at once. -/
def failing (text : String) : World
  | _, .store _ => (.error (.reported text) : Except StoreError _)
  | _, .clock => moment
  | _, .introspect _ => verified "rider@example"

/-- The identity provider vouches for the rider, who has an account. -/
def welcoming : World
  | _, .store (.findUserByEmail email) =>
      (.ok (some (Fresh.user ⟨uuid 1, uuid 0, moment⟩ ⟨email, "", none⟩)) : Except StoreError _)
  | _, .store _ => (.error (.reported "not expected") : Except StoreError _)
  | _, .clock => moment
  | _, .introspect _ => verified "rider@example"

end Sample

namespace Api

/-- The words of the store are not heard outside, and a login for which the clock
is read is answered. -/
theorem failing_keeps_contract :
    (["disk on fire", "no space left"].map fun text =>
      ((answer Sample.config Sample.signIn).converse (Sample.failing text) []).2) =
        [some ApiError.internal.response, some ApiError.internal.response] ∧
      Sample.config.loginSettings.CanEnd Sample.moment ∧
      ((answer Sample.config Sample.signIn).converse Sample.welcoming []).2.map Response.status =
        some 200 ∧
      KeepsContract Sample.config .login Sample.signIn := by
  refine ⟨by decide +kernel, by decide, by decide +kernel, ?_⟩
  exact keeps_contract Sample.config (by decide +kernel) (by decide)

-- The longest lifetime that can be configured leaves no end for a session.
example : ((answer { Sample.config with sessionHours := 4294967295 } Sample.signIn).converse
    Sample.welcoming []).2 = none := by
  decide +kernel

end Api

end Carpool
