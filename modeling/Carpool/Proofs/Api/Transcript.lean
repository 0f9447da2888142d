import Carpool.Proofs.Transcript

/-!
# Transcripts of requests

A request asks what the operation asks that it is read as, once the gate has let
it in, and its response is what the result of the operation is shown as.  All
other requests are answered with no more than a look at the clock.  A request is
not answered if its operation breaks off.
-/

namespace Carpool

namespace Api

/-- The gate lets a request in: as nobody where the path is public, and otherwise
as the caller whose token is good at the time that the gate reads. -/
inductive Enters (config : ServerConfig) (request : Request) :
    List Exchange → Option Identity → Prop
  | openly (isPublic : config.publicMethods.contains request.path = true) :
      Enters config request [] none
  | verified {now : Instant} {identity : Identity}
      (gated : config.publicMethods.contains request.path = false)
      (identified : Gate.identify config.secret now (request.headerValues "authorization") =
        .ok identity) : Enters config request [.clock now] (some identity)

variable {config : ServerConfig} {request : Request} {method : Method}
  {caller : Option Identity} {transcript : List Exchange} {rest : Call (Option Response)}

theorem leads_of_attend (leads : (attend config method caller request).Leads transcript rest) :
    request.isPost = false ∧ transcript = [] ∧
        rest = .done (some (withoutBodyForHead request (Response.empty 405).allowingPost)) ∨
      (∃ error, request.isPost = true ∧ command method caller request = .error error ∧
        transcript = [] ∧ rest = .done (some error.response)) ∨
      ∃ operation left, request.isPost = true ∧
        command method caller request = .ok operation ∧
        (operation.call config.setup).Leads transcript left ∧
        rest = left.map fun reply => respond (present operation reply) := by
  rw [attend] at leads
  split at leads
  · rename_i post
    obtain ⟨left, came, rfl⟩ := leads.of_map
    cases commanded : command method caller request with
    | error error =>
        rw [commanded] at came
        obtain ⟨rfl, rfl⟩ := Call.leads_done_iff.mp came
        exact .inr (.inl ⟨error, post, rfl, rfl, rfl⟩)
    | ok operation =>
        rw [commanded] at came
        obtain ⟨asking, asked, rfl⟩ := Call.Leads.of_map came
        exact .inr (.inr ⟨operation, asking, post, rfl, asked, Call.map_map _ _ _⟩)
  · rename_i other
    obtain ⟨rfl, rfl⟩ := Call.leads_done_iff.mp leads
    exact .inl ⟨by simpa using other, rfl, rfl⟩

/-- A request waits for the gate, has been turned away, or is attended to. -/
theorem leads_of_answer (named : Method.ofPath? request.path = some method)
    (leads : (answer config request).Leads transcript rest) :
    (∃ next, transcript = [] ∧ rest = .ask .clock next) ∨
      (∃ now error, config.publicMethods.contains request.path = false ∧
        Gate.identify config.secret now (request.headerValues "authorization") = .error error ∧
        transcript = [.clock now] ∧ rest = .done (some (turnAway request error))) ∨
      ∃ gate later caller, transcript = gate ++ later ∧ Enters config request gate caller ∧
        (attend config method caller request).Leads later rest := by
  rw [answer_shape config named] at leads
  split at leads
  · rename_i isPublic
    exact .inr (.inr ⟨[], transcript, none, rfl, .openly isPublic, leads⟩)
  · rename_i gated
    have gated : config.publicMethods.contains request.path = false := by simpa using gated
    cases leads with
    | start => exact .inl ⟨_, rfl, rfl⟩
    | clock now leads =>
        dsimp only at leads
        split at leads
        · rename_i error turned
          obtain ⟨rfl, rfl⟩ := Call.leads_done_iff.mp leads
          exact .inr (.inl ⟨now, error, gated, turned, rfl, rfl⟩)
        · rename_i identity identified
          exact .inr (.inr ⟨[.clock now], _, some identity, rfl, .verified gated identified, leads⟩)

/-- A request that asks for a store job is carrying out an operation. -/
theorem asked_of_answer {job : Store.Job}
    {next : Except Store.StoreError job.Result → Call (Option Response)}
    (leads : (answer config request).Leads transcript (.ask (.store job) next)) :
    ∃ method caller operation gate later following,
      Method.ofPath? request.path = some method ∧ transcript = gate ++ later ∧
      Enters config request gate caller ∧ command method caller request = .ok operation ∧
      (operation.call config.setup).Leads later (.ask (.store job) following) := by
  cases named : Method.ofPath? request.path with
  | none =>
      rw [answer_of_unknown config named] at leads
      cases leads
  | some method =>
      obtain ⟨_, -, same⟩ | ⟨_, _, -, -, -, same⟩ | ⟨gate, later, caller, rfl, enters, leads⟩ :=
        leads_of_answer named leads
      · cases same
      · cases same
      obtain ⟨-, -, same⟩ | ⟨_, -, -, -, same⟩ | ⟨operation, left, -, commanded, came, same⟩ :=
        leads_of_attend leads
      · cases same
      · cases same
      cases left with
      | done reply => cases same
      | ask query following =>
          rw [Call.map_ask] at same
          cases same
          exact ⟨method, caller, operation, gate, later, following, rfl, rfl, enters, commanded,
            came⟩

/-- How a request to a method comes to its response, or to none. -/
inductive Responds (config : ServerConfig) (method : Method) (request : Request) :
    List Exchange → Option Response → Prop
  | turnedAway {now : Instant} {error : GateError}
      (gated : config.publicMethods.contains request.path = false)
      (turned : Gate.identify config.secret now (request.headerValues "authorization") =
        .error error) : Responds config method request [.clock now] (some (turnAway request error))
  | notPost {gate : List Exchange} {caller : Option Identity} (other : request.isPost = false)
      (enters : Enters config request gate caller) :
      Responds config method request gate
        (some (withoutBodyForHead request (Response.empty 405).allowingPost))
  | unread {gate : List Exchange} {caller : Option Identity} {error : ApiError}
      (post : request.isPost = true) (enters : Enters config request gate caller)
      (refused : command method caller request = .error error) :
      Responds config method request gate (some error.response)
  | served {gate later : List Exchange} {caller : Option Identity} {operation : Operation}
      (post : request.isPost = true) (enters : Enters config request gate caller)
      (commanded : command method caller request = .ok operation) (reply : operation.Reply)
      (ended : (operation.call config.setup).Leads later (.done reply)) :
      Responds config method request (gate ++ later) (respond (present operation reply))

theorem responds_of_answer {response : Option Response}
    (named : Method.ofPath? request.path = some method)
    (leads : (answer config request).Leads transcript (.done response)) :
    Responds config method request transcript response := by
  obtain ⟨_, -, same⟩ | ⟨now, error, gated, turned, rfl, same⟩ |
    ⟨gate, later, caller, rfl, enters, leads⟩ := leads_of_answer named leads
  · cases same
  · obtain rfl := Call.done.inj same
    exact .turnedAway gated turned
  obtain ⟨other, rfl, same⟩ | ⟨error, post, refused, rfl, same⟩ |
    ⟨operation, left, post, commanded, came, same⟩ := leads_of_attend leads
  · obtain rfl := Call.done.inj same
    rw [List.append_nil]
    exact .notPost other enters
  · obtain rfl := Call.done.inj same
    rw [List.append_nil]
    exact .unread post enters refused
  · cases left with
    | done reply =>
        obtain rfl := Call.done.inj same
        exact .served post enters commanded reply came
    | ask query following => cases same

end Api

end Carpool
