import Carpool.Proofs.Guarantee

/-!
# Entitlements

What each operation may do to the store, judged by the rows that are stored when
its job is carried out: who may change a match, and from which status; whom an
acceptance binds; in whose name rides are published.  Every call keeps to its
entitlements, whatever other calls do between its questions.
-/

namespace Carpool

open Store

def Store.Job.IsLookup : Job → Prop
  | .getUser _ | .findUserByEmail _ | .getOffer _ | .getRequest _ | .getMatch _
  | .listMatchesByRide _ | .listMatchesByRider _ | .listMatchesForUser _ => True
  | _ => False

/-- What an operation may ask of a store with some contents. -/
inductive Entitled (policy : CompletionPolicy) : Operation → Database → Job → Prop
  | lookUp {operation : Operation} {database : Database} {job : Job} (lookup : job.IsLookup) :
      Entitled policy operation database job
  /-- Riders ask to join offers of others. -/
  | join {caller : Identity} {ride driver : Uuid} {database : Database} {row : OfferRow}
      (stored : database.findOffer? ride.text = some row) (drives : row.driverId = some driver.text)
      (other : driver ≠ caller.subject) :
      Entitled policy (.requestToJoin caller ride) database
        (.createMatch ⟨caller.subject, driver, ride, .requested⟩)
  /-- Drivers accept requests of others. -/
  | take {caller : Identity} {request : RideRequest} {database : Database}
      (stored : database.findRequest? request.requestId.text = some (.ofRequest request))
      (other : request.userId ≠ caller.subject) :
      Entitled policy (.acceptRideRequest caller request.requestId) database
        (.acceptRideRequest (.ofRequest request caller.subject))
  /-- The driver of a match decides on it. -/
  | accept {caller : Identity} {record : Match} {database : Database}
      (stored : database.findMatch? record.matchId.text = some (.ofMatch record))
      (drives : record.driverId = caller.subject) :
      Entitled policy (.acceptRequest caller record.matchId) database
        (.swapMatchStatus record.matchId .requested .accepted)
  | reject {caller : Identity} {record : Match} {database : Database}
      (stored : database.findMatch? record.matchId.text = some (.ofMatch record))
      (drives : record.driverId = caller.subject) :
      Entitled policy (.rejectRequest caller record.matchId) database
        (.swapMatchStatus record.matchId .requested .rejected)
  /-- One who takes part in a match completes it. -/
  | complete {caller : Identity} {record : Match} {database : Database}
      (restricted : policy = .participants)
      (stored : database.findMatch? record.matchId.text = some (.ofMatch record))
      (takesPart : record.involves caller.subject = true) :
      Entitled policy (.completeMatch caller record.matchId) database
        (.swapMatchStatus record.matchId .accepted .completed)
  | override {caller : Identity} {pairing : Uuid} {database : Database}
      (anyone : policy = .unrestricted) :
      Entitled policy (.completeMatch caller pairing) database
        (.forceMatchStatus pairing .completed)
  /-- Rides are published in the name of the caller. -/
  | offer {caller : Identity} {draft : OfferDraft} {now : Instant} {input : NewOffer}
      {database : Database} (published : draft.publish caller.subject now = .ok input) :
      Entitled policy (.createOffer caller draft) database (.createOffer input)
  | request {caller : Identity} {draft : RequestDraft} {now : Instant} {input : NewRequest}
      {database : Database} (published : draft.publish caller.subject now = .ok input) :
      Entitled policy (.createRequest caller draft) database (.createRequest input)
  | touch {caller : Identity} {expected new : Instant} {database : Database} :
      Entitled policy (.touch caller) database (.swapLastSeen caller.subject expected new)
  | touchAt {caller : Identity} {expected now : Instant} {database : Database} :
      Entitled policy (.touchAt caller now) database
        (.swapLastSeen caller.subject expected now.toSecond)
  | signUp {idToken : String} {input : NewUser} {database : Database} :
      Entitled policy (.login idToken) database (.createUser input)

theorem Entitled.permitted {policy : CompletionPolicy} {operation : Operation}
    {database : Database} {job : Job} (entitled : Entitled policy operation database job) :
    job.Permitted policy := by
  cases entitled with
  | lookUp lookup => cases job <;> trivial
  | accept stored drives => exact .accept
  | reject stored drives => exact .reject
  | complete restricted stored takesPart => exact .complete
  | override anyone => exact ⟨anyone, rfl⟩
  | _ => trivial

/-- A store failure that a record with a readable row cannot cause: a constraint
was broken, or the row cannot be read. -/
def Unreadable {ρ α : Type} (decode : ρ → Except StoreError α) (found : Option ρ)
    (error : StoreError) : Prop :=
  (∃ violation, error = .violation violation) ∨ ∃ row, found = some row ∧ decode row = .error error

/-- What the result of an operation says of the stored rides, from then on. -/
def Truthful : (operation : Operation) → Database → operation.Reply → Prop
  | .createOffer _ _, database, .ok offer =>
      offer.departAt.toMicrosecond = offer.departAt ∧
        ∃ row, OfferRow.ofOffer offer = .ok row ∧
          database.findOffer? offer.offerId.text = some row
  | .createRequest _ _, database, .ok request =>
      request.departAt.toMicrosecond = request.departAt ∧
        ∃ status, request.status.Leads status ∧
          database.findRequest? request.requestId.text =
            some (.ofRequest { request with status })
  | .requestToJoin _ ride, database, .error (.store error) =>
      Unreadable OfferRow.decode (database.findOffer? ride.text) error
  | .acceptRideRequest _ request, database, .error (.store error) =>
      Unreadable RequestRow.decode (database.findRequest? request.text) error
  | _, _, _ => True

/-- The entitlements of all operations, as a contract. -/
def entitlements (policy : CompletionPolicy) : Contract where
  policy := policy
  grant := Entitled policy
  fits operation database reply := Truthful operation database reply

/-! ## Every call keeps to its entitlements -/

variable {policy : CompletionPolicy} {database : Database}

abbrev Keeps (policy : CompletionPolicy) (database : Database) (operation : Operation)
    (call : Call operation.Reply) : Prop :=
  call.Meets policy (Entitled policy operation) (Truthful operation) database

theorem Keeps.of_shape {operation : Operation} {call shape : Call operation.Reply}
    (same : call = shape) (keeps : Keeps policy database operation shape) :
    Keeps policy database operation call :=
  same ▸ keeps

theorem Unreadable.ofOffer {now later : Database} {id : Uuid} {error : StoreError}
    (failed : (now.findOffer? id.text).mapM OfferRow.decode = .error error)
    (grown : now.Extends policy later) :
    Unreadable OfferRow.decode (later.findOffer? id.text) error := by
  obtain ⟨row, found, undecoded⟩ := mapM_eq_error.mp failed
  exact .inr ⟨row, grown.offers found, undecoded⟩

theorem requestToJoin_keeps (caller : Identity) (ride : Uuid) :
    Keeps policy database (.requestToJoin caller ride) (Matching.requestToJoin caller ride) := by
  apply Keeps.of_shape (Matching.requestToJoin_shape caller ride)
  refine .look (fun _ => rfl) (fun _ => .lookUp trivial) ?_ ?_
  · intro now error formed failed later grown
    exact .ofOffer failed grown
  · intro now found formed read
    cases found with
    | none =>
        intro later grown
        trivial
    | some offer =>
        obtain ⟨-, row, stored, encoded⟩ := formed.of_getOffer read
        have drives : row.driverId = offer.driverId.map Uuid.text := by
          obtain ⟨-, rfl⟩ := OfferRow.ofOffer_eq_ok.mp encoded
          rfl
        simp only [Matching.whenFound]
        cases driven : offer.driverId with
        | none =>
            intro later grown
            trivial
        | some driver =>
            rw [driven, Option.map_some] at drives
            refine .ite (fun own later grown => trivial) fun other => ?_
            apply Call.Meets.close
            · intro later grown
              exact .join (grown.offers stored) drives other
            · intro later fresh patience answer after grown ran last grownLast
              rcases Job.of_createMatch ran with unwritten | ⟨created, -⟩
              · cases unwritten with
                | refused violation => exact .inl ⟨violation, rfl⟩
              · obtain rfl := Option.some.inj created
                trivial

theorem Unreadable.ofRequest {now later : Database} {id : Uuid} {error : StoreError}
    (formed : now.WellFormed)
    (failed : (now.findRequest? id.text).mapM RequestRow.decode = .error error)
    (grown : now.Extends policy later) :
    Unreadable RequestRow.decode (later.findRequest? id.text) error := by
  obtain ⟨row, found, undecoded⟩ := mapM_eq_error.mp failed
  obtain ⟨member, keyed⟩ := Database.mem_of_find? found
  obtain ⟨request, rfl⟩ := formed.requestEncoded row member
  obtain rfl := Uuid.text_inj.mp (Option.some.inj keyed)
  obtain ⟨status, -, foundLater⟩ := grown.requests request found
  have unreadable := RequestRow.decode_eq_error.mp undecoded
  refine .inr ⟨_, foundLater, ?_⟩
  rw [RequestRow.decode_eq_error]
  exact unreadable

theorem acceptRideRequest_keeps (caller : Identity) (id : Uuid) :
    Keeps policy database (.acceptRideRequest caller id)
      (Matching.acceptRideRequest caller id) := by
  apply Keeps.of_shape (Matching.acceptRideRequest_shape caller id)
  refine .look (fun _ => rfl) (fun _ => .lookUp trivial) ?_ ?_
  · intro now error formed failed later grown
    exact .ofRequest formed failed grown
  · intro now found formed read
    cases found with
    | none =>
        intro later grown
        trivial
    | some request =>
        obtain ⟨rfl, stored⟩ := formed.of_getRequest read
        refine .ite (fun inactive later grown => trivial) fun _ => ?_
        refine .ite (fun own later grown => trivial) fun other => ?_
        apply Call.Meets.go
        · intro later grown
          obtain ⟨status, -, foundLater⟩ := grown.requests request stored
          exact @Entitled.take policy caller { request with status } later foundLater other
        · intro later fresh patience error after grown ran last grownLast
          rcases Job.of_acceptRideRequest ran with unwritten | ⟨declined, -⟩ | ⟨accepted, -⟩
          · cases unwritten with
            | refused violation => exact .inl ⟨violation, rfl⟩
          · cases declined
          · cases accepted
        · intro later fresh patience accepted after grown ran
          cases accepted <;> exact fun last grownLast => trivial

/-! ### Decisions and completions -/

section Decisions

variable {grant : Database → Job → Prop} {fits : Database → Except Failure Match → Prop}
  (anything : ∀ database reply, fits database reply)
  (lookups : ∀ database job, job.IsLookup → grant database job)

include anything lookups

theorem getMatch_meets {id : Uuid} {next : Match → Call (Except Failure Match)}
    (goesOn : ∀ now record, record.matchId = id →
      now.findMatch? id.text = some (.ofMatch record) → (next record).Meets policy grant fits now) :
    (Attempt.go Failure.store (.getMatch id) (Matching.whenFound .pairing id next)).Meets policy
      grant fits database := by
  refine .look (fun _ => rfl) (fun now => lookups now _ trivial) ?_ ?_
  · intro now error formed failed later grown
    exact anything _ _
  · intro now found formed read
    cases found with
    | none =>
        intro later grown
        exact anything _ _
    | some record =>
        obtain ⟨same, stored⟩ := formed.of_getMatch read
        exact goesOn now record same stored

theorem advance_meets {id : Uuid} {current : Match} {next : MatchStatus}
    (granted : ∀ now, database.Extends policy now →
      grant now (.swapMatchStatus id current.status next)) :
    (Matching.advance id current next).Meets policy grant fits database := by
  rw [Matching.advance_shape]
  apply Call.Meets.go
  · exact granted
  · intro now fresh patience error after grown ran later grownOn
    exact anything _ _
  · intro now fresh patience swap after grown ran
    cases swap with
    | applied =>
        intro later grownOn
        exact anything _ _
    | stale =>
        refine getMatch_meets anything lookups ?_
        intro later record same stored last grownLast
        exact anything _ _

theorem resolve_meets {caller : Identity} {id : Uuid} {next : MatchStatus}
    (granted : ∀ now record, record.matchId = id → record.driverId = caller.subject →
      now.findMatch? id.text = some (.ofMatch record) →
      grant now (.swapMatchStatus id .requested next)) :
    (Matching.resolve caller id next).Meets policy grant fits database := by
  rw [Matching.resolve_shape]
  refine getMatch_meets anything lookups ?_
  intro now record same stored
  refine .ite (fun other later grown => anything _ _) fun drives => ?_
  refine .ite (fun decided later grown => anything _ _) fun open_ => ?_
  refine advance_meets anything lookups ?_
  intro later grown
  subst same
  obtain ⟨status, -, storedLater⟩ := grown.pairings record stored
  have requested : record.status = .requested :=
    MatchStatus.requested_of_canResolveTo (by simpa using open_)
  rw [requested]
  exact granted later { record with status } rfl (not_not.mp drives) storedLater

end Decisions

theorem acceptRequest_keeps (caller : Identity) (id : Uuid) :
    Keeps policy database (.acceptRequest caller id) (Matching.acceptRequest caller id) := by
  refine resolve_meets (fun _ _ => trivial) (fun _ _ => .lookUp) ?_
  rintro now record rfl drives stored
  exact .accept stored drives

theorem rejectRequest_keeps (caller : Identity) (id : Uuid) :
    Keeps policy database (.rejectRequest caller id) (Matching.rejectRequest caller id) := by
  refine resolve_meets (fun _ _ => trivial) (fun _ _ => .lookUp) ?_
  rintro now record rfl drives stored
  exact .reject stored drives

theorem completeMatch_keeps (caller : Identity) (id : Uuid) :
    Keeps policy database (.completeMatch caller id) (Matching.completeMatch policy caller id) := by
  cases anyone : policy with
  | unrestricted =>
      apply Keeps.of_shape (Matching.completeMatch_unrestricted_shape caller id)
      apply Call.Meets.go
      · intro now grown
        exact .override rfl
      · intro now fresh patience error after grown ran later grownOn
        trivial
      · intro now fresh patience found after grown ran
        cases found <;> exact fun later grownOn => trivial
  | participants =>
      apply Keeps.of_shape (Matching.completeMatch_participants_shape caller id)
      refine getMatch_meets (fun _ _ => trivial) (fun _ _ => .lookUp) ?_
      rintro now record rfl stored
      refine .ite (fun stranger later grown => trivial) fun takesPart => ?_
      refine .ite (fun unaccepted later grown => trivial) fun accepted => ?_
      refine advance_meets (fun _ _ => trivial) (fun _ _ => .lookUp) ?_
      intro later grown
      obtain ⟨status, -, storedLater⟩ := grown.pairings record stored
      have involved : record.involves caller.subject = true := by simpa using takesPart
      rw [not_not.mp accepted]
      exact @Entitled.complete _ caller { record with status } later rfl storedLater involved

/-! ### Publishing -/

theorem publication_meets {α β : Type} {caller : Identity} {check : Instant → Except Flaw α}
    {stranger : Flaw} {write : α → Call (Except Failure β)} {operation : Operation}
    {fits : Database → Except Failure β → Prop}
    (fails : ∀ later failure, fits later (.error failure))
    (writes : ∀ now input known, check now = .ok input →
      (write input).Meets policy (Entitled policy operation) fits known) :
    (Publishing.publication caller check stranger write).Meets policy
      (Entitled policy operation) fits database := by
  intro now
  dsimp only
  cases checked : check now with
  | error flaw => exact fun later grown => fails later _
  | ok input =>
      refine .look (fun _ => rfl) (fun _ => .lookUp trivial) ?_ ?_
      · exact fun known error formed failed later grown => fails later _
      · intro known found formed read
        cases found with
        | none => exact fun later grown => fails later _
        | some user => exact writes now input known checked

theorem createOffer_keeps (caller : Identity) (draft : OfferDraft) :
    Keeps policy database (.createOffer caller draft) (Publishing.createOffer caller draft) := by
  apply Keeps.of_shape (Publishing.createOffer_shape caller draft)
  refine publication_meets (fun _ _ => trivial) fun now input known published => ?_
  apply Call.Meets.close
  · intro later grown
    exact .offer published
  · intro later fresh patience answer after grown ran last grownLast
    rcases Job.of_createOffer ran with unwritten | ⟨created, row, encoded, inserted⟩
    · cases unwritten with
      | refused violation => trivial
    · obtain rfl := Option.some.inj created
      refine ⟨Instant.toMicrosecond_toMicrosecond _, row, encoded, ?_⟩
      exact grownLast.offers (Database.findOffer?_inserted encoded inserted)

theorem createRequest_keeps (caller : Identity) (draft : RequestDraft) :
    Keeps policy database (.createRequest caller draft)
      (Publishing.createRequest caller draft) := by
  apply Keeps.of_shape (Publishing.createRequest_shape caller draft)
  refine publication_meets (fun _ _ => trivial) fun now input known published => ?_
  apply Call.Meets.close
  · intro later grown
    exact .request published
  · intro later fresh patience answer after grown ran last grownLast
    rcases Job.of_createRequest ran with unwritten | ⟨created, inserted⟩
    · cases unwritten with
      | refused violation => trivial
    · obtain rfl := Option.some.inj created
      refine ⟨Instant.toMicrosecond_toMicrosecond _, ?_⟩
      exact grownLast.requests _ (Database.findRequest?_inserted inserted)

/-! ### Lookups, visits and logins -/

section Plain

variable {ε α : Type} {grant : Database → Job → Prop} {fits : Database → Except ε α → Prop}

/-- A call of one job, whose result is held to nothing. -/
theorem close_meets {job : Job} {wrap : StoreError → ε}
    {fits : Database → Except ε job.Result → Prop}
    (anything : ∀ database reply, fits database reply) (granted : ∀ now, grant now job) :
    (Attempt.close wrap job).Meets policy grant fits database := by
  apply Call.Meets.close
  · intro now grown
    exact granted now
  · intro now fresh patience answer after grown ran later grownOn
    exact anything _ _

theorem find_meets {job : Job} {look : Database → Except StoreError job.Result}
    {wrap : StoreError → ε} {next : job.Result → Call (Except ε α)}
    (planned : ∀ fresh, job.plan fresh = .read look)
    (anything : ∀ database reply, fits database reply) (granted : ∀ now, grant now job)
    (ends : ∀ found, ∃ result, next found = .done result) :
    (Attempt.go wrap job next).Meets policy grant fits database := by
  refine .look planned granted ?_ ?_
  · exact fun now error formed failed later grown => anything _ _
  · intro now found formed read
    obtain ⟨result, done⟩ := ends found
    rw [done]
    exact fun later grown => anything _ _

end Plain

theorem touchAt_meets {operation : Operation} {fits : Database → Except Failure User → Prop}
    {caller : Identity} {now : Instant} (anything : ∀ database reply, fits database reply)
    (granted : ∀ database expected, Entitled policy operation database
      (.swapLastSeen caller.subject expected now.toSecond)) :
    (Presence.touchAt caller now).Meets policy (Entitled policy operation) fits database := by
  rw [Presence.touchAt_shape]
  refine .look (fun _ => rfl) (fun _ => .lookUp trivial) ?_ ?_
  · intro now error formed failed later grown
    exact anything _ _
  · intro now found formed read
    cases found with
    | none =>
        intro later grown
        exact anything _ _
    | some user =>
        obtain ⟨same, -⟩ := formed.of_getUser read
        apply Call.Meets.go
        · intro later grown
          rw [same]
          exact granted later user.lastSeen
        · intro later fresh patience error after grown ran last grownLast
          exact anything _ _
        · intro later fresh patience swap after grown ran
          cases swap <;> exact fun last grownLast => anything _ _

theorem login_keeps (settings : Login.Settings) (idToken : String) :
    Keeps policy database (.login idToken) (Login.login settings idToken) := by
  have concluded (user : User) (now : Database) :
      Keeps policy now (.login idToken) (Login.conclude settings user) := by
    intro reading later grown
    trivial
  apply Keeps.of_shape (Login.login_shape settings idToken)
  intro reply
  dsimp only
  cases ProviderReply.read reply with
  | error error =>
      intro later grown
      trivial
  | ok info =>
      dsimp only
      cases settings.policy.check info with
      | error error =>
          intro later grown
          trivial
      | ok admitted =>
          refine .look (fun _ => rfl) (fun _ => .lookUp trivial) ?_ ?_
          · intro now error formed failed later grown
            trivial
          · intro now found formed read
            cases found with
            | some user => exact concluded user now
            | none =>
                apply Call.Meets.go
                · intro later grown
                  exact .signUp
                · intro later fresh patience error after grown ran last grownLast
                  trivial
                · intro later fresh patience user after grown ran
                  exact concluded user after

/-- Every operation keeps to its entitlements. -/
theorem entitlements_lawful (setup : Setup) : (entitlements setup.policy).Lawful setup where
  permits entitled := entitled.permitted
  keeps operation database formed := by
    cases operation with
    | requestToJoin caller ride => exact requestToJoin_keeps caller ride
    | acceptRideRequest caller request => exact acceptRideRequest_keeps caller request
    | acceptRequest caller pairing => exact acceptRequest_keeps caller pairing
    | rejectRequest caller pairing => exact rejectRequest_keeps caller pairing
    | completeMatch caller pairing => exact completeMatch_keeps caller pairing
    | getMatch pairing =>
        apply Keeps.of_shape (Matching.getMatch_shape pairing)
        exact find_meets (fun _ => rfl) (fun _ _ => trivial) (fun _ => .lookUp trivial)
          (Matching.whenFound_ends .pairing pairing)
    | listByRide ride =>
        apply Keeps.of_shape (Matching.listByRide_shape ride)
        exact close_meets (fun _ _ => trivial) fun _ => .lookUp trivial
    | listByRider rider =>
        apply Keeps.of_shape (Matching.listByRider_shape rider)
        exact close_meets (fun _ _ => trivial) fun _ => .lookUp trivial
    | listMine caller =>
        apply Keeps.of_shape (Matching.listMine_shape caller)
        exact close_meets (fun _ _ => trivial) fun _ => .lookUp trivial
    | createOffer caller draft => exact createOffer_keeps caller draft
    | createRequest caller draft => exact createRequest_keeps caller draft
    | getOffer offer =>
        apply Keeps.of_shape (Publishing.getOffer_shape offer)
        exact find_meets (fun _ => rfl) (fun _ _ => trivial) (fun _ => .lookUp trivial)
          (Matching.whenFound_ends .rideOffer offer)
    | getRequest request =>
        apply Keeps.of_shape (Publishing.getRequest_shape request)
        exact find_meets (fun _ => rfl) (fun _ _ => trivial) (fun _ => .lookUp trivial)
          (Matching.whenFound_ends .rideRequest request)
    | me caller =>
        apply Keeps.of_shape (Presence.me_shape caller)
        exact find_meets (fun _ => rfl) (fun _ _ => trivial) (fun _ => .lookUp trivial)
          (Matching.whenFound_ends .user caller.subject)
    | touch caller =>
        apply Keeps.of_shape (Presence.touch_shape caller)
        intro now
        exact touchAt_meets (fun _ _ => trivial) fun _ _ => .touch
    | touchAt caller now => exact touchAt_meets (fun _ _ => trivial) fun _ _ => .touchAt
    | login idToken => exact login_keeps setup.login idToken

end Carpool
