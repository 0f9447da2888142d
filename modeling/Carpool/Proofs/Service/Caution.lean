import Carpool.Proofs.Api.Shape
import Carpool.Proofs.Store.Unchanged

/-!
# The last job of a call is the one that counts

A call that has changed something asks the store nothing more.  Among matches
that can all be read, and as long as a session ends at a time that can be
represented, it also succeeds from there on.
-/

namespace Carpool

open Store

variable {α β ε : Type}

namespace Call

variable {sound : Database → Prop} {timely : Instant → Prop} {fine : α → Prop}

def Asks (kind : Job → Prop) : Call α → Prop
  | .done _ => True
  | .ask (.store job) next => kind job ∧ ∀ answer, (next answer).Asks kind
  | .ask .clock next => ∀ now, (next now).Asks kind
  | .ask (.introspect _) next => ∀ reply, (next reply).Asks kind

/-- The call asks the store nothing more, and ends well. -/
def Concludes (timely : Instant → Prop) (fine : α → Prop) : Call α → Prop
  | .done result => fine result
  | .ask (.store _) _ => False
  | .ask .clock next => ∀ now, timely now → (next now).Concludes timely fine
  | .ask (.introspect _) next => ∀ reply, (next reply).Concludes timely fine

/-- Once a job of the call has changed something, the call concludes. -/
def WritesLast (sound : Database → Prop) (timely : Instant → Prop) (fine : α → Prop) :
    Call α → Prop
  | .done _ => True
  | .ask (.store job) next =>
      ∀ fresh patience before answer after, sound before →
        job.runWhile fresh patience before = (some answer, after) →
        (next answer).WritesLast sound timely fine ∧
          (after ≠ before → (next answer).Concludes timely fine)
  | .ask .clock next => ∀ now, (next now).WritesLast sound timely fine
  | .ask (.introspect _) next => ∀ reply, (next reply).WritesLast sound timely fine

theorem Concludes.asksNothing {call : Call α} (concludes : call.Concludes timely fine)
    (always : ∀ now, timely now) : call.Asks fun _ => False := by
  induction call with
  | done result => trivial
  | ask query next ih =>
      cases query with
      | store job => exact concludes.elim
      | clock => exact fun now => ih now (concludes now (always now))
      | introspect token => exact fun reply => ih reply (concludes reply)

/-! ### Results that are changed -/

variable {change : α → β} {call : Call α}

theorem Asks.map {kind : Job → Prop} (asks : call.Asks kind) : (call.map change).Asks kind := by
  induction call with
  | done result => trivial
  | ask query next ih =>
      cases query with
      | store job => exact ⟨asks.1, fun answer => ih answer (asks.2 answer)⟩
      | clock => exact fun now => ih now (asks now)
      | introspect token => exact fun reply => ih reply (asks reply)

theorem Concludes.map {fine : β → Prop}
    (concludes : call.Concludes timely fun result => fine (change result)) :
    (call.map change).Concludes timely fine := by
  induction call with
  | done result => exact concludes
  | ask query next ih =>
      cases query with
      | store job => exact concludes.elim
      | clock => exact fun now onTime => ih now (concludes now onTime)
      | introspect token => exact fun reply => ih reply (concludes reply)

theorem WritesLast.map {fine : β → Prop}
    (writes : call.WritesLast sound timely fun result => fine (change result)) :
    (call.map change).WritesLast sound timely fine := by
  induction call with
  | done result => trivial
  | ask query next ih =>
      cases query with
      | store job =>
          intro fresh patience before answer after held ran
          obtain ⟨goesOn, concludes⟩ := writes fresh patience before answer after held ran
          exact ⟨ih answer goesOn, fun changed => (concludes changed).map⟩
      | clock => exact fun now => ih now (writes now)
      | introspect token => exact fun reply => ih reply (writes reply)

/-! ### Jobs of a call -/

variable {wrap : StoreError → ε} {job : Job}

theorem Asks.of_shape {kind : Job → Prop} {call shape : Call α} (same : call = shape)
    (asks : shape.Asks kind) : call.Asks kind :=
  same ▸ asks

theorem Asks.close {kind : Job → Prop} (asked : kind job) :
    (Attempt.close wrap job).Asks kind :=
  ⟨asked, fun _ => trivial⟩

theorem Asks.go {kind : Job → Prop} {next : job.Result → Call (Except ε α)} (asked : kind job)
    (goesOn : ∀ result, (next result).Asks kind) : (Attempt.go wrap job next).Asks kind := by
  refine ⟨asked, fun answer => ?_⟩
  cases answer with
  | error error => trivial
  | ok result => exact goesOn result

theorem WritesLast.of_shape {call shape : Call α} (same : call = shape)
    (writes : shape.WritesLast sound timely fine) : call.WritesLast sound timely fine :=
  same ▸ writes

theorem Asks.ite {kind : Job → Prop} {condition : Prop} [Decidable condition]
    {first second : Call α} (yes : first.Asks kind) (no : second.Asks kind) :
    (if condition then first else second).Asks kind := by
  split
  · exact yes
  · exact no

theorem Asks.whenFound {kind : Job → Prop} {entity : Entity} {id : Uuid}
    {next : α → Call (Except Failure β)} (goesOn : ∀ record, (next record).Asks kind)
    (found : Option α) : (Matching.whenFound entity id next found).Asks kind := by
  cases found with
  | none => trivial
  | some record => exact goesOn record

theorem Asks.publication {kind : Job → Prop} {caller : Identity}
    {check : Instant → Except Flaw α} {stranger : Flaw} {write : α → Call (Except Failure β)}
    (account : kind (.getUser caller.subject)) (writes : ∀ input, (write input).Asks kind) :
    (Publishing.publication caller check stranger write).Asks kind := by
  intro now
  dsimp only
  cases check now with
  | error flaw => trivial
  | ok input =>
      refine .go account fun found => ?_
      cases found with
      | none => trivial
      | some user => exact writes input

theorem WritesLast.of_lookups {call : Call α} (asks : call.Asks Job.IsLookup) :
    call.WritesLast sound timely fine := by
  induction call with
  | done result => trivial
  | ask query next ih =>
      cases query with
      | store job =>
          intro fresh patience before answer after held ran
          refine ⟨ih answer (asks.2 answer), fun changed => ?_⟩
          exact absurd (Job.unchanged_of_lookup asks.1 ran) changed
      | clock => exact fun now => ih now (asks now)
      | introspect token => exact fun reply => ih reply (asks reply)

theorem WritesLast.look {next : job.Result → Call (Except ε α)} {fine : Except ε α → Prop}
    (lookup : job.IsLookup) (goesOn : ∀ result, (next result).WritesLast sound timely fine) :
    (Attempt.go wrap job next).WritesLast sound timely fine := by
  intro fresh patience before answer after held ran
  refine ⟨?_, fun changed => absurd (Job.unchanged_of_lookup lookup ran) changed⟩
  cases answer with
  | error error => trivial
  | ok result => exact goesOn result

/-- A job that writes.  If it fails it has changed nothing, or any result is
fine; and the call concludes unless the job has declined. -/
theorem WritesLast.write {next : job.Result → Call (Except ε α)} {fine : Except ε α → Prop}
    (readable : job.Forces → (∀ database, sound database → database.ReadableMatches) ∨
      ∀ result, fine result)
    (goesOn : ∀ result, (next result).WritesLast sound timely fine)
    (concludes : ∀ result, ¬job.Declines result → (next result).Concludes timely fine) :
    (Attempt.go wrap job next).WritesLast sound timely fine := by
  intro fresh patience before answer after held ran
  cases answer with
  | error error =>
      refine ⟨trivial, fun changed => ?_⟩
      by_cases anything : ∀ result, fine result
      · exact anything _
      · refine absurd (Job.unchanged_of_error (fun forces => ?_) ran) changed
        exact (readable forces).resolve_right anything before held
  | ok result =>
      refine ⟨goesOn result, fun changed => concludes result fun declines => ?_⟩
      exact changed (Job.unchanged_of_declines declines ran)

theorem WritesLast.close {fine : Except ε job.Result → Prop} (unforced : ¬job.Forces)
    (succeeds : ∀ result, fine (.ok result)) :
    (Attempt.close wrap job).WritesLast sound timely fine := by
  intro fresh patience before answer after held ran
  refine ⟨trivial, fun changed => ?_⟩
  cases answer with
  | error error =>
      exact absurd (Job.unchanged_of_error (fun forces => absurd forces unforced) ran) changed
  | ok result => exact succeeds result

theorem WritesLast.ite {condition : Prop} [Decidable condition] {first second : Call α}
    (yes : condition → first.WritesLast sound timely fine)
    (no : ¬condition → second.WritesLast sound timely fine) :
    (if condition then first else second).WritesLast sound timely fine := by
  split
  · exact yes ‹_›
  · exact no ‹_›

theorem WritesLast.whenFound {entity : Entity} {id : Uuid} {next : α → Call (Except Failure β)}
    {fine : Except Failure β → Prop} (goesOn : ∀ record, (next record).WritesLast sound timely fine)
    (found : Option α) :
    (Matching.whenFound entity id next found).WritesLast sound timely fine := by
  cases found with
  | none => trivial
  | some record => exact goesOn record

theorem WritesLast.publication {caller : Identity} {check : Instant → Except Flaw α}
    {stranger : Flaw} {write : α → Call (Except Failure β)} {fine : Except Failure β → Prop}
    (writes : ∀ input, (write input).WritesLast sound timely fine) :
    (Publishing.publication caller check stranger write).WritesLast sound timely fine := by
  intro now
  dsimp only
  cases check now with
  | error flaw => trivial
  | ok input =>
      refine .look trivial fun found => ?_
      cases found with
      | none => trivial
      | some user => exact writes input

end Call

/-! ## Every operation -/

def Operation.IsRead : Operation → Prop
  | .getMatch _ | .listByRide _ | .listByRider _ | .listMine _ | .getOffer _ | .getRequest _
  | .me _ => True
  | _ => False

theorem Operation.IsRead.asks {operation : Operation} (reads : operation.IsRead) (setup : Setup) :
    (operation.call setup).Asks Job.IsLookup := by
  cases operation with
  | getMatch pairing =>
      exact .of_shape (Matching.getMatch_shape pairing) (.go trivial (.whenFound fun _ => trivial))
  | listByRide ride =>
      exact .of_shape (Matching.listByRide_shape ride) (.close trivial)
  | listByRider rider =>
      exact .of_shape (Matching.listByRider_shape rider) (.close trivial)
  | listMine caller =>
      exact .of_shape (Matching.listMine_shape caller) (.close trivial)
  | getOffer offer =>
      exact .of_shape (Publishing.getOffer_shape offer) (.go trivial (.whenFound fun _ => trivial))
  | getRequest request =>
      exact .of_shape (Publishing.getRequest_shape request)
        (.go trivial (.whenFound fun _ => trivial))
  | me caller =>
      exact .of_shape (Presence.me_shape caller) (.go trivial (.whenFound fun _ => trivial))
  | _ => exact reads.elim

/-! ### Calls that write -/

section Services

variable {sound : Database → Prop} {timely : Instant → Prop}

section Matching

variable {fine : Except Failure Match → Prop} (succeeds : ∀ record, fine (.ok record))

include succeeds

theorem requestToJoin_writesLast (caller : Identity) (ride : Uuid) :
    (Matching.requestToJoin caller ride : Call (Except Failure Match)).WritesLast sound timely
      fine := by
  apply Call.WritesLast.of_shape (Matching.requestToJoin_shape caller ride)
  refine .look trivial ?_
  apply Call.WritesLast.whenFound
  intro offer
  cases offer.driverId with
  | none => trivial
  | some driver => exact .ite (fun own => trivial) fun other => .close id succeeds

theorem advance_writesLast (id : Uuid) (current : Match) (next : MatchStatus) :
    (Matching.advance id current next : Call (Except Failure Match)).WritesLast sound timely
      fine := by
  apply Call.WritesLast.of_shape (Matching.advance_shape id current next)
  apply Call.WritesLast.write
  · exact False.elim
  · intro swap
    cases swap with
    | applied => trivial
    | stale =>
        refine .look trivial ?_
        exact Call.WritesLast.whenFound fun now => trivial
  · intro swap changed
    cases swap with
    | applied => exact succeeds _
    | stale => exact absurd rfl changed

theorem resolve_writesLast (caller : Identity) (id : Uuid) (next : MatchStatus) :
    (Matching.resolve caller id next : Call (Except Failure Match)).WritesLast sound timely
      fine := by
  apply Call.WritesLast.of_shape (Matching.resolve_shape caller id next)
  refine .look trivial ?_
  apply Call.WritesLast.whenFound
  intro current
  refine .ite (fun other => trivial) fun drives => ?_
  refine .ite (fun decided => trivial) fun pending => ?_
  exact advance_writesLast succeeds id current next

/-- Nobody asks for the status of a match that is completed without a look, so
all matches must be readable for the answer to succeed. -/
theorem completeMatch_writesLast
    (readable : (∀ database, sound database → database.ReadableMatches) ∨ ∀ result, fine result)
    (policy : CompletionPolicy) (caller : Identity) (id : Uuid) :
    (Matching.completeMatch policy caller id : Call (Except Failure Match)).WritesLast sound timely
      fine := by
  cases policy with
  | unrestricted =>
      apply Call.WritesLast.of_shape (Matching.completeMatch_unrestricted_shape caller id)
      apply Call.WritesLast.write
      · exact fun _ => readable
      · exact Call.WritesLast.whenFound fun record => trivial
      · intro found changed
        cases found with
        | none => exact absurd rfl changed
        | some record => exact succeeds record
  | participants =>
      apply Call.WritesLast.of_shape (Matching.completeMatch_participants_shape caller id)
      refine .look trivial ?_
      apply Call.WritesLast.whenFound
      intro current
      refine .ite (fun stranger => trivial) fun takesPart => ?_
      refine .ite (fun unaccepted => trivial) fun accepted => ?_
      exact advance_writesLast succeeds id current .completed

end Matching

theorem acceptRideRequest_writesLast {fine : Except Failure Accepted → Prop}
    (succeeds : ∀ accepted, fine (.ok accepted)) (caller : Identity) (id : Uuid) :
    (Matching.acceptRideRequest caller id : Call (Except Failure Accepted)).WritesLast sound timely
      fine := by
  apply Call.WritesLast.of_shape (Matching.acceptRideRequest_shape caller id)
  refine .look trivial ?_
  apply Call.WritesLast.whenFound
  intro request
  refine .ite (fun inactive => trivial) fun active => ?_
  refine .ite (fun own => trivial) fun other => ?_
  apply Call.WritesLast.write
  · exact False.elim
  · intro accepted
    cases accepted <;> trivial
  · intro accepted changed
    cases accepted with
    | none => exact absurd rfl changed
    | some accepted => exact succeeds accepted

theorem createOffer_writesLast {fine : Except Failure RideOffer → Prop}
    (succeeds : ∀ offer, fine (.ok offer)) (caller : Identity) (draft : OfferDraft) :
    (Publishing.createOffer caller draft : Call (Except Failure RideOffer)).WritesLast sound timely
      fine := by
  apply Call.WritesLast.of_shape (Publishing.createOffer_shape caller draft)
  exact .publication fun input => .close id succeeds

theorem createRequest_writesLast {fine : Except Failure RideRequest → Prop}
    (succeeds : ∀ request, fine (.ok request)) (caller : Identity) (draft : RequestDraft) :
    (Publishing.createRequest caller draft : Call (Except Failure RideRequest)).WritesLast sound
      timely fine := by
  apply Call.WritesLast.of_shape (Publishing.createRequest_shape caller draft)
  exact .publication fun input => .close id succeeds

theorem touchAt_writesLast {fine : Except Failure User → Prop} (succeeds : ∀ user, fine (.ok user))
    (caller : Identity) (now : Instant) :
    (Presence.touchAt caller now : Call (Except Failure User)).WritesLast sound timely fine := by
  apply Call.WritesLast.of_shape (Presence.touchAt_shape caller now)
  refine .look trivial ?_
  apply Call.WritesLast.whenFound
  intro user
  apply Call.WritesLast.write
  · exact False.elim
  · intro swap
    cases swap <;> trivial
  · intro swap changed
    cases swap with
    | applied => exact succeeds _
    | stale => exact absurd rfl changed

/-- A session that starts at a time ends at one that can be represented. -/
def Login.Settings.CanEnd (settings : Login.Settings) (now : Instant) : Prop :=
  now.second + 3600 * settings.sessionHours.toNat ≤ Instant.lastSecond

instance (settings : Login.Settings) (now : Instant) : Decidable (settings.CanEnd now) :=
  inferInstanceAs (Decidable (_ ≤ _))

theorem Login.Settings.CanEnd.issues {settings : Login.Settings} {now : Instant}
    (ends : settings.CanEnd now) (user : User) :
    ∃ token, Session.issue? settings.secret user settings.sessionHours now = some token := by
  have start := now.first_le
  rw [Login.Settings.CanEnd] at ends
  rw [Session.issue?, SessionClaims.ofUser?, Instant.make?, dif_pos]
  · exact ⟨_, rfl⟩
  · exact ⟨by omega, ends, by omega, by omega⟩

theorem Login.Settings.CanEnd.exists_session {settings : Login.Settings} {now : Instant}
    (ends : settings.CanEnd now) (user : User) :
    ∃ session, Login.session? settings user now = some session ∧ session.user = user := by
  obtain ⟨token, issued⟩ := ends.issues user
  exact ⟨⟨token, user⟩, by rw [Login.session?, issued, Option.map_some], rfl⟩

theorem login_writesLast {settings : Login.Settings}
    {fine : Except LoginError (Option Login.Session) → Prop}
    (succeeds : ∀ session, fine (.ok (some session)))
    (ends : (∀ now, timely now → settings.CanEnd now) ∨ ∀ result, fine result) (idToken : String) :
    (Login.login settings idToken : Call (Except LoginError (Option Login.Session))).WritesLast
      sound timely fine := by
  have concluded (user : User) :
      (Login.conclude settings user).WritesLast sound timely fine := fun now => trivial
  apply Call.WritesLast.of_shape (Login.login_shape settings idToken)
  intro reply
  dsimp only
  cases ProviderReply.read reply with
  | error error => trivial
  | ok info =>
      dsimp only
      cases settings.policy.check info with
      | error error => trivial
      | ok admitted =>
          refine .look trivial ?_
          intro found
          cases found with
          | some user => exact concluded user
          | none =>
              refine .write False.elim concluded ?_
              intro user created now onTime
              rcases ends with ends | anything
              · obtain ⟨session, started, -⟩ := (ends now onTime).exists_session user
                dsimp only
                rw [started]
                exact succeeds session
              · exact anything _

end Services

/-- The outcome of a method is no success: the method has failed or broken off. -/
def Api.fails : Except ApiError (Option Json.Document) → Bool
  | .ok (some _) => false
  | .ok none | .error _ => true

def Operation.fails (operation : Operation) (reply : operation.Reply) : Bool :=
  Api.fails (Api.present operation reply)

/-- Every operation concludes once a job of it has changed something.  Where that
is meant in the strict sense, it then does not fail. -/
theorem Operation.writesLast (strict : Prop) (setup : Setup) (operation : Operation) :
    (operation.call setup).WritesLast (fun database => strict → database.ReadableMatches)
      (fun now => strict → setup.login.CanEnd now)
      (fun reply => strict → operation.fails reply = false) := by
  by_cases reads : operation.IsRead
  · exact .of_lookups (reads.asks setup)
  cases operation with
  | requestToJoin caller ride => exact requestToJoin_writesLast (fun _ _ => rfl) caller ride
  | acceptRideRequest caller request =>
      exact acceptRideRequest_writesLast (fun _ _ => rfl) caller request
  | acceptRequest caller pairing => exact resolve_writesLast (fun _ _ => rfl) caller pairing _
  | rejectRequest caller pairing => exact resolve_writesLast (fun _ _ => rfl) caller pairing _
  | completeMatch caller pairing =>
      refine completeMatch_writesLast (fun _ _ => rfl) ?_ setup.policy caller pairing
      by_cases meant : strict
      · exact .inl fun database readable => readable meant
      · exact .inr fun result also => absurd also meant
  | createOffer caller draft => exact createOffer_writesLast (fun _ _ => rfl) caller draft
  | createRequest caller draft => exact createRequest_writesLast (fun _ _ => rfl) caller draft
  | touch caller => exact fun now => touchAt_writesLast (fun _ _ => rfl) caller now
  | touchAt caller now => exact touchAt_writesLast (fun _ _ => rfl) caller now
  | login idToken =>
      refine login_writesLast (fun _ _ => rfl) ?_ idToken
      by_cases meant : strict
      · exact .inl fun now ends => ends meant
      · exact .inr fun result also => absurd also meant
  | _ => exact absurd trivial reads

end Carpool
