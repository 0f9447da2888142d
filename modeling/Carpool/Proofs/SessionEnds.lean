import Carpool.Proofs.FirstLogins
import Carpool.Proofs.Time.StoredOrder

/-!
# The ends of sessions

A session is issued just where its end can be represented.  In the years 1970 to
9999 that is everywhere, for up to so many hours.  A longer session may have no
end, and the login that was to have it breaks off, after it has created the
account.
-/

namespace Carpool

open Store

/-! ## Four-digit years -/

theorem Date.ofDays_year_mono {first second : Int} (ordered : first ≤ second) :
    (ofDays first).year ≤ (ofDays second).year := by
  rcases Int.lt_or_eq_of_le ordered with earlier | rfl
  · rcases ofDays_precedes earlier with yearLess | ⟨sameYear, -⟩
    · exact Int.le_of_lt yearLess
    · exact Int.le_of_eq sameYear
  · exact Int.le_refl _

/-- An instant of the years 1970 to 9999. -/
structure Instant.IsModern (instant : Instant) : Prop where
  first : 1970 ≤ instant.date.year
  last : instant.date.year ≤ 9999

theorem Instant.isModern_iff {instant : Instant} :
    instant.IsModern ↔ 0 ≤ instant.second ∧ instant.second ≤ 253402300799 := by
  have dayBefore : (Date.ofDays (-1)).year = 1969 := by decide
  have firstDay : (Date.ofDays 0).year = 1970 := by decide
  have lastDay : (Date.ofDays 2932896).year = 9999 := by decide
  have dayAfter : (Date.ofDays 2932897).year = 10000 := by decide
  constructor
  · rintro ⟨first, last⟩
    rw [date] at first last
    constructor
    · by_contra early
      have years := Date.ofDays_year_mono (show instant.second / 86400 ≤ -1 by omega)
      omega
    · by_contra late
      have years := Date.ofDays_year_mono (show 2932897 ≤ instant.second / 86400 by omega)
      omega
  · rintro ⟨first, last⟩
    constructor
    · rw [date, ← firstDay]
      exact Date.ofDays_year_mono (by omega)
    · rw [date, ← lastDay]
      exact Date.ofDays_year_mono (by omega)

namespace Session

/-! ## Which sessions are issued -/

/-- The most hours for which all sessions have an end that start before the year
10000. -/
def mostHours : Nat := 2210240160

/-- Every user gets a session at every time of the years 1970 to 9999. -/
def AlwaysIssues (secret : Octets) (hours : UInt32) : Prop :=
  ∀ (user : User) (start : Instant), start.IsModern →
    ∃ token, issue? secret user hours start = some token

/-- A token says when the session starts, and that it lasts so many hours from
then on, and is good when it starts. -/
structure StartsSession (secret : Octets) (user : User) (hours : UInt32) (start : Instant)
    (token : String) : Prop where
  said : ∃ claims, verify? secret (Octets.ofText token) = some claims ∧
    claims.issuedAt = start.second ∧ claims.expiry = claims.issuedAt + 3600 * hours.toNat
  valid : validate secret start token = .ok (identityOfUser user)

/-- Sessions of so many hours are issued just where they have an end. -/
structure IssuesThoseThatEnd (secret : Octets) (hours : UInt32) : Prop where
  issued : ∀ (user : User) (start : Instant), start.IsModern →
    ((∃ token, issue? secret user hours start = some token) ↔
      start.second + 3600 * hours.toNat ≤ Instant.lastSecond)
  starts : ∀ (user : User) (start : Instant) (token : String), start.IsModern →
    issue? secret user hours start = some token → StartsSession secret user hours start token
  always : AlwaysIssues secret hours ↔ hours.toNat ≤ mostHours

variable {secret : Octets} {user : User} {hours : UInt32} {start : Instant} {token : String}

theorem issue?_eq_some (modern : start.IsModern) :
    issue? secret user hours start = some token ↔
      start.second + 3600 * hours.toNat ≤ Instant.lastSecond ∧
        token = sign secret (userClaims user start (start.second + 3600 * hours.toNat)) := by
  obtain ⟨nonnegative, -⟩ := Instant.isModern_iff.mp modern
  constructor
  · intro issued
    obtain ⟨claims, made, rfl⟩ := Option.map_eq_some_iff.mp issued
    obtain ⟨last, ending, -⟩ := Option.map_eq_some_iff.mp made
    have representable : start.second + 3600 * hours.toNat ≤ Instant.lastSecond := by
      rw [Instant.make?] at ending
      split at ending
      · rename_i inRange
        exact inRange.2.1
      · cases ending
    rw [ofUser?_eq_some user hours nonnegative representable] at made
    exact ⟨representable, congrArg _ (Option.some.inj made).symm⟩
  · rintro ⟨representable, rfl⟩
    rw [issue?, ofUser?_eq_some user hours nonnegative representable]
    rfl

theorem exists_issue?_iff (modern : start.IsModern) :
    (∃ token, issue? secret user hours start = some token) ↔
      start.second + 3600 * hours.toNat ≤ Instant.lastSecond := by
  simp only [issue?_eq_some modern, exists_and_left, exists_eq, and_true]

theorem startsSession_of_issue (modern : start.IsModern)
    (issued : issue? secret user hours start = some token) :
    StartsSession secret user hours start token := by
  obtain ⟨nonnegative, -⟩ := Instant.isModern_iff.mp modern
  refine ⟨?_, (establishesUntil_of_issue issued).live start nonnegative (by omega)⟩
  obtain ⟨representable, rfl⟩ := (issue?_eq_some modern).mp issued
  have fits : IsWord (start.second + 3600 * hours.toNat) := by
    rw [Instant.lastSecond] at representable
    rw [IsWord]
    omega
  exact ⟨_, verify?_sign (userClaims_fitsWords fits), rfl, rfl⟩

/-- The last second of the year 9999 can be represented. -/
theorem exists_lastModern : ∃ instant : Instant, instant.second = 253402300799 :=
  ⟨⟨253402300799, 0, by decide, by decide, by decide, by decide⟩, rfl⟩

theorem alwaysIssues_iff : AlwaysIssues secret hours ↔ hours.toNat ≤ mostHours := by
  rw [mostHours]
  constructor
  · intro always
    obtain ⟨latest, ending⟩ := exists_lastModern
    have modern : latest.IsModern := Instant.isModern_iff.mpr (by omega)
    let user : User := ⟨.ofNat 0, "", "", none, none, .epoch⟩
    have ends := (exists_issue?_iff modern).mp (always user latest modern)
    rw [Instant.lastSecond] at ends
    omega
  · intro bounded user start modern
    obtain ⟨-, last⟩ := Instant.isModern_iff.mp modern
    rw [exists_issue?_iff modern, Instant.lastSecond]
    omega

theorem issuesThoseThatEnd (secret : Octets) (hours : UInt32) :
    IssuesThoseThatEnd secret hours where
  issued _ _ modern := exists_issue?_iff modern
  starts _ _ _ modern issued := startsSession_of_issue modern issued
  always := alwaysIssues_iff

end Session

/-! ## After an account has been created -/

/-- A call has asked for every job in its transcript. -/
theorem Call.Leads.of_mem {α : Type} {call rest : Call α} {transcript : List Exchange} {job : Job}
    {answer : Except StoreError job.Result} (leads : call.Leads transcript rest)
    (asked : Exchange.store job answer ∈ transcript) :
    ∃ earlier later next, transcript = earlier ++ .store job answer :: later ∧
      call.Leads earlier (.ask (.store job) next) ∧ (next answer).Leads later rest := by
  induction leads with
  | start => cases asked
  | store answer leads ih =>
      rcases List.mem_cons.mp asked with same | asked
      · cases same
        exact ⟨[], _, _, rfl, .start, leads⟩
      · obtain ⟨earlier, later, next, rfl, came, went⟩ := ih asked
        exact ⟨_ :: earlier, later, next, rfl, .store answer came, went⟩
  | clock now leads ih =>
      rcases List.mem_cons.mp asked with same | asked
      · cases same
      · obtain ⟨earlier, later, next, rfl, came, went⟩ := ih asked
        exact ⟨_ :: earlier, later, next, rfl, .clock now came, went⟩
  | introspect reply leads ih =>
      rcases List.mem_cons.mp asked with same | asked
      · cases same
      · obtain ⟨earlier, later, next, rfl, came, went⟩ := ih asked
        exact ⟨_ :: earlier, later, next, rfl, .introspect reply came, went⟩

namespace Login

variable {settings : Settings} {user : User} {now : Instant}

theorem session?_of_not_canEnd (endless : ¬settings.CanEnd now) :
    session? settings user now = none := by
  have beyond : SessionClaims.ofUser? user settings.sessionHours now = none := by
    rw [SessionClaims.ofUser?, Instant.make?, dif_neg fun inRange => endless inRange.2.1]
    rfl
  rw [session?, Session.issue?, beyond]
  rfl

/-- With the account that it has created a login goes on to its conclusion. -/
theorem next_of_createUser {idToken : String} {transcript : List Exchange} {input : NewUser}
    {next : Except StoreError User → Call (Except LoginError (Option Session))}
    (leads : (login settings idToken : Call (Except LoginError (Option Session))).Leads transcript
      (.ask (.store (.createUser input)) next)) : next (.ok user) = conclude settings user := by
  rw [login_shape] at leads
  cases leads with
  | introspect reply heard =>
      dsimp only at heard
      split at heard
      · cases heard
      split at heard
      · cases heard
      obtain ⟨-, same⟩ | ⟨_, -, same⟩ | ⟨found, later, rfl, sought⟩ := heard.of_go
      · cases same
      · cases same
      cases found with
      | some known =>
          obtain ⟨-, same⟩ | ⟨_, -, same⟩ := leads_of_conclude sought
          · cases same
          · cases same
      | none =>
          obtain ⟨-, same⟩ | ⟨_, -, same⟩ | ⟨made, _, rfl, ended⟩ := Call.Leads.of_go sought
          · cases same
            rfl
          · cases same
          obtain ⟨-, same⟩ | ⟨_, -, same⟩ := leads_of_conclude ended
          · cases same
          · cases same

/-- A login that has created an account waits for the clock, or it has ended by
what the clock said. -/
theorem created_of_leads {idToken : String} {transcript : List Exchange} {input : NewUser}
    {rest : Call (Except LoginError (Option Session))}
    (leads : (login settings idToken : Call (Except LoginError (Option Session))).Leads transcript
      rest)
    (created : Exchange.store (.createUser input) (.ok user) ∈ transcript) :
    rest = conclude settings user ∨
      ∃ now, .clock now ∈ transcript ∧ rest = .done (.ok (session? settings user now)) := by
  obtain ⟨earlier, later, next, rfl, came, went⟩ := leads.of_mem created
  have concluding : (conclude settings user).Leads later rest := next_of_createUser came ▸ went
  obtain ⟨-, rfl⟩ | ⟨now, rfl, rfl⟩ := leads_of_conclude concluding
  · exact .inl rfl
  · exact .inr ⟨now, by simp, rfl⟩

end Login

namespace Server

variable {config : ServerConfig} {events : List Event} {number : Nat} {server : Server}
  {user : User}

theorem Recorded.mem_of_own {own : List Receipt} {transcript : List Exchange} {caller : Nat}
    {errand : Errand} {job : Job} {fresh : Fresh} {answer : Except StoreError job.Result}
    {before after : Database} (recorded : Recorded events number own transcript)
    (member : ⟨caller, errand, job, fresh, some answer, before, after⟩ ∈ own) :
    Exchange.store job answer ∈ transcript := by
  induction recorded with
  | nil => cases member
  | told _ _ ih => exact List.mem_cons_of_mem _ (ih member)
  | reported _ _ ih => exact List.mem_cons_of_mem _ (ih member)
  | answered _ ih =>
      rcases List.mem_cons.mp member with same | member
      · cases same
        exact List.mem_cons_self
      · exact List.mem_cons_of_mem _ (ih member)

theorem Recorded.told_of_mem {own : List Receipt} {transcript : List Exchange} {now : Instant}
    (recorded : Recorded events number own transcript)
    (member : Exchange.clock now ∈ transcript) : .tell number now ∈ events := by
  induction recorded with
  | nil => cases member
  | told told _ ih =>
      rcases List.mem_cons.mp member with same | member
      · cases same
        exact told
      · exact ih member
  | reported _ _ ih => exact ih ((List.mem_cons.mp member).resolve_left nofun)
  | answered _ ih => exact ih ((List.mem_cons.mp member).resolve_left nofun)

/-- A call has created an account for a user. -/
def HasCreated (server : Server) (number : Nat) (user : User) : Prop :=
  ∃ caller errand input fresh before after,
    (⟨caller, errand, .createUser input, fresh, some (.ok user), before, after⟩ : Receipt) ∈
      server.receiptsOf number

/-- A session was issued to a user when the clock of a call showed some time, and
it lasts from then on. -/
structure IssuedAt (config : ServerConfig) (user : User) (now : Instant)
    (session : Login.Session) : Prop where
  own : session.user = user
  lasting : Session.EstablishesUntil config.secret session.token (Session.identityOfUser user)
    (now.second + 3600 * config.sessionHours.toNat)

/-- How a login stands that has created an account. -/
inductive Concluding (config : ServerConfig) (events : List Event) (number : Nat) (user : User) :
    Call (Except LoginError (Option Login.Session)) → Prop
  | waits : Concluding config events number user
      (.ask .clock fun now => .done (.ok (Login.session? config.loginSettings user now)))
  | issued {now : Instant} {session : Login.Session} (told : .tell number now ∈ events)
      (ends : config.loginSettings.CanEnd now) (issued : IssuedAt config user now session) :
      Concluding config events number user (.done (.ok (some session)))
  | brokenOff {now : Instant} (told : .tell number now ∈ events)
      (endless : ¬config.loginSettings.CanEnd now) :
      Concluding config events number user (.done (.ok none))

/-- Sessions are issued just where they have an end, also by the logins that have
created the account. -/
structure IssuesThoseThatEnd (config : ServerConfig) (events : List Event) (server : Server) :
    Prop where
  sessions : Session.IssuesThoseThatEnd config.secret config.sessionHours
  stored : ∀ {number : Nat} {user : User}, server.HasCreated number user →
    server.database.HasAccount user
  operation : ∀ {number : Nat} {user : User} {idToken : String}
    {rest : Call (Except LoginError (Option Login.Session))}, server.HasCreated number user →
    server.slots number = some ⟨.operation (.login idToken), .going rest⟩ →
    Concluding config events number user rest
  /-- Of the requests, just those are answered whose session has an end, and they
  are answered with it. -/
  request : ∀ {number : Nat} {user : User} {message : Api.Request}
    {response? : Option Api.Response}, server.HasCreated number user →
    server.slots number = some ⟨.request message, .going (.done response?)⟩ →
    ∃ now, .tell number now ∈ events ∧
      (config.loginSettings.CanEnd now →
        ∃ session, response? = some (.json 200 (Api.loginReply session).print) ∧
          IssuedAt config user now session) ∧
      (¬config.loginSettings.CanEnd now → response? = none)

theorem exists_issuedAt {now : Instant} (ends : config.loginSettings.CanEnd now) (user : User) :
    ∃ session, Login.session? config.loginSettings user now = some session ∧
      IssuedAt config user now session := by
  obtain ⟨session, started, own⟩ := ends.exists_session user
  obtain ⟨-, issued⟩ := Login.of_session?_eq_some started
  exact ⟨session, started, own, Session.establishesUntil_of_issue issued⟩

theorem HasCreated.hasAccount (created : server.HasCreated number user)
    (ran : run config (opening .empty) events = some server) :
    server.database.HasAccount user := by
  obtain ⟨_, _, _, _, _, _, member⟩ := created
  exact (hasAccount_of_created ran (mem_receiptsOf_iff.mp member).1).1

theorem HasCreated.mem_transcript (created : server.HasCreated number user)
    {transcript : List Exchange}
    (recorded : Recorded events number (server.receiptsOf number) transcript) :
    ∃ input, Exchange.store (.createUser input) (.ok user) ∈ transcript := by
  obtain ⟨_, _, input, _, _, _, member⟩ := created
  exact ⟨input, recorded.mem_of_own member⟩

theorem concluding_of_going (ran : run config (opening .empty) events = some server)
    {idToken : String} {rest : Call (Except LoginError (Option Login.Session))}
    (created : server.HasCreated number user)
    (going : server.slots number = some ⟨.operation (.login idToken), .going rest⟩) :
    Concluding config events number user rest := by
  obtain ⟨transcript, leads, recorded⟩ := leads_of_going ran going
  obtain ⟨input, asked⟩ := created.mem_transcript recorded
  obtain rfl | ⟨now, said, rfl⟩ := Login.created_of_leads leads asked
  · exact .waits
  have told := recorded.told_of_mem said
  by_cases ends : config.loginSettings.CanEnd now
  · obtain ⟨session, started, issued⟩ := exists_issuedAt ends user
    exact started ▸ .issued told ends issued
  · exact Login.session?_of_not_canEnd ends ▸ .brokenOff told ends

/-- A request that has created an account is a login that has ended by what the
clock said. -/
theorem responds_created {method : Method} {message : Api.Request} {transcript : List Exchange}
    {response? : Option Api.Response} {input : NewUser}
    (responds : Api.Responds config method message transcript response?)
    (asked : Exchange.store (.createUser input) (.ok user) ∈ transcript) :
    ∃ now idToken, .clock now ∈ transcript ∧
      response? = Api.respond
        (Api.present (.login idToken) (.ok (Login.session? config.loginSettings user now))) := by
  have gateless {gate : List Exchange} {caller : Option Identity}
      (enters : Api.Enters config message gate caller) :
      Exchange.store (.createUser input) (.ok user) ∉ gate := by
    cases enters <;> simp
  cases responds with
  | turnedAway gated turned => simp at asked
  | notPost other enters => exact absurd asked (gateless enters)
  | unread post enters refused => exact absurd asked (gateless enters)
  | @served gate later caller action post enters commanded reply ended =>
      have asked := (List.mem_append.mp asked).resolve_left (gateless enters)
      obtain ⟨_, _, next, -, came, -⟩ := ended.of_mem asked
      obtain ⟨idToken, rfl⟩ := Operation.mayAsk_of_leads came
      obtain waits | ⟨now, said, concluded⟩ := Login.created_of_leads ended asked
      · cases waits
      obtain rfl := Call.done.inj concluded
      exact ⟨now, idToken, List.mem_append_right _ said, rfl⟩

theorem request_of_created (ran : run config (opening .empty) events = some server)
    {message : Api.Request} {response? : Option Api.Response}
    (created : server.HasCreated number user)
    (going : server.slots number = some ⟨.request message, .going (.done response?)⟩) :
    ∃ now, .tell number now ∈ events ∧
      (config.loginSettings.CanEnd now →
        ∃ session, response? = some (.json 200 (Api.loginReply session).print) ∧
          IssuedAt config user now session) ∧
      (¬config.loginSettings.CanEnd now → response? = none) := by
  obtain ⟨transcript, leads, recorded⟩ := leads_of_going ran going
  obtain ⟨input, asked⟩ := created.mem_transcript recorded
  cases named : Method.ofPath? message.path with
  | none =>
      have unasked : (Api.answer config message).Leads transcript (.done response?) := leads
      rw [Api.answer_of_unknown config named] at unasked
      obtain ⟨rfl, -⟩ := Call.leads_done_iff.mp unasked
      cases asked
  | some method =>
      obtain ⟨now, idToken, said, rfl⟩ :=
        responds_created (Api.responds_of_answer named leads) asked
      refine ⟨now, recorded.told_of_mem said, fun ends => ?_, fun endless => ?_⟩
      · obtain ⟨session, started, issued⟩ := exists_issuedAt ends user
        exact ⟨session, by rw [started]; rfl, issued⟩
      · rw [Login.session?_of_not_canEnd endless]
        rfl

/-- In every run from the empty store, sessions are issued just where they have
an end, and a login that has created an account goes on to its session or breaks
off where that would have none. -/
theorem sessions_issued_iff_they_end (ran : run config (opening .empty) events = some server) :
    IssuesThoseThatEnd config events server where
  sessions := Session.issuesThoseThatEnd config.secret config.sessionHours
  stored created := created.hasAccount ran
  operation created going := concluding_of_going ran created going
  request created going := request_of_created ran created going

end Server

/-! ## Two first logins -/

namespace Sample

/-- The rider logs in for the first time. -/
def firstLogin : List Server.Event :=
  [.arrive 1 (.operation (.login "first")), .report 1 (verified "rider@example")] ++
    serve 1 0 0 2 ++ serve 1 1 0 4 ++ [.tell 1 moment]

/-- A server whose sessions last for as many hours as can be configured. -/
def lastingConfig : ServerConfig :=
  { config with sessionHours := 4294967295 }

end Sample

namespace Server

/-- The account of a call, if its last job has created one. -/
def created? (server : Server) (number : Nat) : Option User :=
  match (server.receiptsOf number).getLast? with
  | some ⟨_, _, .createUser _, _, some (.ok user), _, _⟩ => some user
  | _ => none

theorem hasCreated_of_created? {server : Server} {number : Nat} {user : User}
    (created : server.created? number = some user) : server.HasCreated number user := by
  rw [created?] at created
  split at created
  · rename_i last
    obtain rfl := Option.some.inj created
    exact ⟨_, _, _, _, _, _, List.mem_of_getLast? last⟩
  · cases created

/-- How the first login of the rider ends. -/
def firstLoginEnd (config : ServerConfig) :
    Option (Option Uuid × Option (Except LoginError (Option Uuid))) :=
  (run config (opening .empty) Sample.firstLogin).map fun server =>
    ((server.created? 1).map User.userId,
      (server.outcome? 1).map fun outcome =>
        outcome.map fun session? => session?.map fun session => session.user.userId)

theorem firstLogin_issued :
    ∃ server user, run Sample.config (opening .empty) Sample.firstLogin = some server ∧
      server.HasCreated 1 user ∧
      (server.outcome? 1).map (fun outcome =>
        outcome.map fun session? => session?.map fun session => session.user.userId) =
          some (.ok (some user.userId)) ∧
      IssuesThoseThatEnd Sample.config Sample.firstLogin server := by
  have ended : firstLoginEnd Sample.config =
      some (some (Sample.uuid 1), some (.ok (some (Sample.uuid 1)))) := by
    decide +kernel
  obtain ⟨server, ran, same⟩ := Option.map_eq_some_iff.mp ended
  obtain ⟨created, issued⟩ := Prod.mk.inj same
  obtain ⟨user, created, known⟩ := Option.map_eq_some_iff.mp created
  exact ⟨server, user, ran, hasCreated_of_created? created, known ▸ issued,
    sessions_issued_iff_they_end ran⟩

/-- With the longest lifetime that can be configured no session is issued, and the
first login breaks off after it has created the account. -/
theorem longest_sessions_fail :
    ¬Session.AlwaysIssues Sample.lastingConfig.secret Sample.lastingConfig.sessionHours ∧
      Sample.moment.IsModern ∧
      (∀ user, Session.issue? Sample.lastingConfig.secret user Sample.lastingConfig.sessionHours
        Sample.moment = none) ∧
      ∃ server user, run Sample.lastingConfig (opening .empty) Sample.firstLogin = some server ∧
        server.HasCreated 1 user ∧ server.database.HasAccount user ∧
        server.outcome? 1 = some (.ok none) := by
  refine ⟨fun always => ?_, Instant.isModern_iff.mpr (by decide), fun user => ?_, ?_⟩
  · exact absurd (Session.alwaysIssues_iff.mp always) (by decide)
  · rw [Session.issue?, SessionClaims.ofUser?, Instant.make?, dif_neg (by decide)]
    rfl
  have ended : firstLoginEnd Sample.lastingConfig =
      some (some (Sample.uuid 1), some (.ok none)) := by
    decide +kernel
  obtain ⟨server, ran, same⟩ := Option.map_eq_some_iff.mp ended
  obtain ⟨created, brokenOff⟩ := Prod.mk.inj same
  obtain ⟨user, created, -⟩ := Option.map_eq_some_iff.mp created
  obtain ⟨outcome, found, brokenOff⟩ := Option.map_eq_some_iff.mp brokenOff
  have hasCreated := hasCreated_of_created? created
  refine ⟨server, user, ran, hasCreated, hasCreated.hasAccount ran, found.trans ?_⟩
  obtain error | (_ | session) := outcome
  · cases brokenOff
  · rfl
  · cases brokenOff

end Server

end Carpool
