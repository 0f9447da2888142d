import Carpool.Proofs.Server.Visible
import Carpool.Proofs.Service.Creation
import Carpool.Proofs.Service.Login
import Carpool.Proofs.SignedTokens
import Carpool.Proofs.Store.Accounts

/-!
# One account for each verified address

However many logins race with each other and with other calls, an address has
one account: only a login whose address the provider vouches for creates it, all
logins with a spelling of the address come to it, and every spelling finds it.
-/

namespace Carpool

open Store

namespace Session

/-- A token that is issued to a user establishes that user. -/
theorem establishesUntil_of_issue {secret : Octets} {user : User} {hours : UInt32}
    {start : Instant} {token : String} (issued : issue? secret user hours start = some token) :
    EstablishesUntil secret token (identityOfUser user) (start.second + 3600 * hours.toNat) := by
  obtain ⟨claims, made, rfl⟩ := Option.map_eq_some_iff.mp issued
  obtain ⟨last, ending, rfl⟩ := Option.map_eq_some_iff.mp made
  have second : last.second = start.second + 3600 * hours.toNat := by
    rw [Instant.make?] at ending
    split at ending
    · exact congrArg Instant.second (Option.some.inj ending).symm
    · contradiction
  have fits : IsWord last.second := by
    have first := last.first_le
    have final := last.le_last
    rw [Instant.firstSecond] at first
    rw [Instant.lastSecond] at final
    rw [IsWord]
    omega
  rw [← second]
  exact establishesUntil_sign user start fits

end Session

theorem Login.of_session?_eq_some {settings : Login.Settings} {user : User} {now : Instant}
    {session : Login.Session} (started : Login.session? settings user now = some session) :
    session.user = user ∧
      Session.issue? settings.secret user settings.sessionHours now = some session.token := by
  obtain ⟨token, issued, rfl⟩ := Option.map_eq_some_iff.mp started
  exact ⟨rfl, issued⟩

/-- A row comes in by a job. -/
def Receipt.Inserts (receipt : Receipt) (row : UserRow) : Prop :=
  row ∈ receipt.after.userRows ∧ ∀ old ∈ receipt.before.userRows, old.userId ≠ row.userId

/-- What a job has inserted is the account of a new address. -/
theorem Receipt.Inserts.created {receipt : Receipt} {row : UserRow} (inserts : receipt.Inserts row)
    (effect : Effect receipt.fresh receipt.before receipt.job receipt.answer receipt.after) :
    ∃ input, receipt.job = .createUser input ∧ row.email = normalEmail input.email ∧
      row.email ∉ receipt.before.userRows.map UserRow.email := by
  obtain ⟨member, unknown⟩ := inserts
  cases effect.accountsMove with
  | same users => exact absurd rfl (unknown row (users ▸ member))
  | created input creates unused users =>
      rw [users] at member
      rcases List.mem_append.mp member with old | new
      · exact absurd rfl (unknown row old)
      · obtain rfl := List.mem_singleton.mp new
        exact ⟨input, creates, rfl, unused⟩
  | visited id expected new users =>
      rw [users] at member
      obtain ⟨old, stored, same, -⟩ := Database.mem_swapLastSeen member
      exact absurd same (unknown old stored)

namespace Api

theorem login_of_command {caller : Option Identity} {request : Request} {action : Operation}
    (commanded : command .login caller request = .ok action) :
    ∃ idToken, action = .login idToken := by
  obtain ⟨token, -, commanded⟩ := bind_eq_ok.mp commanded
  split at commanded
  · contradiction
  · exact ⟨_, (Except.ok.inj commanded).symm⟩

theorem status_of_command_login {caller : Option Identity} {request : Request} {error : ApiError}
    (refused : command .login caller request = .error error) : error.status = 400 := by
  rw [command, argument] at refused
  cases read : readBody loginForm request with
  | error flaw =>
      rw [read] at refused
      obtain rfl := Except.error.inj refused
      rfl
  | ok token =>
      rw [read] at refused
      change (if (Text.trim token).isEmpty = true then
          Except.error (.invalidArgument "id_token is required")
        else .ok (Operation.login (Text.trim token))) = .error error at refused
      split at refused
      · obtain rfl := Except.error.inj refused
        rfl
      · cases refused

theorem response_status_ne (error : ApiError) : error.response.status ≠ 200 := by
  change error.code.status ≠ 200
  cases error.code <;> decide

/-- A request to log in is turned away or cannot be read, or it is answered as
the login ends. -/
theorem login_of_responds {config : ServerConfig} {request : Request} {transcript : List Exchange}
    {response? : Option Response}
    (responds : Responds config .login request transcript response?) :
    (∃ response, response? = some response ∧ response.status ∈ [400, 401, 405]) ∨
      ∃ gate caller idToken outcome later, transcript = gate ++ later ∧
        Enters config request gate caller ∧
        response? = respond (present (.login idToken) outcome) ∧
        Login.Ends config.loginSettings idToken later outcome := by
  cases responds with
  | @turnedAway now error gated turned =>
      refine .inl ⟨_, rfl, ?_⟩
      rw [turnAway]
      split
      · exact List.mem_cons_of_mem _ List.mem_cons_self
      · rw [withoutBodyForHead]
        split <;> exact List.mem_cons_of_mem _ List.mem_cons_self
  | notPost other enters =>
      refine .inl ⟨_, rfl, ?_⟩
      rw [withoutBodyForHead]
      split <;> exact List.mem_of_getLast? rfl
  | unread post enters refused =>
      exact .inl ⟨_, rfl, List.mem_cons.mpr (.inl (status_of_command_login refused))⟩
  | @served gate later caller action post enters commanded reply ended =>
      obtain ⟨idToken, rfl⟩ := login_of_command commanded
      exact .inr ⟨gate, caller, idToken, reply, later, rfl, enters, rfl, Login.ends_of_leads ended⟩

/-- Only a login that has ended with a session is answered with success. -/
theorem ended_of_login {config : ServerConfig} {request : Request} {transcript : List Exchange}
    {response : Response} (responds : Responds config .login request transcript (some response))
    (succeeds : response.status = 200) :
    ∃ gate caller idToken session later, transcript = gate ++ later ∧
      Enters config request gate caller ∧ response = .json 200 (loginReply session).print ∧
      Login.Ends config.loginSettings idToken later (.ok (some session)) := by
  obtain ⟨_, same, failed⟩ | ⟨gate, caller, idToken, outcome, later, came, enters, shown, ends⟩ :=
    login_of_responds responds
  · obtain rfl := Option.some.inj same
    rw [succeeds] at failed
    exact absurd failed (by decide)
  · match outcome with
    | .error error =>
        obtain rfl := Option.some.inj shown
        exact absurd succeeds (response_status_ne _)
    | .ok none => cases shown
    | .ok (some session) =>
        obtain rfl := Option.some.inj shown
        exact ⟨gate, caller, idToken, session, later, came, enters, rfl, ends⟩

end Api

namespace Server

/-! ## What logins come to -/

variable {config : ServerConfig} {events : List Event} {number : Nat} {server : Server}

/-- The identity provider has told a call what passes the policy. -/
def Vouched (config : ServerConfig) (events : List Event) (number : Nat) (info : TokenInfo) :
    Prop :=
  ∃ reply, .report number reply ∈ events ∧
    Login.Vouches config.loginSettings.policy reply info

/-- An errand has come to logging in with a token of the provider. -/
def LogsIn (config : ServerConfig) (errand : Errand) (idToken : String) : Prop :=
  ∃ gate, Performs config errand gate (.login idToken)

/-- A session is for the stored account of an address that was vouched for. -/
structure SignedIn (config : ServerConfig) (events : List Event) (server : Server) (number : Nat)
    (info : TokenInfo) (session : Login.Session) : Prop where
  vouched : Vouched config events number info
  address : session.user.email = normalEmail info.email
  stored : server.database.HasAccount session.user
  token : ∃ now, .tell number now ∈ events ∧
    Session.EstablishesUntil config.secret session.token (Session.identityOfUser session.user)
      (now.second + 3600 * config.sessionHours.toNat)

/-- There is one account for each verified address. -/
structure OneAccountEach (config : ServerConfig) (events : List Event) (server : Server) :
    Prop where
  /-- A service creates an account only where there is none for the address, and
  only for a login with an address that was vouched for. -/
  inserted : ∀ receipt ∈ server.receipts, IsService receipt.errand →
    ∀ row, receipt.Inserts row →
      (∀ old ∈ receipt.before.userRows, normalEmail old.email ≠ normalEmail row.email) ∧
        ∃ idToken info, LogsIn config receipt.errand idToken ∧
          Vouched config events receipt.number info ∧ row.email = normalEmail info.email
  distinct : (server.database.userRows.map fun row => normalEmail row.email).Nodup
  operation : ∀ {number : Nat} {idToken : String} {session : Login.Session},
    server.slots number = some ⟨.operation (.login idToken), .going (.done (.ok (some session)))⟩ →
    ∃ info, SignedIn config events server number info session
  request : ∀ {number : Nat} {message : Api.Request} {response : Api.Response},
    server.slots number = some ⟨.request message, .going (.done (some response))⟩ →
    Method.ofPath? message.path = some .login → response.status = 200 →
    ∃ info session, response = .json 200 (Api.loginReply session).print ∧
      SignedIn config events server number info session
  /-- Spellings of one address come to one account. -/
  shared : ∀ {number other : Nat} {info otherInfo : TokenInfo}
    {session otherSession : Login.Session},
    SignedIn config events server number info session →
    SignedIn config events server other otherInfo otherSession →
    normalEmail info.email = normalEmail otherInfo.email →
    session.user.userId = otherSession.user.userId
  /-- A text finds an account if and only if it is a spelling of the address with
  which the account was created. -/
  found : ∀ {number : Nat} {errand : Errand} {input : NewUser} {fresh : Fresh} {user : User}
    {before after : Database},
    ⟨number, errand, .createUser input, fresh, some (.ok user), before, after⟩ ∈
      server.receipts →
    ∀ email given patience, ∃ answer,
      (Job.findUserByEmail email).runWhile given patience server.database =
          (some (.ok answer), server.database) ∧
        ((∃ seen, answer = some { user with lastSeen := seen }) ↔
          normalEmail email = normalEmail input.email)

/-! ## Where accounts come from -/

theorem keepsAddresses (ran : run config (opening .empty) events = some server) :
    (∀ receipt ∈ server.receipts, receipt.before.KeepsAddresses) ∧
      server.database.KeepsAddresses :=
  kept_throughout (fun effect => effect.keepsAddresses) ran .empty

/-- An operation that creates an account is a login that has been vouched for. -/
theorem vouched_of_createUser {errand : Errand} {own : List Receipt}
    {gate transcript : List Exchange} {action : Operation} {input : NewUser}
    {next : Except StoreError User → Call action.Reply}
    (performs : Performs config errand gate action)
    (leads : (action.call config.setup).Leads transcript (.ask (.store (.createUser input)) next))
    (recorded : Recorded events number own transcript) :
    ∃ idToken info, LogsIn config errand idToken ∧ Vouched config events number info ∧
      input = Login.newcomer info := by
  obtain ⟨idToken, rfl⟩ := Operation.mayAsk_of_leads leads
  cases Login.asks_of_leads leads with
  | create vouches =>
      obtain ⟨reported, -⟩ := recorded.of_introspect
      exact ⟨idToken, _, ⟨gate, performs⟩, ⟨_, reported, vouches⟩, rfl⟩

theorem inserted_by_login (ran : run config (opening .empty) events = some server)
    {receipt : Receipt} (member : receipt ∈ server.receipts) (service : IsService receipt.errand)
    {row : UserRow} (inserts : receipt.Inserts row) :
    (∀ old ∈ receipt.before.userRows, normalEmail old.email ≠ normalEmail row.email) ∧
      ∃ idToken info, LogsIn config receipt.errand idToken ∧
        Vouched config events receipt.number info ∧ row.email = normalEmail info.email := by
  obtain ⟨input, creates, address, unused⟩ := inserts.created (effect_of_receipts ran member)
  constructor
  · intro old stored same
    have normal := ((keepsAddresses ran).1 receipt member).normal old stored
    rw [normal, address, normalEmail_normalEmail, ← address] at same
    exact unused (same ▸ List.mem_map_of_mem stored)
  · obtain ⟨earlier, later, split⟩ := List.append_of_mem member
    obtain ⟨number, errand, job, fresh, answer, before, after⟩ := receipt
    obtain rfl : job = _ := creates
    obtain ⟨action, gate, transcript, next, performs, leads, recorded⟩ :=
      performs_of_receipts ran split service
    obtain ⟨idToken, info, logsIn, vouched, rfl⟩ := vouched_of_createUser performs leads recorded
    exact ⟨idToken, info, logsIn, vouched, address.trans (normalEmail_lower info.email)⟩

/-- An account that was found is stored from then on. -/
theorem hasAccount_of_found (ran : run config (opening .empty) events = some server)
    {caller : Nat} {errand : Errand} {fresh : Fresh} {email : String} {user : User}
    {before after : Database}
    (member : ⟨caller, errand, .findUserByEmail email, fresh, some (.ok (some user)), before,
      after⟩ ∈ server.receipts) :
    server.database.HasAccount user ∧ user.email = normalEmail email := by
  obtain ⟨patience, carried⟩ := (carriedOut ran).ran _ member
  obtain ⟨read, same⟩ := Job.of_read rfl carried
  have formed := ((keepsAddresses ran).1 _ member).formed
  obtain ⟨has, address⟩ := formed.of_findUserByEmail read.symm
  obtain ⟨earlier, later, split⟩ := List.append_of_mem member
  refine ⟨?_, address⟩
  exact (kept_since (fun effect => effect.hasAccount) ran split (same.symm ▸ has)).2

/-- An account that was created is stored from then on. -/
theorem hasAccount_of_created (ran : run config (opening .empty) events = some server)
    {caller : Nat} {errand : Errand} {fresh : Fresh} {input : NewUser} {user : User}
    {before after : Database}
    (member : ⟨caller, errand, .createUser input, fresh, some (.ok user), before, after⟩ ∈
      server.receipts) :
    server.database.HasAccount user ∧ user.email = normalEmail input.email := by
  obtain ⟨patience, carried⟩ : ∃ patience,
      (Job.createUser input).runWhile fresh patience before = (some (.ok user), after) :=
    (carriedOut ran).ran _ member
  obtain ⟨earlier, later, split⟩ := List.append_of_mem member
  obtain unwritten | ⟨answered, inserted⟩ := Job.of_createUser carried
  · cases unwritten
  · have made : user = fresh.user input := Except.ok.inj (Option.some.inj answered)
    subst made
    obtain ⟨-, -, rfl⟩ := Database.insertUser_eq_ok.mp inserted
    refine ⟨(kept_since (fun effect => effect.hasAccount) ran split ?_).2, rfl⟩
    exact ⟨_, List.mem_append_right _ (List.mem_singleton.mpr rfl)⟩

/-! ## Sessions -/

theorem signedIn_of_found (ran : run config (opening .empty) events = some server)
    {reply : ProviderReply} {info : TokenInfo} {user : User} {now : Instant}
    {session : Login.Session} (reported : .report number reply ∈ events)
    (vouches : Login.Vouches config.loginSettings.policy reply info)
    (sought : Recorded events number (server.receiptsOf number)
      [.store (.findUserByEmail (Text.lower info.email)) (.ok (some user)), .clock now])
    (started : Login.session? config.loginSettings user now = some session) :
    SignedIn config events server number info session := by
  obtain ⟨rfl, issued⟩ := Login.of_session?_eq_some started
  obtain ⟨caller, errand, fresh, before, after, rest, own, timed⟩ := sought.of_store
  obtain ⟨stored, address⟩ := hasAccount_of_found ran (mem_receipts_of_own own)
  exact ⟨⟨reply, reported, vouches⟩, address.trans (normalEmail_lower info.email), stored, now,
    timed.of_clock.1, Session.establishesUntil_of_issue issued⟩

theorem signedIn_of_created (ran : run config (opening .empty) events = some server)
    {reply : ProviderReply} {info : TokenInfo} {user : User} {now : Instant}
    {session : Login.Session} (reported : .report number reply ∈ events)
    (vouches : Login.Vouches config.loginSettings.policy reply info)
    (sought : Recorded events number (server.receiptsOf number)
      [.store (.findUserByEmail (Text.lower info.email)) (.ok none),
        .store (.createUser (Login.newcomer info)) (.ok user), .clock now])
    (started : Login.session? config.loginSettings user now = some session) :
    SignedIn config events server number info session := by
  obtain ⟨rfl, issued⟩ := Login.of_session?_eq_some started
  obtain ⟨_, _, _, _, _, rest, own, missed⟩ := sought.of_store
  obtain ⟨caller, errand, fresh, before, after, last, rfl, timed⟩ := missed.of_store
  have member : _ ∈ server.receiptsOf number :=
    own ▸ List.mem_cons_of_mem _ List.mem_cons_self
  obtain ⟨stored, address⟩ := hasAccount_of_created ran (List.mem_filter.mp member).1
  exact ⟨⟨reply, reported, vouches⟩, address.trans (normalEmail_lower info.email), stored, now,
    timed.of_clock.1, Session.establishesUntil_of_issue issued⟩

theorem signedIn_of_ends (ran : run config (opening .empty) events = some server)
    {idToken : String} {transcript : List Exchange} {session : Login.Session}
    (ends : Login.Ends config.loginSettings idToken transcript (.ok (some session)))
    (recorded : Recorded events number (server.receiptsOf number) transcript) :
    ∃ info, SignedIn config events server number info session := by
  generalize same : Except.ok (some session) = outcome at ends
  cases ends with
  | unread unread => cases same
  | refused read refused => cases same
  | unsought vouches error => cases same
  | uncreated vouches error => cases same
  | returning vouches user now =>
      obtain ⟨reported, sought⟩ := recorded.of_introspect
      exact ⟨_, signedIn_of_found ran reported vouches sought (Except.ok.inj same).symm⟩
  | created vouches user now =>
      obtain ⟨reported, sought⟩ := recorded.of_introspect
      exact ⟨_, signedIn_of_created ran reported vouches sought (Except.ok.inj same).symm⟩

theorem findUserByEmail_of_created (ran : run config (opening .empty) events = some server)
    {caller : Nat} {errand : Errand} {fresh : Fresh} {input : NewUser} {user : User}
    {before after : Database}
    (member : ⟨caller, errand, .createUser input, fresh, some (.ok user), before, after⟩ ∈
      server.receipts) (email : String) (given : Fresh) (patience : Patience) :
    ∃ answer,
      (Job.findUserByEmail email).runWhile given patience server.database =
          (some (.ok answer), server.database) ∧
        ((∃ seen, answer = some { user with lastSeen := seen }) ↔
          normalEmail email = normalEmail input.email) := by
  obtain ⟨stored, address⟩ := hasAccount_of_created ran member
  obtain ⟨found, looked, same⟩ := (keepsAddresses ran).2.findUserByEmail stored email
  refine ⟨found, (Job.runWhile_read rfl).trans ?_, ?_⟩
  · exact congrArg (fun answer => (some answer, server.database)) looked
  · refine same.trans ?_
    rw [address, normalEmail_normalEmail]

/-- In every run from the empty store there is one account for each verified
address. -/
theorem one_account_each (ran : run config (opening .empty) events = some server) :
    OneAccountEach config events server where
  inserted receipt member service row inserts := inserted_by_login ran member service inserts
  distinct := (keepsAddresses ran).2.distinct
  operation {number idToken session} going := by
    obtain ⟨transcript, leads, recorded⟩ := leads_of_going ran going
    exact signedIn_of_ends ran (Login.ends_of_leads leads) recorded
  request {number message response} going named succeeds := by
    obtain ⟨transcript, leads, recorded⟩ := leads_of_going ran going
    obtain ⟨gate, caller, idToken, session, later, rfl, enters, shown, ends⟩ :=
      Api.ended_of_login (Api.responds_of_answer named leads) succeeds
    obtain ⟨info, signedIn⟩ := signedIn_of_ends ran ends (recorded.of_enters enters)
    exact ⟨info, session, shown, signedIn⟩
  shared {number other info otherInfo session otherSession} signedIn otherSignedIn same := by
    refine signedIn.stored.userId_eq otherSignedIn.stored (keepsAddresses ran).2.formed ?_
    rw [signedIn.address, otherSignedIn.address, same]
  found := findUserByEmail_of_created ran

end Server

namespace Sample

/-- The rider logs in twice, and the provider spells the address differently.
The first login creates the account; the second, which looks for it after that,
finds it. -/
def returned : List Server.Event :=
  [.arrive 1 (.operation (.login "first")), .arrive 2 (.operation (.login "second")),
    .report 2 (verified "RIDER@Example"), .report 1 (verified "Rider@EXAMPLE")] ++
    serve 1 0 0 2 ++ serve 1 1 0 4 ++ serve 2 0 0 2 ++ [.tell 2 moment, .tell 1 moment]

end Sample

namespace Server

/-- How a login has ended. -/
def outcome? (server : Server) (number : Nat) :
    Option (Except LoginError (Option Login.Session)) :=
  match server.slots number with
  | some ⟨.operation (.login _), .going (.done outcome)⟩ => some outcome
  | _ => none

theorem returned_one_account_each :
    ∃ server, run Sample.config (opening .empty) Sample.returned = some server ∧
      ([1, 2].map fun number => (server.outcome? number).map fun outcome =>
        outcome.map fun session? => session?.map fun session =>
          (session.user.userId, session.user.email)) =
            [some (.ok (some (Sample.uuid 1, "rider@example"))),
              some (.ok (some (Sample.uuid 1, "rider@example")))] ∧
      OneAccountEach Sample.config Sample.returned server := by
  have logged : ((run Sample.config (opening .empty) Sample.returned).map fun server =>
      [1, 2].map fun number => (server.outcome? number).map fun outcome =>
        outcome.map fun session? => session?.map fun session =>
          (session.user.userId, session.user.email)) =
            some [some (.ok (some (Sample.uuid 1, "rider@example"))),
              some (.ok (some (Sample.uuid 1, "rider@example")))] := by
    decide +kernel
  obtain ⟨server, ran, found⟩ := Option.map_eq_some_iff.mp logged
  exact ⟨server, ran, found, one_account_each ran⟩

end Server

end Carpool
