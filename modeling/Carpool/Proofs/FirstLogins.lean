import Carpool.Proofs.Accounts
import Carpool.Proofs.Alone

/-!
# First logins that race

A login looks for the account in one job and creates it in another.  If somebody
else registers the address between the two, the creation is refused, and the
login fails although it would have succeeded alone.  All other logins that the
identity provider vouches for end with the session that they get alone.
-/

namespace Carpool

open Store

namespace Login

/-- A login that runs alone on some contents comes to an outcome and leaves
other contents behind, when the identity provider gives a reply. -/
def RunsAlone (settings : Settings) (idToken : String) (reply : ProviderReply)
    (before : Database) (outcome : Except LoginError (Option Session)) (after : Database) : Prop :=
  ∃ given : List Given, (∀ each ∈ given, each.reply = reply) ∧
    (login settings idToken : Call (Except LoginError (Option Session))).alone given before =
      some (outcome, after)

variable {settings : Settings} {idToken : String} {reply : ProviderReply} {info : TokenInfo}
  {before after : Database}

theorem alone_of_vouches (vouches : Vouches settings.policy reply info) {given : Given}
    {rest : List Given} (replied : given.reply = reply) :
    (login settings idToken : Call (Except LoginError (Option Session))).alone (given :: rest)
      before =
      Call.alone (Attempt.go LoginError.store (.findUserByEmail (Text.lower info.email))
        fun found =>
          match found with
          | some user => conclude settings user
          | none => Attempt.go LoginError.store (.createUser (newcomer info)) (conclude settings))
        rest before := by
  rw [login_shape, Call.alone, replied, vouches.read]
  dsimp only
  split
  · rename_i error refused
    cases vouches.admitted.symm.trans refused
  · rfl

theorem conclude_alone (user : User) (given : Given) :
    (conclude settings user).alone [given] before =
      some (.ok (session? settings user given.fresh.now), before) := rfl

/-- Where there is an account for the address, the login is to that account. -/
theorem runsAlone_of_found (vouches : Vouches settings.policy reply info) {user : User}
    (found : (before.findUserByEmail? (normalEmail info.email)).mapM UserRow.decode =
      .ok (some user)) (now : Instant) :
    RunsAlone settings idToken reply before (.ok (session? settings user now)) before := by
  let given : Given := ⟨⟨user.userId, user.userId, now⟩, none, reply⟩
  refine ⟨[given, given, given], by simp [given], ?_⟩
  have sought : (Job.findUserByEmail (Text.lower info.email)).runWhile given.fresh given.patience
      before = (some (.ok (some user)), before) := by
    refine (Job.runWhile_read rfl).trans ?_
    rw [normalEmail_lower, found]
    rfl
  rw [alone_of_vouches vouches rfl, Attempt.go_alone_ok sought]
  exact conclude_alone user given

/-- Where there is none, an account is created. -/
theorem runsAlone_of_created (vouches : Vouches settings.policy reply info) {user : User}
    (unknown : ¬before.HasAddress (normalEmail info.email)) {fresh : Fresh} {patience : Patience}
    (created : (Job.createUser (newcomer info)).runWhile fresh patience before =
      (some (.ok user), after)) (now : Instant) :
    RunsAlone settings idToken reply before (.ok (session? settings user now)) after := by
  let given : Given := ⟨fresh, patience, reply⟩
  refine ⟨[given, given, given, { given with fresh.now := now }], by simp [given], ?_⟩
  have missed : (Job.findUserByEmail (Text.lower info.email)).runWhile given.fresh given.patience
      before = (some (.ok none), before) := by
    refine (Job.runWhile_read rfl).trans ?_
    rw [normalEmail_lower, Database.findUserByEmail?_eq_none.mpr unknown]
    rfl
  rw [alone_of_vouches vouches rfl, Attempt.go_alone_ok missed]
  exact (Attempt.go_alone_ok created).trans (conclude_alone user _)

end Login

/-- By a job an address comes to have an account. -/
def Receipt.Registers (receipt : Receipt) (email : String) : Prop :=
  ¬receipt.before.HasAddress email ∧ receipt.after.HasAddress email

namespace Server

variable {config : ServerConfig} {events : List Event} {server : Server} {number : Nat}
  {reply : ProviderReply} {info : TokenInfo}

/-- Between the lookup of a login and its attempt to create the account, somebody
registers the address. -/
def Overtaken (server : Server) (number : Nat) (info : TokenInfo) : Prop :=
  ∃ earlier lookUp between creation later,
    server.receipts = earlier ++ lookUp :: (between ++ creation :: later) ∧
      lookUp.number = number ∧ lookUp.job = .findUserByEmail (Text.lower info.email) ∧
      creation.number = number ∧ creation.job = .createUser (Login.newcomer info) ∧
      ∃ winner ∈ between, winner.Registers (normalEmail info.email)

/-- Nothing goes wrong of itself with a login: the identity provider vouches for
the address, the session has an end, and new accounts get new identifiers. -/
structure Smooth (config : ServerConfig) (events : List Event) (server : Server) (number : Nat) :
    Prop where
  vouched : ∀ reply, .report number reply ∈ events →
    ∃ info, Login.Vouches config.loginSettings.policy reply info
  timely : ∀ now, .tell number now ∈ events → config.loginSettings.CanEnd now
  unused : ∀ receipt ∈ server.receiptsOf number,
    receipt.job.DrawsUnused receipt.fresh receipt.before

def takenAddress : LoginError := .store (.violation (.unique (.user .email)))

/-- What becomes of a login for an address that was vouched for. -/
structure Concludes (config : ServerConfig) (events : List Event) (server : Server) (number : Nat)
    (idToken : String) (reply : ProviderReply) (info : TokenInfo)
    (outcome : Except LoginError (Option Login.Session)) : Prop where
  /-- Nobody has come first: the login ends as if it had run alone at the moment
  of its last job. -/
  admitted : ¬server.Overtaken number info →
    ∃ session, outcome = .ok (some session) ∧
      SignedIn config events server number info session ∧
      ∃ last ∈ server.receiptsOf number,
        Login.RunsAlone config.loginSettings idToken reply last.before (.ok (some session))
          last.after
  /-- Somebody has come first: the login fails for the address, though alone it
  would have ended with a session at the moment of its last job. -/
  refused : server.Overtaken number info →
    outcome = .error takenAddress ∧
      ∃ last ∈ server.receiptsOf number, ∀ now, config.loginSettings.CanEnd now →
        ∃ session, last.before.HasAccount session.user ∧
          session.user.email = normalEmail info.email ∧
          Login.RunsAlone config.loginSettings idToken reply last.before (.ok (some session))
            last.before

/-- Logins for which nothing else goes wrong fail just where they are overtaken. -/
structure FailsIfOvertaken (config : ServerConfig) (events : List Event) (server : Server) :
    Prop where
  operation : ∀ {number : Nat} {idToken : String}
    {outcome : Except LoginError (Option Login.Session)},
    server.slots number = some ⟨.operation (.login idToken), .going (.done outcome)⟩ →
    Smooth config events server number →
    ∃ reply info, .report number reply ∈ events ∧
      Login.Vouches config.loginSettings.policy reply info ∧
      Concludes config events server number idToken reply info outcome
  /-- So do the requests that come to logging in, the others being turned away or
  refused as they are read.  All of them are answered. -/
  request : ∀ {number : Nat} {message : Api.Request} {response? : Option Api.Response},
    server.slots number = some ⟨.request message, .going (.done response?)⟩ →
    Method.ofPath? message.path = some .login → Smooth config events server number →
    ∃ response, response? = some response ∧
      (response.status ∈ [400, 401, 405] ∨
        ∃ idToken reply info outcome, .report number reply ∈ events ∧
          Login.Vouches config.loginSettings.policy reply info ∧
          Concludes config events server number idToken reply info outcome ∧
          some response = Api.respond (Api.present (.login idToken) outcome) ∧
          (server.Overtaken number info → response = ApiError.internal.response))

/-- All logins for which nothing else goes wrong end with a session. -/
def LoginsSucceed (config : ServerConfig) (events : List Event) (server : Server) : Prop :=
  ∀ {number : Nat} {idToken : String} {outcome : Except LoginError (Option Login.Session)},
    server.slots number = some ⟨.operation (.login idToken), .going (.done outcome)⟩ →
    Smooth config events server number → ∃ session, outcome = .ok (some session)

/-! ## The jobs of a login -/

theorem split_of_own {first second : Receipt} {rest : List Receipt}
    (own : server.receiptsOf number = first :: second :: rest) :
    ∃ earlier between later,
      server.receipts = earlier ++ first :: (between ++ second :: later) := by
  obtain ⟨earlier, following, split, -, -, own⟩ := List.filter_eq_cons_iff.mp own
  obtain ⟨between, later, rfl, -, -, -⟩ := List.filter_eq_cons_iff.mp own
  exact ⟨earlier, between, later, split⟩

section Jobs

variable {caller : Nat} {errand : Errand} {fresh : Fresh} {before after : Database}

/-- A login that has found the account was not overtaken. -/
theorem not_overtaken_of_found {lookUp : Receipt}
    (sought : lookUp.job = .findUserByEmail (Text.lower info.email))
    (own : server.receiptsOf number = [lookUp]) : ¬server.Overtaken number info := by
  rintro ⟨_, _, _, creation, _, split, -, -, numbered, creates, -⟩
  have listed : creation ∈ server.receiptsOf number :=
    mem_receiptsOf_iff.mpr ⟨by simp [split], numbered⟩
  rw [own] at listed
  obtain rfl := List.mem_singleton.mp listed
  rw [sought] at creates
  cases creates

/-- A login that has created the account was not overtaken. -/
theorem not_overtaken_of_created (ran : run config (opening .empty) events = some server)
    {lookUp : Receipt} {user : User}
    (sought : lookUp.job = .findUserByEmail (Text.lower info.email))
    (own : server.receiptsOf number = [lookUp,
      ⟨caller, errand, .createUser (Login.newcomer info), fresh, some (.ok user), before, after⟩]) :
    ¬server.Overtaken number info := by
  rintro ⟨earlier, other, between, creation, later, split, -, -, numbered, creates, winner,
    member, -, registered⟩
  have made : creation ∈ server.receipts := by simp [split]
  have listed := mem_receiptsOf_iff.mpr ⟨made, numbered⟩
  rw [own] at listed
  obtain rfl | listed := List.mem_cons.mp listed
  · rw [sought] at creates
    cases creates
  obtain rfl := List.mem_singleton.mp listed
  obtain ⟨first, rest, rfl⟩ := List.append_of_mem member
  have parted : server.receipts = (earlier ++ other :: first) ++ winner :: (rest ++
      ⟨caller, errand, .createUser (Login.newcomer info), fresh, some (.ok user), before, after⟩ ::
        later) := by
    simpa using split
  have taken : before.HasAddress (normalEmail info.email) :=
    (kept_since (fun effect => effect.hasAddress) ran parted registered).1 _
      (List.mem_append_right _ List.mem_cons_self)
  obtain ⟨patience, carried⟩ : ∃ patience, (Job.createUser (Login.newcomer info)).runWhile fresh
      patience before = (some (.ok user), after) :=
    (carriedOut ran).ran _ made
  obtain unwritten | ⟨-, inserted⟩ := Job.of_createUser carried
  · cases unwritten
  · obtain ⟨-, unused, -⟩ := Database.insertUser_eq_ok.mp inserted
    rw [← normalEmail_lower] at taken
    exact unused taken

/-- A login whose attempt to create the account has failed was overtaken. -/
theorem overtaken_of_uncreated (ran : run config (opening .empty) events = some server)
    (unused : ∀ receipt ∈ server.receiptsOf number,
      receipt.job.DrawsUnused receipt.fresh receipt.before)
    {seeker : Nat} {seeking : Errand} {given : Fresh} {found left : Database} {error : StoreError}
    (own : server.receiptsOf number =
      [⟨seeker, seeking, .findUserByEmail (Text.lower info.email), given, some (.ok none), found,
        left⟩,
      ⟨caller, errand, .createUser (Login.newcomer info), fresh, some (.error error), before,
        after⟩]) :
    error = .violation (.unique (.user .email)) ∧
      before.HasAddress (normalEmail info.email) ∧ server.Overtaken number info := by
  obtain ⟨sought, numbered⟩ := mem_receiptsOf_iff.mp (own ▸ List.mem_cons_self)
  obtain ⟨made, numberedOn⟩ :=
    mem_receiptsOf_iff.mp (own ▸ List.mem_cons_of_mem _ List.mem_cons_self)
  obtain ⟨_, looked⟩ : ∃ patience, (Job.findUserByEmail (Text.lower info.email)).runWhile given
      patience found = (some (.ok none), left) := (carriedOut ran).ran _ sought
  obtain ⟨missed, rfl⟩ := Job.of_read rfl looked
  have unknown : ¬left.HasAddress (normalEmail info.email) := by
    rw [← normalEmail_lower]
    exact Database.findUserByEmail?_eq_none.mp (mapM_eq_ok_none.mp missed.symm)
  obtain ⟨_, carried⟩ := (carriedOut ran).ran _ made
  have new : before.Unused fresh.first :=
    unused _ (own ▸ List.mem_cons_of_mem _ List.mem_cons_self) _ List.mem_cons_self
  obtain ⟨rfl, taken⟩ := Job.createUser_eq_error new carried
  have taken : before.HasAddress (normalEmail info.email) := by
    rw [← normalEmail_lower]
    exact taken
  obtain ⟨earlier, between, later, split⟩ := split_of_own own
  have chained := (Chained.split (split ▸ (carriedOut ran).chained)).2.split.1
  obtain ⟨_, winner, _, rfl, turn⟩ :=
    chained.exists_turn (motive := fun database => database.HasAddress (normalEmail info.email))
      unknown taken
  exact ⟨rfl, taken, earlier, _, _, _, later, split, numbered, rfl, numberedOn, rfl, winner,
    by simp, turn⟩

end Jobs

/-! ## How logins end -/

variable {idToken : String}

theorem concludes_of_found (ran : run config (opening .empty) events = some server)
    (smooth : Smooth config events server number) (reported : .report number reply ∈ events)
    (vouches : Login.Vouches config.loginSettings.policy reply info) {user : User} {now : Instant}
    (sought : Recorded events number (server.receiptsOf number)
      [.store (.findUserByEmail (Text.lower info.email)) (.ok (some user)), .clock now]) :
    Concludes config events server number idToken reply info
      (.ok (Login.session? config.loginSettings user now)) := by
  obtain ⟨_, _, _, before, after, rest, own, timed⟩ := sought.of_store
  obtain ⟨told, ended⟩ := timed.of_clock
  obtain rfl := ended.own_eq_nil
  obtain ⟨session, started, -⟩ := (smooth.timely now told).exists_session user
  refine ⟨fun _ => ⟨session, congrArg Except.ok started,
    signedIn_of_found ran reported vouches sought started, _, own ▸ List.mem_cons_self, ?_⟩,
    fun overtaken => absurd overtaken (not_overtaken_of_found rfl own)⟩
  obtain ⟨_, looked⟩ : ∃ patience, (Job.findUserByEmail (Text.lower info.email)).runWhile _
      patience before = (some (.ok (some user)), after) :=
    (carriedOut ran).ran _ (mem_receipts_of_own own)
  obtain ⟨found, rfl⟩ := Job.of_read rfl looked
  rw [normalEmail_lower] at found
  exact started ▸ Login.runsAlone_of_found vouches found.symm now

theorem concludes_of_created (ran : run config (opening .empty) events = some server)
    (smooth : Smooth config events server number) (reported : .report number reply ∈ events)
    (vouches : Login.Vouches config.loginSettings.policy reply info) {user : User} {now : Instant}
    (sought : Recorded events number (server.receiptsOf number)
      [.store (.findUserByEmail (Text.lower info.email)) (.ok none),
        .store (.createUser (Login.newcomer info)) (.ok user), .clock now]) :
    Concludes config events server number idToken reply info
      (.ok (Login.session? config.loginSettings user now)) := by
  obtain ⟨_, _, _, _, _, _, own, missed⟩ := sought.of_store
  obtain ⟨_, _, fresh, before, after, rest, rfl, timed⟩ := missed.of_store
  obtain ⟨told, ended⟩ := timed.of_clock
  obtain rfl := ended.own_eq_nil
  obtain ⟨session, started, -⟩ := (smooth.timely now told).exists_session user
  refine ⟨fun _ => ⟨session, congrArg Except.ok started,
    signedIn_of_created ran reported vouches sought started,
    _, own ▸ List.mem_cons_of_mem _ List.mem_cons_self, ?_⟩,
    fun overtaken => absurd overtaken (not_overtaken_of_created ran rfl own)⟩
  have made := (mem_receiptsOf_iff.mp (own ▸ List.mem_cons_of_mem _ List.mem_cons_self)).1
  obtain ⟨_, carried⟩ : ∃ patience, (Job.createUser (Login.newcomer info)).runWhile fresh
      patience before = (some (.ok user), after) := (carriedOut ran).ran _ made
  have unknown : ¬before.HasAddress (normalEmail info.email) := by
    obtain unwritten | ⟨-, inserted⟩ := Job.of_createUser carried
    · cases unwritten
    · rw [← normalEmail_lower]
      exact (Database.insertUser_eq_ok.mp inserted).2.1
  exact started ▸ Login.runsAlone_of_created vouches unknown carried now

theorem concludes_of_uncreated (ran : run config (opening .empty) events = some server)
    (smooth : Smooth config events server number)
    (vouches : Login.Vouches config.loginSettings.policy reply info) {error : StoreError}
    (sought : Recorded events number (server.receiptsOf number)
      [.store (.findUserByEmail (Text.lower info.email)) (.ok none),
        .store (.createUser (Login.newcomer info)) (.error error)]) :
    Concludes config events server number idToken reply info (.error (.store error)) := by
  obtain ⟨_, _, _, _, _, _, own, missed⟩ := sought.of_store
  obtain ⟨_, _, fresh, before, after, rest, rfl, ended⟩ := missed.of_store
  obtain rfl := ended.own_eq_nil
  obtain ⟨rfl, taken, overtaken⟩ := overtaken_of_uncreated ran smooth.unused own
  refine ⟨fun first => absurd overtaken first,
    fun _ => ⟨rfl, _, own ▸ List.mem_cons_of_mem _ List.mem_cons_self, fun now ends => ?_⟩⟩
  have made := (mem_receiptsOf_iff.mp (own ▸ List.mem_cons_of_mem _ List.mem_cons_self)).1
  have formed := ((keepsAddresses ran).1 _ made).formed
  obtain ⟨found, looked, known⟩ := formed.exists_found (normalEmail info.email)
  obtain ⟨user, rfl⟩ := Option.ne_none_iff_exists'.mp fun none => known.mp none taken
  obtain ⟨session, started, rfl⟩ := ends.exists_session user
  obtain ⟨stored, address⟩ := formed.of_findUserByEmail looked
  exact ⟨session, stored, address, started ▸ Login.runsAlone_of_found vouches looked now⟩

theorem concludes_of_ends (ran : run config (opening .empty) events = some server)
    (smooth : Smooth config events server number) {transcript : List Exchange}
    {outcome : Except LoginError (Option Login.Session)}
    (ends : Login.Ends config.loginSettings idToken transcript outcome)
    (recorded : Recorded events number (server.receiptsOf number) transcript) :
    ∃ reply info, .report number reply ∈ events ∧
      Login.Vouches config.loginSettings.policy reply info ∧
      Concludes config events server number idToken reply info outcome := by
  cases ends with
  | unread unread =>
      obtain ⟨info, vouches⟩ := smooth.vouched _ recorded.of_introspect.1
      cases unread.symm.trans vouches.read
  | refused read refused =>
      obtain ⟨info, vouches⟩ := smooth.vouched _ recorded.of_introspect.1
      obtain rfl := Except.ok.inj (read.symm.trans vouches.read)
      cases refused.symm.trans vouches.admitted
  | @unsought reply info vouches error =>
      obtain ⟨_, _, _, before, after, _, own, -⟩ := recorded.of_introspect.2.of_store
      have member := mem_receipts_of_own own
      obtain ⟨_, looked⟩ : ∃ patience, (Job.findUserByEmail (Text.lower info.email)).runWhile _
          patience before = (some (.error error), after) := (carriedOut ran).ran _ member
      obtain ⟨found, answers, -⟩ :=
        ((keepsAddresses ran).1 _ member).formed.exists_found (normalEmail (Text.lower info.email))
      cases (Job.of_read rfl looked).1.trans answers
  | returning vouches user now =>
      obtain ⟨reported, sought⟩ := recorded.of_introspect
      exact ⟨_, _, reported, vouches, concludes_of_found ran smooth reported vouches sought⟩
  | uncreated vouches error =>
      obtain ⟨reported, sought⟩ := recorded.of_introspect
      exact ⟨_, _, reported, vouches, concludes_of_uncreated ran smooth vouches sought⟩
  | created vouches user now =>
      obtain ⟨reported, sought⟩ := recorded.of_introspect
      exact ⟨_, _, reported, vouches, concludes_of_created ran smooth reported vouches sought⟩

/-- A login for an address that was vouched for is answered. -/
theorem Concludes.exists_response {idToken : String}
    {outcome : Except LoginError (Option Login.Session)}
    (concludes : Concludes config events server number idToken reply info outcome) :
    ∃ response, some response = Api.respond (Api.present (.login idToken) outcome) ∧
      (server.Overtaken number info → response = ApiError.internal.response) := by
  by_cases overtaken : server.Overtaken number info
  · obtain ⟨rfl, -⟩ := concludes.refused overtaken
    exact ⟨_, rfl, fun _ => rfl⟩
  · obtain ⟨session, rfl, -⟩ := concludes.admitted overtaken
    exact ⟨_, rfl, fun first => absurd first overtaken⟩

/-- In every run from the empty store, a login for which nothing else goes wrong
fails if and only if it is overtaken between its lookup and its attempt to
create the account. -/
theorem logins_fail_if_overtaken (ran : run config (opening .empty) events = some server) :
    FailsIfOvertaken config events server where
  operation {number idToken outcome} going smooth := by
    obtain ⟨transcript, leads, recorded⟩ := leads_of_going ran going
    exact concludes_of_ends ran smooth (Login.ends_of_leads leads) recorded
  request {number message response?} going named smooth := by
    obtain ⟨transcript, leads, recorded⟩ := leads_of_going ran going
    obtain ⟨response, answered, refused⟩ |
      ⟨gate, caller, idToken, outcome, later, rfl, enters, shown, ends⟩ :=
      Api.login_of_responds (Api.responds_of_answer named leads)
    · exact ⟨response, answered, .inl refused⟩
    · obtain ⟨reply, info, reported, vouches, concludes⟩ :=
        concludes_of_ends ran smooth ends (recorded.of_enters enters)
      obtain ⟨response, responded, veiled⟩ := concludes.exists_response
      exact ⟨response, shown.trans responded.symm,
        .inr ⟨idToken, reply, info, outcome, reported, vouches, concludes, responded, veiled⟩⟩

end Server

/-! ## A login that is overtaken -/

namespace Sample

/-- The rider logs in twice at once.  Both logins look for the account before
either of them creates it. -/
def doubleClicked : List Server.Event :=
  [.arrive 1 (.operation (.login "first")), .arrive 2 (.operation (.login "second")),
    .report 1 (verified "rider@example"), .report 2 (verified "rider@example")] ++
    serve 1 0 0 2 ++ serve 2 0 0 2 ++ serve 1 1 0 4 ++ serve 2 2 0 3 ++ [.tell 1 moment]

end Sample

namespace Server

theorem slots_of_outcome {server : Server} {number : Nat}
    {outcome : Except LoginError (Option Login.Session)}
    (ended : server.outcome? number = some outcome) :
    ∃ idToken, server.slots number =
      some ⟨.operation (.login idToken), .going (.done outcome)⟩ := by
  rw [outcome?] at ended
  split at ended
  · rename_i idToken _ found
    obtain rfl := Option.some.inj ended
    exact ⟨idToken, found⟩
  · cases ended

/-- The first login ends with a session, and the second fails. -/
theorem doubleClicked_ends :
    ∃ server, run Sample.config (opening .empty) Sample.doubleClicked = some server ∧
      server.outcome? 2 = some (.error takenAddress) ∧
      ((server.outcome? 1).map fun outcome =>
        outcome.map fun session? => session?.map fun session => session.user.userId) =
          some (.ok (some (Sample.uuid 1))) ∧
      ∀ receipt ∈ server.receiptsOf 2, receipt.job.DrawsUnused receipt.fresh receipt.before := by
  have ended : ((run Sample.config (opening .empty) Sample.doubleClicked).map fun server =>
      decide (server.outcome? 2 = some (.error takenAddress) ∧
        ((server.outcome? 1).map fun outcome =>
          outcome.map fun session? => session?.map fun session => session.user.userId) =
            some (.ok (some (Sample.uuid 1))) ∧
        ∀ receipt ∈ server.receiptsOf 2,
          receipt.job.DrawsUnused receipt.fresh receipt.before)) = some true := by
    decide +kernel
  obtain ⟨server, ran, found⟩ := Option.map_eq_some_iff.mp ended
  exact ⟨server, ran, of_decide_eq_true found⟩

theorem doubleClicked_overtaken :
    ∃ server, run Sample.config (opening .empty) Sample.doubleClicked = some server ∧
      server.outcome? 2 = some (.error takenAddress) ∧
      FailsIfOvertaken Sample.config Sample.doubleClicked server := by
  obtain ⟨server, ran, refused, -⟩ := doubleClicked_ends
  exact ⟨server, ran, refused, logins_fail_if_overtaken ran⟩

/-- Nothing else has gone wrong with the second login. -/
theorem doubleClicked_smooth {server : Server}
    (unused : ∀ receipt ∈ server.receiptsOf 2,
      receipt.job.DrawsUnused receipt.fresh receipt.before) :
    Smooth Sample.config Sample.doubleClicked server 2 where
  vouched reply reported := by
    obtain rfl : reply = Sample.verified "rider@example" := by
      simpa [Sample.doubleClicked, Sample.serve] using reported
    exact ⟨⟨"carpool", "rider@example", "true", "", none, ""⟩, by decide +kernel,
      by decide +kernel⟩
  timely now told := by simp [Sample.doubleClicked, Sample.serve] at told
  unused := unused

/-- The provider vouches for the rider both times, and yet one login fails. -/
theorem doubleClicked_login_fails :
    ∃ server, run Sample.config (opening .empty) Sample.doubleClicked = some server ∧
      ¬LoginsSucceed Sample.config Sample.doubleClicked server := by
  obtain ⟨server, ran, refused, -, unused⟩ := doubleClicked_ends
  refine ⟨server, ran, fun succeed => ?_⟩
  obtain ⟨idToken, going⟩ := slots_of_outcome refused
  obtain ⟨session, same⟩ := succeed going (doubleClicked_smooth unused)
  cases same

end Server

end Carpool
