import Carpool.Proofs.Transcript

/-!
# The course of a login

A login hears from the identity provider, looks for the account, creates it if
there is none, and reads the clock.  It fails where one of these does, and breaks
off where the time that the clock shows leaves no end for a session.
-/

namespace Carpool

open Store

namespace Login

/-- What the identity provider says can be read and passes the policy. -/
structure Vouches (policy : LoginPolicy) (reply : ProviderReply) (info : TokenInfo) : Prop where
  read : reply.read = .ok info
  admitted : policy.check info = .ok ()

variable {settings : Settings} {idToken : String} {transcript : List Exchange}

theorem leads_of_conclude {user : User} {rest : Call (Except LoginError (Option Session))}
    (leads : (conclude settings user).Leads transcript rest) :
    transcript = [] ∧ rest = conclude settings user ∨
      ∃ now, transcript = [.clock now] ∧ rest = .done (.ok (session? settings user now)) := by
  rw [conclude] at leads
  cases leads with
  | start => exact .inl ⟨rfl, rfl⟩
  | clock now leads =>
      obtain ⟨rfl, rfl⟩ := Call.leads_done_iff.mp leads
      exact .inr ⟨now, rfl, rfl⟩

/-- The jobs of a login, by what it knows when it asks for them. -/
inductive Asks (policy : LoginPolicy) (idToken : String) : List Exchange → Job → Prop
  | lookUp {reply : ProviderReply} {info : TokenInfo} (vouches : Vouches policy reply info) :
      Asks policy idToken [.introspect idToken reply] (.findUserByEmail (Text.lower info.email))
  | create {reply : ProviderReply} {info : TokenInfo} (vouches : Vouches policy reply info) :
      Asks policy idToken
        [.introspect idToken reply, .store (.findUserByEmail (Text.lower info.email)) (.ok none)]
        (.createUser (newcomer info))

/-- How a login comes to its result. -/
inductive Ends (settings : Settings) (idToken : String) :
    List Exchange → Except LoginError (Option Session) → Prop
  | unread {reply : ProviderReply} {error : LoginError} (unread : reply.read = .error error) :
      Ends settings idToken [.introspect idToken reply] (.error error)
  | refused {reply : ProviderReply} {info : TokenInfo} {error : LoginError}
      (read : reply.read = .ok info) (refused : settings.policy.check info = .error error) :
      Ends settings idToken [.introspect idToken reply] (.error error)
  | unsought {reply : ProviderReply} {info : TokenInfo}
      (vouches : Vouches settings.policy reply info) (error : StoreError) :
      Ends settings idToken
        [.introspect idToken reply,
          .store (.findUserByEmail (Text.lower info.email)) (.error error)]
        (.error (.store error))
  | returning {reply : ProviderReply} {info : TokenInfo}
      (vouches : Vouches settings.policy reply info) (user : User) (now : Instant) :
      Ends settings idToken
        [.introspect idToken reply,
          .store (.findUserByEmail (Text.lower info.email)) (.ok (some user)), .clock now]
        (.ok (session? settings user now))
  | uncreated {reply : ProviderReply} {info : TokenInfo}
      (vouches : Vouches settings.policy reply info) (error : StoreError) :
      Ends settings idToken
        [.introspect idToken reply, .store (.findUserByEmail (Text.lower info.email)) (.ok none),
          .store (.createUser (newcomer info)) (.error error)]
        (.error (.store error))
  | created {reply : ProviderReply} {info : TokenInfo}
      (vouches : Vouches settings.policy reply info) (user : User) (now : Instant) :
      Ends settings idToken
        [.introspect idToken reply, .store (.findUserByEmail (Text.lower info.email)) (.ok none),
          .store (.createUser (newcomer info)) (.ok user), .clock now]
        (.ok (session? settings user now))

/-- Where a login can stand. -/
inductive Course (settings : Settings) (idToken : String) :
    List Exchange → Call (Except LoginError (Option Session)) → Prop
  | begun (next : ProviderReply → Call (Except LoginError (Option Session))) :
      Course settings idToken [] (.ask (.introspect idToken) next)
  | asks {transcript : List Exchange} {job : Job}
      (asks : Asks settings.policy idToken transcript job)
      (next : Except StoreError job.Result → Call (Except LoginError (Option Session))) :
      Course settings idToken transcript (.ask (.store job) next)
  | timed (transcript : List Exchange)
      (next : Instant → Call (Except LoginError (Option Session))) :
      Course settings idToken transcript (.ask .clock next)
  | ended {transcript : List Exchange} {outcome : Except LoginError (Option Session)}
      (ends : Ends settings idToken transcript outcome) :
      Course settings idToken transcript (.done outcome)

theorem course_of_leads {rest : Call (Except LoginError (Option Session))}
    (leads : (login settings idToken : Call (Except LoginError (Option Session))).Leads transcript
      rest) : Course settings idToken transcript rest := by
  rw [login_shape] at leads
  cases leads with
  | start => exact .begun _
  | introspect reply heard =>
      dsimp only at heard
      split at heard
      · rename_i error unread
        obtain ⟨rfl, rfl⟩ := Call.leads_done_iff.mp heard
        exact .ended (.unread unread)
      rename_i info read
      split at heard
      · rename_i error refused
        obtain ⟨rfl, rfl⟩ := Call.leads_done_iff.mp heard
        exact .ended (.refused read refused)
      rename_i admitted
      have vouches : Vouches settings.policy reply info := ⟨read, admitted⟩
      obtain ⟨rfl, rfl⟩ | ⟨error, rfl, rfl⟩ | ⟨found, later, rfl, sought⟩ := heard.of_go
      · exact .asks (.lookUp vouches) _
      · exact .ended (.unsought vouches error)
      cases found with
      | some user =>
          obtain ⟨rfl, rfl⟩ | ⟨now, rfl, rfl⟩ := leads_of_conclude sought
          · exact .timed _ _
          · exact .ended (.returning vouches user now)
      | none =>
          obtain ⟨rfl, rfl⟩ | ⟨error, rfl, rfl⟩ | ⟨user, last, rfl, made⟩ := Call.Leads.of_go sought
          · exact .asks (.create vouches) _
          · exact .ended (.uncreated vouches error)
          obtain ⟨rfl, rfl⟩ | ⟨now, rfl, rfl⟩ := leads_of_conclude made
          · exact .timed _ _
          · exact .ended (.created vouches user now)

theorem asks_of_leads {job : Job}
    {next : Except StoreError job.Result → Call (Except LoginError (Option Session))}
    (leads : (login settings idToken : Call (Except LoginError (Option Session))).Leads transcript
      (.ask (.store job) next)) : Asks settings.policy idToken transcript job := by
  cases course_of_leads leads with
  | asks asks => exact asks

theorem ends_of_leads {outcome : Except LoginError (Option Session)}
    (leads : (login settings idToken : Call (Except LoginError (Option Session))).Leads transcript
      (.done outcome)) : Ends settings idToken transcript outcome := by
  cases course_of_leads leads with
  | ended ends => exact ends

end Login

end Carpool
