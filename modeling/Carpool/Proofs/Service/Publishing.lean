import Carpool.Proofs.Transcript

/-!
# The course of publishing and of accepting

Whoever publishes a ride reads the clock, has the draft checked, looks up the
account of the caller, and then writes.  Whoever accepts a request has read it.
-/

namespace Carpool

open Store

namespace Publishing

variable {α β : Type} {caller : Identity} {check : Instant → Except Flaw α} {stranger : Flaw}
  {write : α → Call (Except Failure β)} {transcript : List Exchange}
  {rest : Call (Except Failure β)}

/-- Where publishing can stand. -/
inductive Course (caller : Identity) (check : Instant → Except Flaw α) (stranger : Flaw)
    (write : α → Call (Except Failure β)) : List Exchange → Call (Except Failure β) → Prop
  | begun (next : Instant → Call (Except Failure β)) :
      Course caller check stranger write [] (.ask .clock next)
  | flawed {now : Instant} {flaw : Flaw} (failed : check now = .error flaw) :
      Course caller check stranger write [.clock now] (.done (.error (.invalid flaw)))
  | looksUp {now : Instant} {input : α} (passed : check now = .ok input)
      (next : Except StoreError (Option User) → Call (Except Failure β)) :
      Course caller check stranger write [.clock now] (.ask (.store (.getUser caller.subject)) next)
  | unread {now : Instant} {input : α} (passed : check now = .ok input) (error : StoreError) :
      Course caller check stranger write
        [.clock now, .store (.getUser caller.subject) (.error error)]
        (.done (.error (.store error)))
  | unknown {now : Instant} {input : α} (passed : check now = .ok input) :
      Course caller check stranger write
        [.clock now, .store (.getUser caller.subject) (.ok none)]
        (.done (.error (.invalid stranger)))
  | writes {now : Instant} {input : α} {user : User} {later : List Exchange}
      {rest : Call (Except Failure β)} (passed : check now = .ok input)
      (leads : (write input).Leads later rest) :
      Course caller check stranger write
        (.clock now :: .store (.getUser caller.subject) (.ok (some user)) :: later) rest

theorem course_of_leads
    (leads : (publication caller check stranger write).Leads transcript rest) :
    Course caller check stranger write transcript rest := by
  rw [publication] at leads
  cases leads with
  | start => exact .begun _
  | clock now leads =>
      dsimp only at leads
      split at leads
      · rename_i flaw failed
        obtain ⟨rfl, rfl⟩ := Call.leads_done_iff.mp leads
        exact .flawed failed
      · rename_i input passed
        obtain ⟨rfl, rfl⟩ | ⟨error, rfl, rfl⟩ | ⟨found, later, rfl, came⟩ := leads.of_go
        · exact .looksUp passed _
        · exact .unread passed error
        · cases found with
          | none =>
              obtain ⟨rfl, rfl⟩ := Call.leads_done_iff.mp came
              exact .unknown passed
          | some user => exact .writes passed came

/-- An offer that is to be created has passed its checks. -/
theorem checked_of_createOffer {draft : OfferDraft} {input : NewOffer}
    {next : Except StoreError RideOffer → Call (Except Failure RideOffer)}
    (leads : (createOffer caller draft : Call (Except Failure RideOffer)).Leads transcript
      (.ask (.store (.createOffer input)) next)) :
    ∃ now user, draft.publish caller.subject now = .ok input ∧
      transcript = [.clock now, .store (.getUser caller.subject) (.ok (some user))] := by
  rw [createOffer_shape] at leads
  cases course_of_leads leads with
  | @writes now input user later rest passed leads =>
      obtain ⟨rfl, same⟩ | ⟨answer, rfl, same⟩ := leads.of_close
      · cases same
        exact ⟨now, user, passed, rfl⟩
      · cases same

/-- A request that is to be created has passed its checks. -/
theorem checked_of_createRequest {draft : RequestDraft} {input : NewRequest}
    {next : Except StoreError RideRequest → Call (Except Failure RideRequest)}
    (leads : (createRequest caller draft : Call (Except Failure RideRequest)).Leads transcript
      (.ask (.store (.createRequest input)) next)) :
    ∃ now user, draft.publish caller.subject now = .ok input ∧
      transcript = [.clock now, .store (.getUser caller.subject) (.ok (some user))] := by
  rw [createRequest_shape] at leads
  cases course_of_leads leads with
  | @writes now input user later rest passed leads =>
      obtain ⟨rfl, same⟩ | ⟨answer, rfl, same⟩ := leads.of_close
      · cases same
        exact ⟨now, user, passed, rfl⟩
      · cases same

end Publishing

namespace Matching

/-- An acceptance that is to be carried out is that of an active request, which
the caller has read. -/
theorem read_of_acceptRideRequest {caller : Identity} {id : Uuid} {acceptance : Acceptance}
    {transcript : List Exchange}
    {next : Except StoreError (Option Accepted) → Call (Except Failure Accepted)}
    (leads : (acceptRideRequest caller id : Call (Except Failure Accepted)).Leads transcript
      (.ask (.store (.acceptRideRequest acceptance)) next)) :
    ∃ request, transcript = [.store (.getRequest id) (.ok (some request))] ∧
      request.status = .active ∧ request.userId ≠ caller.subject ∧
      acceptance = .ofRequest request caller.subject := by
  rw [acceptRideRequest_shape] at leads
  obtain ⟨rfl, same⟩ | ⟨error, rfl, same⟩ | ⟨found, later, rfl, came⟩ := leads.of_go
  · cases same
  · cases same
  cases found with
  | none => cases (Call.leads_done_iff.mp came).2
  | some request =>
      simp only [whenFound] at came
      split at came
      · cases came
      rename_i active
      split at came
      · cases came
      rename_i other
      rw [claim] at came
      obtain ⟨rfl, same⟩ | ⟨error, rfl, same⟩ | ⟨accepted, later, rfl, ended⟩ := came.of_go
      · cases same
        exact ⟨request, rfl, not_not.mp active, other, rfl⟩
      · cases same
      · cases accepted <;> cases (Call.leads_done_iff.mp ended).2

end Matching

end Carpool
