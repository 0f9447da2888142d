import Carpool.Proofs.Ride.Draft
import Carpool.Proofs.Service.Shape
import Carpool.Proofs.Store.Footprint
import Carpool.Proofs.System

/-!
# The footprints of calls

A call that is carried out from its start to its end keeps to a footprint if the
store jobs do that it can ask for.  A call about single records keeps to these
records, to those that it creates, and to accounts without their last visits.
-/

namespace Carpool

open Store

variable {ε α β : Type} {fresh : Fresh} {footprint : Footprint}

/-! ## Carrying out a call -/

/-- The world of a call that is alone with the store: the clock stands still, and
the identity provider is out of reach. -/
def Store.Fresh.world (fresh : Fresh) : (query : Query) → StateM Database query.Answer
  | .store job => job.run fresh
  | .clock => pure fresh.now
  | .introspect _ => pure (.unreachable "")

/-- Carry out a call from its start to its end. -/
def Call.perform (fresh : Fresh) (call : Call α) (database : Database) : α × Database :=
  call.run fresh.world database

theorem Call.perform_store {job : Job} {next : (Query.store job).Answer → Call α}
    (database : Database) :
    (Call.ask (.store job) next).perform fresh database =
      (next (job.run fresh database).1 : Call α).perform fresh (job.run fresh database).2 :=
  rfl

def Operation.perform (setup : Setup) (fresh : Fresh) (operation : Operation) :
    Database → operation.Reply × Database :=
  (operation.call setup).perform fresh

theorem Attempt.perform_go {wrap : StoreError → ε} {job : Job} {result : job.Result}
    {next : job.Result → Call (Except ε α)} {before after : Database}
    (answered : job.run fresh before = (.ok result, after)) :
    (go wrap job next).perform fresh before = (next result).perform fresh after := by
  refine (Call.perform_store before).trans ?_
  rw [answered]

namespace Store.KeepsTo

/-! ## What a call can ask for -/

theorem store {job : Job} {next : Except StoreError job.Result → Call α}
    (asked : KeepsTo footprint (job.run fresh))
    (goesOn : ∀ database : Database, database.WellFormed →
      KeepsTo footprint ((next (job.run fresh database).1).perform fresh)) :
    KeepsTo footprint ((Call.ask (.store job) next).perform fresh) :=
  @bind _ _ _ _ (fun answer => (next answer).perform fresh) asked goesOn

theorem clock {next : Instant → Call α}
    (goesOn : KeepsTo footprint ((next fresh.now).perform fresh)) :
    KeepsTo footprint ((Call.ask .clock next).perform fresh) :=
  goesOn

theorem close {wrap : StoreError → ε} {job : Job} (asked : KeepsTo footprint (job.run fresh)) :
    KeepsTo footprint ((Attempt.close wrap job).perform fresh) :=
  asked.map fun answer => answer.mapError wrap

theorem go {wrap : StoreError → ε} {job : Job} {next : job.Result → Call (Except ε α)}
    (asked : KeepsTo footprint (job.run fresh))
    (goesOn : ∀ {database : Database} {result : job.Result}, database.WellFormed →
      (job.run fresh database).1 = .ok result → KeepsTo footprint ((next result).perform fresh)) :
    KeepsTo footprint ((Attempt.go wrap job next).perform fresh) := by
  refine asked.store fun database formed => ?_
  cases answered : (job.run fresh database).1 with
  | ok result => exact goesOn formed answered
  | error error => exact .pure _

theorem choice {test : Prop} [Decidable test] {yes no : Call α}
    (passed : KeepsTo footprint (yes.perform fresh))
    (failed : KeepsTo footprint (no.perform fresh)) :
    KeepsTo footprint (Call.perform fresh (if test then yes else no)) := by
  split
  · exact passed
  · exact failed

theorem whenFound {entity : Entity} {id : Uuid} {next : α → Call (Except Failure β)}
    {found : Option α}
    (goesOn : ∀ record, found = some record → KeepsTo footprint ((next record).perform fresh)) :
    KeepsTo footprint ((Matching.whenFound entity id next found).perform fresh) := by
  cases found with
  | none => exact .pure _
  | some record => exact goesOn record rfl

/-- Whether there is an account can be told without its last visit. -/
theorem known {wrap : StoreError → ε} {id : Uuid} {next : Option User → Call (Except ε α)}
    {goesOn : Call (Except ε α)} (account : .account id ∈ footprint.reads)
    (alike : ∀ user, next (some user) = goesOn) (present : KeepsTo footprint (goesOn.perform fresh))
    (absent : KeepsTo footprint ((next none).perform fresh)) :
    KeepsTo footprint (Call.perform fresh (Attempt.go wrap (.getUser id) next)) := by
  have decided {first second : Database} (agree : first.AgreeOn footprint.reads second) :
      (first.findUser? id.text).isSome = (second.findUser? id.text).isSome :=
    Database.findUser?_isSome_congr (agree _ account)
  refine (present.ite decided absent).congr fun database formed => ?_
  obtain ⟨found, read⟩ := formed.exists_getUser
  have answered : (Job.getUser id).run fresh database = (.ok found, database) := Prod.ext read rfl
  have asked : Call.perform fresh (Attempt.go wrap (.getUser id) next) database =
      (next found).perform fresh database :=
    Attempt.perform_go answered
  cases found with
  | none =>
      rw [asked, mapM_eq_ok_none.mp read]
      rfl
  | some user =>
      obtain ⟨row, stored, -⟩ := mapM_eq_ok_some.mp read
      rw [asked, alike, stored]
      rfl

/-! ## Calls about matches -/

variable {caller : Identity} {id : Uuid}

theorem requestToJoin (offer : .offer id ∈ footprint.reads)
    (pairing : .pairing fresh.first ∈ footprint.writes) :
    KeepsTo footprint (Call.perform fresh (Matching.requestToJoin caller id)) := by
  rw [Matching.requestToJoin_shape]
  refine (keepsTo_getOffer offer).go fun _ _ => .whenFound fun found _ => ?_
  cases found.driverId with
  | none => exact .pure _
  | some driver => exact .choice (.pure _) (keepsTo_createMatch pairing offer).close

theorem acceptRideRequest (request : .request id ∈ footprint.writes)
    (offer : .offer fresh.first ∈ footprint.writes)
    (pairing : .pairing fresh.second ∈ footprint.writes)
    (driver : .account caller.subject ∈ footprint.reads) :
    KeepsTo footprint (Call.perform fresh (Matching.acceptRideRequest caller id)) := by
  rw [Matching.acceptRideRequest_shape]
  refine (keepsTo_getRequest (footprint.writes_subset request)).go fun formed answered =>
    .whenFound fun found read => .choice (.pure _) (.choice (.pure _) ?_)
  subst read
  obtain ⟨rfl, -⟩ := formed.of_getRequest answered
  refine (keepsTo_acceptRideRequest offer pairing request driver).go fun {_ accepted} _ _ => ?_
  cases accepted <;> exact .pure _

theorem advance {current : Match} {next : MatchStatus} (pairing : .pairing id ∈ footprint.writes) :
    KeepsTo footprint (Call.perform fresh (Matching.advance id current next)) := by
  have swapping : KeepsTo footprint ((Job.swapMatchStatus id current.status next).run fresh) :=
    keepsTo_swap .matchStatus current.status next fresh pairing
  rw [Matching.advance_shape]
  refine swapping.go fun {_ swap} _ _ => ?_
  cases swap with
  | applied => exact .pure _
  | stale =>
      exact (keepsTo_getMatch (footprint.writes_subset pairing)).go fun _ _ =>
        .whenFound fun _ _ => .pure _

theorem resolve {next : MatchStatus} (pairing : .pairing id ∈ footprint.writes) :
    KeepsTo footprint (Call.perform fresh (Matching.resolve caller id next)) := by
  rw [Matching.resolve_shape]
  exact (keepsTo_getMatch (footprint.writes_subset pairing)).go fun _ _ =>
    .whenFound fun _ _ => .choice (.pure _) (.choice (.pure _) (.advance pairing))

theorem completeMatch (policy : CompletionPolicy) (pairing : .pairing id ∈ footprint.writes) :
    KeepsTo footprint (Call.perform fresh (Matching.completeMatch policy caller id)) := by
  cases policy with
  | unrestricted =>
      rw [Matching.completeMatch_unrestricted_shape]
      exact (keepsTo_forceMatchStatus .completed pairing).go fun _ _ =>
        .whenFound fun _ _ => .pure _
  | participants =>
      rw [Matching.completeMatch_participants_shape]
      exact (keepsTo_getMatch (footprint.writes_subset pairing)).go fun _ _ =>
        .whenFound fun _ _ => .choice (.pure _) (.choice (.pure _) (.advance pairing))

/-! ## Calls about accounts -/

theorem touchAt {now : Instant} (account : .account caller.subject ∈ footprint.reads)
    (visit : .visit caller.subject ∈ footprint.writes) :
    KeepsTo footprint (Call.perform fresh (Presence.touchAt caller now)) := by
  rw [Presence.touchAt_shape]
  refine (keepsTo_getUser account (footprint.writes_subset visit)).go fun formed answered =>
    .whenFound fun user read => ?_
  subst read
  have named := (formed.of_getUser answered).1
  have swapping : KeepsTo footprint
      ((Job.swapLastSeen user.userId user.lastSeen now.toSecond).run fresh) :=
    keepsTo_swap .lastSeen user.lastSeen now.toSecond fresh (named ▸ visit)
  refine swapping.go fun {_ swap} _ _ => ?_
  cases swap <;> exact .pure _

theorem publication {β : Type} {check : Instant → Except Flaw α} {stranger : Flaw}
    {write : α → Call (Except Failure β)} (account : .account caller.subject ∈ footprint.reads)
    (goesOn : ∀ input, check fresh.now = .ok input →
      KeepsTo footprint ((write input).perform fresh)) :
    KeepsTo footprint
      (Call.perform fresh (Publishing.publication caller check stranger write)) := by
  rw [Publishing.publication]
  refine .clock ?_
  cases checked : check fresh.now with
  | error flaw => exact .pure _
  | ok input => exact .known account (fun _ => rfl) (goesOn input checked) (.pure _)

theorem createOffer {draft : OfferDraft} (account : .account caller.subject ∈ footprint.reads)
    (offer : .offer fresh.first ∈ footprint.writes) :
    KeepsTo footprint (Call.perform fresh (Publishing.createOffer caller draft)) := by
  rw [Publishing.createOffer_shape]
  refine .publication account fun input published => (keepsTo_createOffer offer ?_).close
  rw [(OfferDraft.of_publish published).1]
  exact account

theorem createRequest {draft : RequestDraft} (account : .account caller.subject ∈ footprint.reads)
    (request : .request fresh.first ∈ footprint.writes) :
    KeepsTo footprint (Call.perform fresh (Publishing.createRequest caller draft)) := by
  rw [Publishing.createRequest_shape]
  refine .publication account fun input published => (keepsTo_createRequest request ?_).close
  rw [RequestDraft.of_publish published]
  exact account

end Store.KeepsTo

end Carpool
