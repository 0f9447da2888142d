import Carpool.Proofs.RelationalIntegrity
import Carpool.Proofs.Service.Footprint

/-!
# Independent calls

Calls about single records read and write these records, those that they create,
and nothing else but accounts without their last visits, which no such call
writes.  So two of them can be carried out in either order, unless they are about
the same record or one is about what the other creates.  Many can be about one
offer, which they only read.
-/

namespace Carpool

open Store

/-! ## Stores that can be reached -/

namespace Store.Database

/-- Jobs, and removals past the services, lead to a store from the empty one. -/
inductive Reachable : Database → Prop
  | empty : Reachable .empty
  | job {before : Database} (job : Job) (fresh : Fresh) (patience : Patience)
      (earlier : before.Reachable) : Reachable (job.runWhile fresh patience before).2
  | removal {before : Database} (table : Table) (id : String) (earlier : before.Reachable) :
      Reachable (before.remove table id).1

theorem Reachable.wellFormed {database : Database} (reachable : database.Reachable) :
    database.WellFormed := by
  induction reachable with
  | empty => exact .empty
  | job job fresh patience earlier formed => exact (Job.runWhile_effect rfl).wellFormed formed
  | removal table id earlier formed => exact formed.remove table id

end Store.Database

theorem System.reachable_of_endured {setup : Setup} {incidents : List Incident} {system : System}
    (ran : endureAll setup initial incidents = some system) : system.database.Reachable := by
  refine endureAll_induct (fun _ system => system.database.Reachable) .empty ?_ ran
  intro incidents earlier last after reachable endured
  cases last with
  | removal table id =>
      obtain rfl := Option.some.inj endured
      exact .removal table id reachable
  | event event =>
      cases stepped_of_step endured with
      | @answered _ _ job _ given _ _ _ carriedOut | @abandoned _ _ job _ given _ _ carriedOut =>
          have later := reachable.job job given.fresh given.patience
          rwa [carriedOut] at later
      | _ => exact reachable

/-! ## What calls are about -/

def Store.Fresh.ids (fresh : Fresh) : List Uuid :=
  [fresh.first, fresh.second]

namespace Store.Place

def id : Place → Uuid
  | .account id | .visit id | .offer id | .request id | .pairing id => id

end Store.Place

namespace Operation

/-- The calls that are about single records. -/
inductive IsLocal : Operation → Prop
  | requestToJoin (caller : Identity) (ride : Uuid) : IsLocal (.requestToJoin caller ride)
  | acceptRideRequest (caller : Identity) (request : Uuid) :
      IsLocal (.acceptRideRequest caller request)
  | acceptRequest (caller : Identity) (pairing : Uuid) : IsLocal (.acceptRequest caller pairing)
  | rejectRequest (caller : Identity) (pairing : Uuid) : IsLocal (.rejectRequest caller pairing)
  | completeMatch (caller : Identity) (pairing : Uuid) : IsLocal (.completeMatch caller pairing)
  | createOffer (caller : Identity) (draft : OfferDraft) : IsLocal (.createOffer caller draft)
  | createRequest (caller : Identity) (draft : RequestDraft) : IsLocal (.createRequest caller draft)
  | touchAt (caller : Identity) (now : Instant) : IsLocal (.touchAt caller now)

/-- The record that a call is addressed to, if there is one. -/
def addresses : Operation → List Place
  | .requestToJoin _ ride => [.offer ride]
  | .acceptRideRequest _ request => [.request request]
  | .acceptRequest _ pairing | .rejectRequest _ pairing | .completeMatch _ pairing =>
      [.pairing pairing]
  | .touchAt caller _ => [.visit caller.subject]
  | _ => []

/-- The records that a call creates when it succeeds. -/
def creates (fresh : Fresh) : Operation → List Place
  | .requestToJoin _ _ => [.pairing fresh.first]
  | .acceptRideRequest _ _ => [.offer fresh.first, .pairing fresh.second]
  | .createOffer _ _ => [.offer fresh.first]
  | .createRequest _ _ => [.request fresh.first]
  | _ => []

variable {operation : Operation} {fresh : Fresh}

theorem account_not_mem_addresses {id : Uuid} : .account id ∉ operation.addresses := by
  cases operation <;> simp [addresses]

theorem account_not_mem_creates {id : Uuid} : .account id ∉ operation.creates fresh := by
  cases operation <;> simp [creates]

theorem id_mem_of_creates {place : Place} (created : place ∈ operation.creates fresh) :
    place.id ∈ fresh.ids := by
  revert created
  cases operation <;> simp +contextual [creates, Place.id, Fresh.ids]
  rintro (rfl | rfl) <;> simp

/-- Offers are only read by the calls that are addressed to them. -/
def footprint (fresh : Fresh) (operation : Operation) : Footprint where
  reads := {place | place ∈ operation.addresses ∨ place ∈ operation.creates fresh ∨
    ∃ id, place = .account id}
  writes := {place | (place ∈ operation.addresses ∧ ∀ id, place ≠ .offer id) ∨
    place ∈ operation.creates fresh}
  writes_subset := by
    rintro place (⟨addressed, -⟩ | created)
    · exact .inl addressed
    · exact .inr (.inl created)

theorem IsLocal.keepsTo (isLocal : operation.IsLocal) (setup : Setup) (fresh : Fresh) :
    KeepsTo (operation.footprint fresh) (operation.perform setup fresh) := by
  have account {operation : Operation} (id : Uuid) :
      .account id ∈ (operation.footprint fresh).reads := .inr (.inr ⟨id, rfl⟩)
  cases isLocal with
  | requestToJoin caller ride => exact .requestToJoin (.inl (.head _)) (.inr (.head _))
  | acceptRideRequest caller request =>
      exact .acceptRideRequest (.inl ⟨.head _, nofun⟩) (.inr (.head _)) (.inr (.tail _ (.head _)))
        (account _)
  | acceptRequest caller pairing => exact .resolve (.inl ⟨.head _, nofun⟩)
  | rejectRequest caller pairing => exact .resolve (.inl ⟨.head _, nofun⟩)
  | completeMatch caller pairing => exact .completeMatch setup.policy (.inl ⟨.head _, nofun⟩)
  | createOffer caller draft => exact .createOffer (account _) (.inr (.head _))
  | createRequest caller draft => exact .createRequest (account _) (.inr (.head _))
  | touchAt caller now => exact .touchAt (account _) (.inl ⟨.head _, nofun⟩)

/-! ## Calls that commute -/

/-- Two calls about single records, each with its own fresh identifiers, of which
none is about what the other changes or creates. -/
structure Independent (first : Operation) (firstFresh : Fresh) (second : Operation)
    (secondFresh : Fresh) : Prop where
  firstLocal : first.IsLocal
  secondLocal : second.IsLocal
  /-- Both can be addressed to one offer. -/
  apart : ∀ place ∈ first.addresses, place ∈ second.addresses → ∃ id, place = .offer id
  firstSpared : ∀ place ∈ first.addresses, place ∉ second.creates secondFresh
  secondSpared : ∀ place ∈ second.addresses, place ∉ first.creates firstFresh
  fresh : ∀ id ∈ firstFresh.ids, id ∉ secondFresh.ids

variable {first second : Operation} {firstFresh secondFresh : Fresh}

theorem Independent.symm (independent : Independent first firstFresh second secondFresh) :
    Independent second secondFresh first firstFresh where
  firstLocal := independent.secondLocal
  secondLocal := independent.firstLocal
  apart place addressed addressedToo := independent.apart place addressedToo addressed
  firstSpared := independent.secondSpared
  secondSpared := independent.firstSpared
  fresh id mine other := independent.fresh id other mine

/-- What one of two independent calls writes is not read by the other. -/
theorem Independent.spares (independent : Independent first firstFresh second secondFresh) :
    (first.footprint firstFresh).Spares (second.footprint secondFresh) := by
  rintro place (⟨addressed, written⟩ | created) (addressedToo | createdToo | ⟨id, rfl⟩)
  · obtain ⟨id, rfl⟩ := independent.apart place addressed addressedToo
    exact written id rfl
  · exact independent.firstSpared place addressed createdToo
  · exact account_not_mem_addresses addressed
  · exact independent.secondSpared place addressedToo created
  · exact independent.fresh place.id (id_mem_of_creates created) (id_mem_of_creates createdToo)
  · exact account_not_mem_creates created

/-- In every reachable store, independent calls give the same answers and leave
the same rows in either order, whether they succeed or fail. -/
theorem independent_calls_commute {database : Database} (reachable : database.Reachable)
    (independent : Independent first firstFresh second secondFresh) (setup : Setup) :
    CommuteOn database (first.perform setup firstFresh) (second.perform setup secondFresh) :=
  (independent.firstLocal.keepsTo setup firstFresh).commuteOn
    (independent.secondLocal.keepsTo setup secondFresh) independent.spares
    independent.symm.spares reachable.wellFormed

end Operation

namespace Sample

def acceptance : Operation := .acceptRideRequest driver (uuid 4)

/-- The driver accepts the request; the offer is five and the match six. -/
def accepts : Database → Except Failure Accepted × Database :=
  acceptance.perform (setup .participants) (fresh 5 6).fresh

def otherRide : Operation := .createOffer driver shortDraft

/-- The driver publishes an offer of another ride, under identifier seven. -/
def offers : Database → Except Failure RideOffer × Database :=
  otherRide.perform (setup .participants) (fresh 7 8).fresh

/-- Both calls of the driver succeed, and each order of them is seen in the table
of offers. -/
theorem otherRide_commutes :
    ∃ system, System.endureAll (setup .participants) .initial (published.map .event) = some system ∧
      (accepts system.database).1.isOk ∧ (offers system.database).1.isOk ∧
      (offers (accepts system.database).2).2.offerRows.map OfferRow.offerId =
        [some (uuid 5).text, some (uuid 7).text] ∧
      (accepts (offers system.database).2).2.offerRows.map OfferRow.offerId =
        [some (uuid 7).text, some (uuid 5).text] ∧
      CommuteOn system.database accepts offers := by
  obtain ⟨system, ran, seen⟩ := Option.map_eq_some_iff.mp
    (by decide +kernel : (System.endureAll (setup .participants) .initial
        (published.map .event)).map (fun system =>
          ((accepts system.database).1.isOk, (offers system.database).1.isOk,
            (offers (accepts system.database).2).2.offerRows.map OfferRow.offerId,
            (accepts (offers system.database).2).2.offerRows.map OfferRow.offerId)) =
      some (true, true, [some (uuid 5).text, some (uuid 7).text],
        [some (uuid 7).text, some (uuid 5).text]))
  obtain ⟨accepted, seen⟩ := Prod.mk.inj seen
  obtain ⟨offered, seen⟩ := Prod.mk.inj seen
  obtain ⟨acceptedFirst, offeredFirst⟩ := Prod.mk.inj seen
  have independent : Operation.Independent acceptance (fresh 5 6).fresh otherRide
      (fresh 7 8).fresh :=
    { firstLocal := .acceptRideRequest driver (uuid 4)
      secondLocal := .createOffer driver shortDraft
      apart := by simp [otherRide, Operation.addresses]
      firstSpared := by decide
      secondSpared := by decide
      fresh := by decide }
  exact ⟨system, ran, accepted, offered, acceptedFirst, offeredFirst,
    Operation.independent_calls_commute (System.reachable_of_endured ran) independent _⟩

end Sample

end Carpool
