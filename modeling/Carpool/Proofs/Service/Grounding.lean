import Carpool.Proofs.Service.Creation

/-!
# Where the driver of a match comes from

A call copies the driver out of an offer that it has read and asks for the match
later.  Whatever has become of the offer in between, the driver of the match is
the one with whom an offer of that identifier was made.
-/

namespace Carpool

open Store

/-! ## The offers that have been made -/

/-- The offer that a store job has made, if it has made one. -/
def Entry.madeOffer? : Entry → Option RideOffer
  | ⟨_, .createOffer _, _, some (.ok offer), _, _⟩ => some offer
  | ⟨_, .acceptRideRequest _, _, some (.ok (some accepted)), _, _⟩ => some accepted.offer
  | _ => none

/-- All offers that have been made, those that are gone included. -/
def System.madeOffers (system : System) : List RideOffer :=
  system.history.filterMap Entry.madeOffer?

/-- An offer was made under an identifier, with a driver. -/
def Drove (made : List RideOffer) (ride driver : Uuid) : Prop :=
  ∃ offer ∈ made, offer.offerId = ride ∧ offer.driverId = some driver

theorem Drove.later {made later : List RideOffer} {ride driver : Uuid}
    (drove : Drove made ride driver) (grown : made ⊆ later) : Drove later ride driver := by
  obtain ⟨offer, member, same⟩ := drove
  exact ⟨offer, grown member, same⟩

/-! ## What a call asks for -/

namespace Store.Job

/-- A match is asked for only with the driver of an offer that has been made. -/
def Grounded (made : List RideOffer) : Job → Prop
  | .createMatch input => Drove made input.rideId input.driverId
  | _ => True

/-- An offer is shown only with the driver with whom it was made. -/
def Shows (made : List RideOffer) : (job : Job) → Except StoreError job.Result → Prop
  | .getOffer id, .ok (some offer) => ∀ driver, offer.driverId = some driver → Drove made id driver
  | _, _ => True

def MakesMatch : Job → Prop
  | .createMatch _ => True
  | _ => False

theorem Grounded.of_other {made : List RideOffer} {job : Job} (other : ¬job.MakesMatch) :
    job.Grounded made := by
  cases job <;> first | trivial | exact absurd trivial other

theorem Grounded.later {made later : List RideOffer} {job : Job} (grounded : job.Grounded made)
    (grown : made ⊆ later) : job.Grounded later := by
  cases job with
  | createMatch input => exact Drove.later grounded grown
  | _ => trivial

end Store.Job

namespace Call

variable {α : Type} {made : List RideOffer}

/-- Whatever offers are made in the meantime, the call asks for matches only with
the drivers of offers that have been made. -/
def Grounded : Call α → List RideOffer → Prop
  | .done _, _ => True
  | .ask (.store job) next, made =>
      job.Grounded made ∧ ∀ later, made ⊆ later → ∀ answer, job.Shows later answer →
        (next answer).Grounded later
  | .ask .clock next, made => ∀ now, (next now).Grounded made
  | .ask (.introspect _) next, made => ∀ reply, (next reply).Grounded made

theorem Grounded.later {later : List RideOffer} {call : Call α} (grounded : call.Grounded made)
    (grown : made ⊆ later) : call.Grounded later := by
  induction call with
  | done result => trivial
  | ask query next ih =>
      cases query with
      | store job =>
          refine ⟨grounded.1.later grown, fun last grownOn answer shows => ?_⟩
          exact grounded.2 last (List.Subset.trans grown grownOn) answer shows
      | clock => exact fun now => ih now (grounded now)
      | introspect token => exact fun reply => ih reply (grounded reply)

theorem Grounded.of_asks {call : Call α} (asks : call.Asks fun job => ¬job.MakesMatch) :
    call.Grounded made := by
  induction call generalizing made with
  | done result => trivial
  | ask query next ih =>
      cases query with
      | store job =>
          exact ⟨.of_other asks.1, fun later grown answer shows => ih answer (asks.2 answer)⟩
      | clock => exact fun now => ih now (asks now)
      | introspect token => exact fun reply => ih reply (asks reply)

theorem Grounded.ite {condition : Prop} [Decidable condition] {first second : Call α}
    (yes : first.Grounded made) (no : second.Grounded made) :
    (if condition then first else second).Grounded made := by
  split
  · exact yes
  · exact no

theorem Asks.mono {kind other : Job → Prop} (weaker : ∀ {job}, kind job → other job)
    {call : Call α} (asks : call.Asks kind) : call.Asks other := by
  induction call with
  | done result => trivial
  | ask query next ih =>
      cases query with
      | store job => exact ⟨weaker asks.1, fun answer => ih answer (asks.2 answer)⟩
      | clock => exact fun now => ih now (asks now)
      | introspect token => exact fun reply => ih reply (asks reply)

end Call

/-! ## Every operation -/

/-- Only who asks to join an offer asks for a match. -/
theorem Operation.MayAsk.not_makesMatch {operation : Operation} {job : Job}
    (other : ∀ caller ride, operation ≠ .requestToJoin caller ride)
    (mayAsk : operation.MayAsk job) : ¬job.MakesMatch := by
  intro makes
  cases job with
  | createMatch input =>
      obtain ⟨caller, ride, same⟩ := mayAsk
      exact other caller ride same
  | _ => exact makes

/-- The driver of the offer that was shown is the one who is asked to drive. -/
theorem requestToJoin_grounded (caller : Identity) (ride : Uuid) (made : List RideOffer) :
    (Matching.requestToJoin caller ride : Call (Except Failure Match)).Grounded made := by
  have same := Matching.requestToJoin_shape caller ride
  refine (congrArg (fun call => Call.Grounded call made) same).mpr ?_
  refine ⟨trivial, fun later grown answer shows => ?_⟩
  rcases answer with error | (_ | offer)
  · trivial
  · trivial
  · dsimp only [Matching.whenFound]
    cases drives : offer.driverId with
    | none => trivial
    | some driver =>
        refine .ite trivial ⟨shows driver drives, ?_⟩
        exact fun last grownOn answer shown => trivial

/-- No operation asks for a match with anybody but the driver of an offer. -/
theorem Operation.grounded (setup : Setup) (operation : Operation) (made : List RideOffer) :
    (operation.call setup).Grounded made := by
  by_cases joins : ∃ caller ride, operation = .requestToJoin caller ride
  · obtain ⟨caller, ride, rfl⟩ := joins
    exact requestToJoin_grounded caller ride made
  · have other (caller ride) : operation ≠ .requestToJoin caller ride :=
      fun same => joins ⟨caller, ride, same⟩
    exact .of_asks ((operation.call_mayAsk setup).mono (Operation.MayAsk.not_makesMatch other))

end Carpool
