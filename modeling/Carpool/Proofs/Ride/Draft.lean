import Carpool.Proofs.Store.Codec
import Carpool.Ride.Draft

/-!
# Published drafts

What a draft that passes its checks turns into, and which drafts pass.
-/

namespace Carpool

variable {now : Instant} {flaw : Flaw}

theorem of_requirePlace {blank : Flaw} {place result : String}
    (passed : requirePlace blank place = .ok result) :
    Text.trim place ≠ "" ∧ result = Text.trim place := by
  rw [requirePlace] at passed
  split at passed
  · cases passed
  · rename_i present
    exact ⟨by simpa using present, (Except.ok.inj passed).symm⟩

theorem requirePlace_eq_error {blank : Flaw} {place : String}
    (failed : requirePlace blank place = .error flaw) : Text.trim place = "" ∧ flaw = blank := by
  rw [requirePlace] at failed
  split at failed
  · rename_i empty
    exact ⟨by simpa using empty, (Except.error.inj failed).symm⟩
  · cases failed

/-- A fare that may be asked. -/
structure Binary64.IsFare (fare : Binary64) : Prop where
  finite : fare.isFinite = true
  notBelowZero : fare.isBelowZero = false

theorem Binary64.IsFare.isNaN {fare : Binary64} (sound : fare.IsFare) : fare.isNaN = false := by
  have finite := of_decide_eq_true sound.finite
  rw [Binary64.isNaN, decide_eq_false_iff_not]
  omega

theorem checkFare_eq_ok {fare : Binary64} : checkFare fare = .ok () ↔ fare.IsFare := by
  rw [checkFare]
  split
  · rename_i bad
    refine iff_of_false nofun fun good => ?_
    rw [good.finite, good.notBelowZero] at bad
    cases bad
  · rename_i good
    simp only [Bool.or_eq_true, Bool.not_eq_true', not_or, Bool.not_eq_false,
      Bool.not_eq_true] at good
    exact iff_of_true rfl ⟨good.1, good.2⟩

theorem checkFare_eq_error {fare : Binary64} (failed : checkFare fare = .error flaw) :
    ¬fare.IsFare ∧ flaw = .badFare := by
  refine ⟨fun good => ?_, ?_⟩
  · rw [checkFare_eq_ok.mpr good] at failed
    cases failed
  · rw [checkFare] at failed
    split at failed
    · exact (Except.error.inj failed).symm
    · cases failed

/-- The flaws that offers and requests alike can have when they are drafted. -/
inductive Flaw.OfRide (fromGeo toGeo : String) (departAt : Instant) (seats : UInt32)
    (now : Instant) : Flaw → Prop
  | origin (blank : Text.trim fromGeo = "") :
      Flaw.OfRide fromGeo toGeo departAt seats now .blankOrigin
  | destination (blank : Text.trim toGeo = "") :
      Flaw.OfRide fromGeo toGeo departAt seats now .blankDestination
  | past (before : departAt.isBefore now = true) :
      Flaw.OfRide fromGeo toGeo departAt seats now .departurePast
  | full (none : seats = 0) : Flaw.OfRide fromGeo toGeo departAt seats now .noSeats

/-- The checks that offers and requests have in common. -/
def checkRide (fromGeo toGeo : String) (departAt : Instant) (seats : UInt32) (now : Instant) :
    Except Flaw (String × String) := do
  let fromGeo ← requirePlace .blankOrigin fromGeo
  let toGeo ← requirePlace .blankDestination toGeo
  checkSchedule departAt seats now
  return (fromGeo, toGeo)

section Checks

variable {fromGeo toGeo : String} {departAt : Instant} {seats : UInt32}

theorem of_checkRide {places : String × String}
    (passed : checkRide fromGeo toGeo departAt seats now = .ok places) :
    (∀ flaw, ¬Flaw.OfRide fromGeo toGeo departAt seats now flaw) ∧
      places = (Text.trim fromGeo, Text.trim toGeo) := by
  obtain ⟨_, placed, passed⟩ := Store.bind_eq_ok.mp passed
  obtain ⟨_, placedOn, passed⟩ := Store.bind_eq_ok.mp passed
  obtain ⟨_, scheduled, passed⟩ := Store.bind_eq_ok.mp passed
  obtain ⟨origin, rfl⟩ := of_requirePlace placed
  obtain ⟨destination, rfl⟩ := of_requirePlace placedOn
  refine ⟨?_, (Except.ok.inj passed).symm⟩
  rintro _ (blank | blank | past | none)
  · exact origin blank
  · exact destination blank
  · rw [checkSchedule, if_pos past] at scheduled
    cases scheduled
  · rw [checkSchedule, if_pos none] at scheduled
    split at scheduled <;> cases scheduled

theorem checkRide_eq_error (failed : checkRide fromGeo toGeo departAt seats now = .error flaw) :
    Flaw.OfRide fromGeo toGeo departAt seats now flaw := by
  obtain failed | ⟨_, -, failed⟩ := Store.bind_eq_error.mp failed
  · obtain ⟨blank, rfl⟩ := requirePlace_eq_error failed
    exact .origin blank
  obtain failed | ⟨_, -, failed⟩ := Store.bind_eq_error.mp failed
  · obtain ⟨blank, rfl⟩ := requirePlace_eq_error failed
    exact .destination blank
  obtain failed | ⟨_, -, failed⟩ := Store.bind_eq_error.mp failed
  · rw [checkSchedule] at failed
    split at failed
    · obtain rfl := Except.error.inj failed
      exact .past ‹_›
    split at failed
    · obtain rfl := Except.error.inj failed
      exact .full ‹_›
    · cases failed
  · cases failed

end Checks

/-- The flaws of an offer that is drafted at some time. -/
inductive OfferDraft.Has (draft : OfferDraft) (now : Instant) : Flaw → Prop
  | ride {flaw : Flaw}
      (flawed : flaw.OfRide draft.fromGeo draft.toGeo draft.departAt draft.seats now) :
      OfferDraft.Has draft now flaw
  | fare (bad : ¬draft.fare.IsFare) : OfferDraft.Has draft now .badFare

/-- The flaws of a request that is drafted at some time. -/
def RequestDraft.Has (draft : RequestDraft) (now : Instant) : Flaw → Prop :=
  Flaw.OfRide draft.fromGeo draft.toGeo draft.departAt draft.seats now

namespace OfferDraft

variable {draft : OfferDraft} {driver : Uuid}

theorem publish_eq (draft : OfferDraft) (driver : Uuid) (now : Instant) :
    draft.publish driver now =
      checkRide draft.fromGeo draft.toGeo draft.departAt draft.seats now >>= fun places =>
        checkFare draft.fare >>= fun _ =>
          .ok ⟨driver, places.1, places.2, draft.fare, draft.departAt, draft.seats, .active⟩ := by
  rw [publish, checkRide]
  simp only [bind_assoc]
  rfl

/-- A draft that passes is published as it stands, but for the blanks around its
places. -/
theorem publish_eq_ok {input : NewOffer} (passed : draft.publish driver now = .ok input) :
    (∀ flaw, ¬draft.Has now flaw) ∧
      input = ⟨driver, Text.trim draft.fromGeo, Text.trim draft.toGeo, draft.fare, draft.departAt,
        draft.seats, .active⟩ := by
  rw [publish_eq] at passed
  obtain ⟨places, checked, passed⟩ := Store.bind_eq_ok.mp passed
  obtain ⟨_, fared, passed⟩ := Store.bind_eq_ok.mp passed
  obtain ⟨sound, rfl⟩ := of_checkRide checked
  refine ⟨?_, (Except.ok.inj passed).symm⟩
  rintro _ (flawed | bad)
  · exact sound _ flawed
  · exact bad (checkFare_eq_ok.mp fared)

theorem publish_eq_error (failed : draft.publish driver now = .error flaw) :
    draft.Has now flaw := by
  rw [publish_eq] at failed
  obtain failed | ⟨_, -, failed⟩ := Store.bind_eq_error.mp failed
  · exact .ride (checkRide_eq_error failed)
  obtain failed | ⟨_, -, failed⟩ := Store.bind_eq_error.mp failed
  · obtain ⟨bad, rfl⟩ := checkFare_eq_error failed
    exact .fare bad
  · cases failed

/-- An offer that is published is active, in the driver's name, and its fare is
a number. -/
theorem of_publish {input : NewOffer} (published : draft.publish driver now = .ok input) :
    input.driverId = driver ∧ input.fare.isNaN = false ∧ input.departAt = draft.departAt ∧
      input.status = .active := by
  obtain ⟨sound, rfl⟩ := publish_eq_ok published
  have fare : draft.fare.IsFare := not_not.mp fun bad => sound .badFare (.fare bad)
  exact ⟨rfl, fare.isNaN, rfl, rfl⟩

end OfferDraft

namespace RequestDraft

variable {draft : RequestDraft} {rider : Uuid}

theorem publish_eq (draft : RequestDraft) (rider : Uuid) (now : Instant) :
    draft.publish rider now =
      checkRide draft.fromGeo draft.toGeo draft.departAt draft.seats now >>= fun places =>
        .ok ⟨rider, places.1, places.2, draft.departAt, draft.seats⟩ := by
  rw [publish, checkRide]
  simp only [bind_assoc]
  rfl

theorem publish_eq_ok {input : NewRequest} (passed : draft.publish rider now = .ok input) :
    (∀ flaw, ¬draft.Has now flaw) ∧
      input = ⟨rider, Text.trim draft.fromGeo, Text.trim draft.toGeo, draft.departAt,
        draft.seats⟩ := by
  rw [publish_eq] at passed
  obtain ⟨places, checked, passed⟩ := Store.bind_eq_ok.mp passed
  obtain ⟨sound, rfl⟩ := of_checkRide checked
  exact ⟨sound, (Except.ok.inj passed).symm⟩

theorem publish_eq_error (failed : draft.publish rider now = .error flaw) :
    draft.Has now flaw := by
  rw [publish_eq] at failed
  obtain failed | ⟨_, -, failed⟩ := Store.bind_eq_error.mp failed
  · exact checkRide_eq_error failed
  · cases failed

/-- A request that is published is in the rider's name. -/
theorem of_publish {input : NewRequest} (published : draft.publish rider now = .ok input) :
    input.userId = rider := by
  obtain ⟨-, rfl⟩ := publish_eq_ok published
  rfl

end RequestDraft

end Carpool
