import Carpool.Proofs.Alone
import Carpool.Proofs.Service.Entitlement

/-!
# Published rides

A published ride can be read for ever after just if its departure falls in a
year of four digits.  Drafts may name other years, and such a ride is stored,
but the text of its time is none that is read back: nobody can look it up, join
it or accept it.
-/

namespace Carpool

open Store

/-- The year, in universal time, is written with four digits. -/
def Instant.HasFourDigitYear (instant : Instant) : Prop :=
  0 ≤ instant.date.year ∧ instant.date.year ≤ 9999

theorem Store.decodeTime_of_year {instant : Instant} (year : instant.HasFourDigitYear) :
    decodeTime instant.storedText = .ok instant.toMicrosecond := by
  rw [Instant.HasFourDigitYear] at year
  rw [decodeTime, Instant.ofStoredText?_storedText, if_pos year]

theorem Store.decodeTime_of_not_year {instant : Instant} (year : ¬instant.HasFourDigitYear) :
    decodeTime instant.storedText = .error (.notTime instant.storedText) := by
  rw [Instant.HasFourDigitYear] at year
  rw [decodeTime, Instant.ofStoredText?_storedText, if_neg year]

/-! ## What has been published -/

/-- The offer that a call has published, once it is through. -/
def Running.publishedOffer? : Running → Option RideOffer
  | ⟨.createOffer _ _, .done (.ok offer)⟩ => some offer
  | _ => none

/-- The request that a call has published, once it is through. -/
def Running.publishedRequest? : Running → Option RideRequest
  | ⟨.createRequest _ _, .done (.ok request)⟩ => some request
  | _ => none

namespace System

def publishedOffers (system : System) : List RideOffer :=
  system.running.filterMap Running.publishedOffer?

def publishedRequests (system : System) : List RideRequest :=
  system.running.filterMap Running.publishedRequest?

variable {setup : Setup} {system later : System}

theorem running_of_publishedOffer {offer : RideOffer} (published : offer ∈ system.publishedOffers) :
    ∃ caller draft, ⟨.createOffer caller draft, .done (.ok offer)⟩ ∈ system.running := by
  obtain ⟨call, member, announced⟩ := List.mem_filterMap.mp published
  unfold Running.publishedOffer? at announced
  split at announced
  · obtain rfl := Option.some.inj announced
    exact ⟨_, _, member⟩
  · contradiction

theorem running_of_publishedRequest {request : RideRequest}
    (published : request ∈ system.publishedRequests) :
    ∃ caller draft, ⟨.createRequest caller draft, .done (.ok request)⟩ ∈ system.running := by
  obtain ⟨call, member, announced⟩ := List.mem_filterMap.mp published
  unfold Running.publishedRequest? at announced
  split at announced
  · obtain rfl := Option.some.inj announced
    exact ⟨_, _, member⟩
  · contradiction

theorem stored_of_publishedOffer (reachable : Reachable setup system)
    (reaches : Reaches setup system later) {offer : RideOffer}
    (published : offer ∈ system.publishedOffers) :
    offer.departAt.toMicrosecond = offer.departAt ∧
      ∃ row, OfferRow.ofOffer offer = .ok row ∧
        later.database.findOffer? offer.offerId.text = some row := by
  have lawful := entitlements_lawful setup
  obtain ⟨caller, draft, member⟩ := running_of_publishedOffer published
  exact (lawful.holds reachable).kept _ member _ (lawful.grows reachable reaches)

theorem stored_of_publishedRequest (reachable : Reachable setup system)
    (reaches : Reaches setup system later) {request : RideRequest}
    (published : request ∈ system.publishedRequests) :
    request.departAt.toMicrosecond = request.departAt ∧
      ∃ status, request.status.Leads status ∧
        later.database.findRequest? request.requestId.text =
          some (.ofRequest { request with status }) := by
  have lawful := entitlements_lawful setup
  obtain ⟨caller, draft, member⟩ := running_of_publishedRequest published
  exact (lawful.holds reachable).kept _ member _ (lawful.grows reachable reaches)

/-! ## What it is to be usable -/

/-- In all later states the offer reads as it was announced, and nobody who asks
to join it fails on its row. -/
structure UsableOffer (setup : Setup) (system : System) (offer : RideOffer) : Prop where
  reads : ∀ later, Reaches setup system later → ∀ given rest,
    ∃ fare, fare.sameNumber offer.fare = true ∧
      Call.alone (Publishing.getOffer offer.offerId) (given :: rest) later.database =
        some (.ok { offer with fare }, later.database)
  joins : ∀ later, Reaches setup system later → ∀ caller error,
    ⟨.requestToJoin caller offer.offerId, .done (.error (.store error))⟩ ∈ later.running →
    ∃ violation, error = .violation violation

/-- In all later states the request reads as it was announced, but that it may
have been matched, and nobody who accepts it fails on its row. -/
structure UsableRequest (setup : Setup) (system : System) (request : RideRequest) : Prop where
  reads : ∀ later, Reaches setup system later → ∀ given rest,
    ∃ status, request.status.Leads status ∧
      Call.alone (Publishing.getRequest request.requestId) (given :: rest) later.database =
        some (.ok { request with status }, later.database)
  accepts : ∀ later, Reaches setup system later → ∀ caller error,
    ⟨.acceptRideRequest caller request.requestId, .done (.error (.store error))⟩ ∈
      later.running →
    ∃ violation, error = .violation violation

/-- In all later states whoever looks up the offer or asks to join it fails on
the text of its time. -/
def LostOffer (setup : Setup) (system : System) (offer : RideOffer) : Prop :=
  ∀ later, Reaches setup system later → ∀ given rest,
    Call.alone (Publishing.getOffer offer.offerId) (given :: rest) later.database =
      some (.error (.store (.notTime offer.departAt.storedText)), later.database) ∧
    ∀ caller,
      Call.alone (Matching.requestToJoin caller offer.offerId) (given :: rest) later.database =
        some (.error (.store (.notTime offer.departAt.storedText)), later.database)

/-- In all later states whoever looks up the request or accepts it fails on the
text of its time. -/
def LostRequest (setup : Setup) (system : System) (request : RideRequest) : Prop :=
  ∀ later, Reaches setup system later → ∀ given rest,
    Call.alone (Publishing.getRequest request.requestId) (given :: rest) later.database =
      some (.error (.store (.notTime request.departAt.storedText)), later.database) ∧
    ∀ caller,
      Call.alone (Matching.acceptRideRequest caller request.requestId) (given :: rest)
          later.database =
        some (.error (.store (.notTime request.departAt.storedText)), later.database)

/-! ## Reading the rows of published rides -/

section Rows

variable {database : Database} {offer : RideOffer} {row : OfferRow}

theorem offer_read_of_year (stored : database.findOffer? offer.offerId.text = some row)
    (encoded : OfferRow.ofOffer offer = .ok row)
    (rounded : offer.departAt.toMicrosecond = offer.departAt)
    (year : offer.departAt.HasFourDigitYear) :
    (database.findOffer? offer.offerId.text).mapM OfferRow.decode =
      .ok (some { offer with fare := offer.fare.withoutNegativeZero }) := by
  refine mapM_eq_ok_some.mpr ⟨row, stored, ?_⟩
  rw [OfferRow.decode_ofOffer encoded, decodeTime_of_year year, rounded]
  rfl

theorem offer_unread_of_not_year (stored : database.findOffer? offer.offerId.text = some row)
    (encoded : OfferRow.ofOffer offer = .ok row) (year : ¬offer.departAt.HasFourDigitYear) :
    (database.findOffer? offer.offerId.text).mapM OfferRow.decode =
      .error (.notTime offer.departAt.storedText) := by
  refine mapM_eq_error.mpr ⟨row, stored, ?_⟩
  rw [OfferRow.decode_ofOffer encoded, decodeTime_of_not_year year]
  rfl

theorem request_read_of_year (request : RideRequest)
    (stored : database.findRequest? request.requestId.text = some (.ofRequest request))
    (rounded : request.departAt.toMicrosecond = request.departAt)
    (year : request.departAt.HasFourDigitYear) :
    (database.findRequest? request.requestId.text).mapM RequestRow.decode =
      .ok (some request) := by
  refine mapM_eq_ok_some.mpr ⟨_, stored, ?_⟩
  rw [RequestRow.decode_ofRequest, decodeTime_of_year year, rounded]
  rfl

theorem request_unread_of_not_year (request : RideRequest)
    (stored : database.findRequest? request.requestId.text = some (.ofRequest request))
    (year : ¬request.departAt.HasFourDigitYear) :
    (database.findRequest? request.requestId.text).mapM RequestRow.decode =
      .error (.notTime request.departAt.storedText) := by
  refine mapM_eq_error.mpr ⟨_, stored, ?_⟩
  rw [RequestRow.decode_ofRequest, decodeTime_of_not_year year]
  rfl

end Rows

/-! ## Usable and lost rides -/

section Rides

variable {offer : RideOffer} {request : RideRequest}

theorem usableOffer_of_year (reachable : Reachable setup system)
    (published : offer ∈ system.publishedOffers) (year : offer.departAt.HasFourDigitYear) :
    UsableOffer setup system offer where
  reads later reaches given rest := by
    obtain ⟨rounded, row, encoded, stored⟩ := stored_of_publishedOffer reachable reaches published
    obtain ⟨number, -⟩ := OfferRow.ofOffer_eq_ok.mp encoded
    refine ⟨_, offer.fare.sameNumber_withoutNegativeZero number, ?_⟩
    rw [Publishing.getOffer_shape]
    exact Attempt.look_alone_ok rfl (offer_read_of_year stored encoded rounded year) rfl
  joins later reaches caller error failed := by
    have holds := (entitlements_lawful setup).holds (reachable.trans reaches)
    obtain ⟨rounded, row, encoded, stored⟩ := stored_of_publishedOffer reachable reaches published
    rcases holds.kept _ failed _ (.refl holds.formed) with violated | ⟨row, found, undecoded⟩
    · exact violated
    · have unread := mapM_eq_error.mpr ⟨row, found, undecoded⟩
      rw [offer_read_of_year stored encoded rounded year] at unread
      cases unread

theorem usableRequest_of_year (reachable : Reachable setup system)
    (published : request ∈ system.publishedRequests) (year : request.departAt.HasFourDigitYear) :
    UsableRequest setup system request where
  reads later reaches given rest := by
    obtain ⟨rounded, status, leads, stored⟩ :=
      stored_of_publishedRequest reachable reaches published
    refine ⟨status, leads, ?_⟩
    rw [Publishing.getRequest_shape]
    have read := request_read_of_year { request with status } stored rounded year
    exact Attempt.look_alone_ok rfl read rfl
  accepts later reaches caller error failed := by
    have holds := (entitlements_lawful setup).holds (reachable.trans reaches)
    obtain ⟨rounded, status, leads, stored⟩ :=
      stored_of_publishedRequest reachable reaches published
    rcases holds.kept _ failed _ (.refl holds.formed) with violated | ⟨row, found, undecoded⟩
    · exact violated
    · have unread := mapM_eq_error.mpr ⟨row, found, undecoded⟩
      have read := request_read_of_year { request with status } stored rounded year
      cases unread.symm.trans read

theorem lostOffer_of_not_year (reachable : Reachable setup system)
    (published : offer ∈ system.publishedOffers) (year : ¬offer.departAt.HasFourDigitYear) :
    LostOffer setup system offer := by
  intro later reaches given rest
  obtain ⟨-, row, encoded, stored⟩ := stored_of_publishedOffer reachable reaches published
  have unread := offer_unread_of_not_year stored encoded year
  refine ⟨?_, fun caller => ?_⟩
  · rw [Publishing.getOffer_shape]
    exact Attempt.look_alone_error rfl unread
  · rw [Matching.requestToJoin_shape]
    exact Attempt.look_alone_error rfl unread

theorem lostRequest_of_not_year (reachable : Reachable setup system)
    (published : request ∈ system.publishedRequests) (year : ¬request.departAt.HasFourDigitYear) :
    LostRequest setup system request := by
  intro later reaches given rest
  obtain ⟨-, status, -, stored⟩ := stored_of_publishedRequest reachable reaches published
  have unread := request_unread_of_not_year { request with status } stored year
  refine ⟨?_, fun caller => ?_⟩
  · rw [Publishing.getRequest_shape]
    exact Attempt.look_alone_error rfl unread
  · rw [Matching.acceptRideRequest_shape]
    exact Attempt.look_alone_error rfl unread

theorem LostOffer.not_usable (lost : LostOffer setup system offer) :
    ¬UsableOffer setup system offer := by
  intro usable
  obtain ⟨fare, -, read⟩ := usable.reads system (.refl system) (Sample.fresh 0 0) []
  have unread := (lost system (.refl system) (Sample.fresh 0 0) []).1
  cases unread.symm.trans read

theorem LostRequest.not_usable (lost : LostRequest setup system request) :
    ¬UsableRequest setup system request := by
  intro usable
  obtain ⟨status, -, read⟩ := usable.reads system (.refl system) (Sample.fresh 0 0) []
  have unread := (lost system (.refl system) (Sample.fresh 0 0) []).1
  cases unread.symm.trans read

end Rides

/-- A published ride stays usable just if it departs in a year of four digits;
any other is lost from the start. -/
theorem publishedRides_usable_iff (reachable : Reachable setup system) :
    (∀ offer ∈ system.publishedOffers,
      (UsableOffer setup system offer ↔ offer.departAt.HasFourDigitYear) ∧
        (LostOffer setup system offer ↔ ¬offer.departAt.HasFourDigitYear)) ∧
    ∀ request ∈ system.publishedRequests,
      (UsableRequest setup system request ↔ request.departAt.HasFourDigitYear) ∧
        (LostRequest setup system request ↔ ¬request.departAt.HasFourDigitYear) := by
  constructor
  · intro offer published
    have usable := usableOffer_of_year reachable published
    have lost := lostOffer_of_not_year reachable published
    refine ⟨⟨fun used => ?_, usable⟩, fun gone year => gone.not_usable (usable year), lost⟩
    by_contra year
    exact (lost year).not_usable used
  · intro request published
    have usable := usableRequest_of_year reachable published
    have lost := lostRequest_of_not_year reachable published
    refine ⟨⟨fun used => ?_, usable⟩, fun gone year => gone.not_usable (usable year), lost⟩
    by_contra year
    exact (lost year).not_usable used

end System

/-!
## A ride in the year 10000

An offer that departs when no year of four digits is left, and a request that
departs today.
-/

namespace Sample

def farMoment : Instant :=
  ⟨253402300800, 0, by decide, by decide, Instant.epoch.nanosecond_lt, by decide⟩

/-- The draft of an offer for that second, as a client writes it. -/
def farText : String :=
  "\x7b\"from_geo\":\"tdr1w\",\"to_geo\":\"tdr1y\",\"fare\":5.0," ++
    "\"depart_at\":\"+10000-01-01T00:00:00Z\",\"seats\":3\x7d"

def farDraft : OfferDraft :=
  ⟨"tdr1w", "tdr1y", .ofMagnitude false 0x4014000000000000, farMoment, 3⟩

/-- The driver publishes the far offer, and the rider a request for today. -/
def farPublished : List System.Event :=
  signUp 1 "rider@example" ++ signUp 2 "driver@example" ++
    [.arrive (.createOffer driver farDraft), .proceed 0 (fresh 0 0), .proceed 0 (fresh 0 0),
      .proceed 0 (fresh 4 0), .arrive (.createRequest rider ⟨"A", "B", moment, 2⟩),
      .proceed 1 (fresh 0 0), .proceed 1 (fresh 0 0), .proceed 1 (fresh 5 0)]

end Sample

namespace System

/-- The offer in the year 10000 is lost, and the request of today is usable. -/
theorem farPublished_usable :
    ∃ system offer request,
      run (Sample.setup .participants) initial Sample.farPublished = some system ∧
      system.publishedOffers = [offer] ∧ system.publishedRequests = [request] ∧
      LostOffer (Sample.setup .participants) system offer ∧
      UsableRequest (Sample.setup .participants) system request := by
  obtain ⟨system, ran, published⟩ := Option.map_eq_some_iff.mp
    (by decide +kernel : (run (Sample.setup .participants) initial Sample.farPublished).map
      (fun system => (system.publishedOffers, system.publishedRequests)) =
        some ([⟨Sample.uuid 4, some (Sample.uuid 2), "tdr1w", "tdr1y", Sample.farDraft.fare,
            Sample.farMoment, 3, .active⟩],
          [⟨Sample.uuid 5, Sample.uuid 1, "A", "B", Sample.moment, 2, .active⟩]))
  obtain ⟨offers, requests⟩ := Prod.mk.inj published
  have ⟨ofOffers, ofRequests⟩ := publishedRides_usable_iff ⟨Sample.farPublished, ran⟩
  refine ⟨system, _, _, ran, offers, requests, ?_, ?_⟩
  · exact (ofOffers _ (by simp [offers])).2.mpr (by unfold Instant.HasFourDigitYear; decide)
  · exact (ofRequests _ (by simp [requests])).1.mpr (by unfold Instant.HasFourDigitYear; decide)

/-- A client can submit the offer in the year 10000; it is published, and then
nobody can look it up. -/
theorem farText_published_unread :
    OfferDraft.form.ofOctets (Octets.ofText Sample.farText) = .ok Sample.farDraft ∧
      ∃ system offer, run (Sample.setup .participants) initial Sample.farPublished = some system ∧
        system.publishedOffers = [offer] ∧
        ((Publishing.getOffer offer.offerId : Call (Except Failure RideOffer)).alone
            [Sample.fresh 0 0] system.database).map Prod.fst =
          some (.error (.store (.notTime "+10000-01-01T00:00:00.000000Z"))) := by
  refine ⟨by decide +kernel, ?_⟩
  obtain ⟨system, ran, seen⟩ := Option.map_eq_some_iff.mp
    (by decide +kernel : (run (Sample.setup .participants) initial Sample.farPublished).map
      (fun system => (system.publishedOffers,
        ((Publishing.getOffer (Sample.uuid 4) : Call (Except Failure RideOffer)).alone
          [Sample.fresh 0 0] system.database).map Prod.fst)) =
        some ([⟨Sample.uuid 4, some (Sample.uuid 2), "tdr1w", "tdr1y", Sample.farDraft.fare,
            Sample.farMoment, 3, .active⟩],
          some (.error (.store (.notTime "+10000-01-01T00:00:00.000000Z")))))
  obtain ⟨published, unread⟩ := Prod.mk.inj seen
  exact ⟨system, _, ran, published, unread⟩

end System

end Carpool
