import Carpool.Proofs.Server.Visible
import Carpool.Proofs.Service.Creation
import Carpool.Proofs.Service.Publishing
import Carpool.Proofs.Store.Rides

/-!
# Only sound rides are stored

As long as nobody but the services writes to the store, every stored ride leads
from one place to another and has a seat, and every fare can be asked.  Each of
them was published by its owner with a draft without flaws, or comes with the
acceptance of a request and is that ride.
-/

namespace Carpool

open Store

theorem Instant.isBefore_toMicrosecond {first second : Instant}
    (follows : first.isBefore second = false) :
    first.toMicrosecond.isBefore second.toMicrosecond = false := by
  simp only [Instant.isBefore, Bool.or_eq_false_iff, Bool.and_eq_false_iff,
    decide_eq_false_iff_not, beq_eq_false_iff_ne] at follows ⊢
  simp only [Instant.toMicrosecond, Instant.truncate]
  omega

namespace Server

/-- A call that is to carry out an operation has come. -/
def Came (config : ServerConfig) (events : List Event) (number : Nat) (action : Operation) : Prop :=
  ∃ errand gate, .arrive number errand ∈ events ∧ Performs config errand gate action

/-! ## Where rides come from -/

/-- A caller has published an offer: when the clock was read, the draft had no
flaw, and it was stored as it was, but for the blanks around its places and what
is below a microsecond in its time. -/
structure PublishedOffer (config : ServerConfig) (events : List Event) (row : OfferRow)
    (number : Nat) (caller : Identity) (draft : OfferDraft) (now : Instant) : Prop where
  came : Came config events number (.createOffer caller draft)
  told : .tell number now ∈ events
  flawless : ∀ flaw, ¬draft.Has now flaw
  stored : ∃ offer : RideOffer, OfferRow.ofOffer offer = .ok row ∧
    offer.driverId = some caller.subject ∧ offer.status = .active ∧
    offer.fromGeo = Text.trim draft.fromGeo ∧ offer.toGeo = Text.trim draft.toGeo ∧
    offer.fare = draft.fare ∧ offer.seats = draft.seats ∧
    offer.departAt = draft.departAt.toMicrosecond ∧
    offer.departAt.isBefore now.toMicrosecond = false

/-- The same for a request, whose status may have moved on since. -/
structure PublishedRequest (config : ServerConfig) (events : List Event) (row : RequestRow)
    (number : Nat) (caller : Identity) (draft : RequestDraft) (now : Instant) : Prop where
  came : Came config events number (.createRequest caller draft)
  told : .tell number now ∈ events
  flawless : ∀ flaw, ¬draft.Has now flaw
  stored : ∃ (request : RideRequest) (status : String),
    row = (RequestRow.ofRequest request).withStatus status ∧
    request.userId = caller.subject ∧ request.status = .active ∧
    request.fromGeo = Text.trim draft.fromGeo ∧ request.toGeo = Text.trim draft.toGeo ∧
    request.seats = draft.seats ∧ request.departAt = draft.departAt.toMicrosecond ∧
    request.departAt.isBefore now.toMicrosecond = false

/-- An offer has come with the acceptance of a stored request, and is for the
ride that was asked for. -/
structure AcceptedOffer (config : ServerConfig) (events : List Event) (database : Database)
    (row : OfferRow) (number : Nat) (caller : Identity) (id : Uuid) : Prop where
  came : Came config events number (.acceptRideRequest caller id)
  driver : row.driverId = some caller.subject.text
  request : ∃ request ∈ database.requestRows, request.requestId = some id.text ∧
    row.fromGeo = request.fromGeo ∧ row.toGeo = request.toGeo ∧
    row.departAt = request.departAt ∧ row.seats = request.seats

/-! ## How publishing ends -/

/-- A call has looked up the account of its caller, and there was none. -/
def FindsNobody (server : Server) (number : Nat) (caller : Identity) : Prop :=
  ∃ receipt ∈ server.receiptsOf number, receipt.job = .getUser caller.subject ∧
    receipt.before.findUser? caller.subject.text = none

/-- Publishing is refused as invalid just where the draft has a flaw or the caller
has no account, and then stores nothing. -/
structure Verdict {α : Type} (server : Server) (number : Nat) (caller : Identity)
    (stranger : Flaw) (has : Flaw → Prop) (outcome : Except Failure α) : Prop where
  invalid_iff : (∃ flaw, outcome = .error (.invalid flaw)) ↔
    (∃ flaw, has flaw) ∨ server.FindsNobody number caller
  names : ∀ flaw, outcome = .error (.invalid flaw) →
    has flaw ∨ flaw = stranger ∧ server.FindsNobody number caller
  storesNothing : ∀ flaw, outcome = .error (.invalid flaw) →
    ∀ receipt ∈ server.receiptsOf number, receipt.after = receipt.before

structure RidesSound (config : ServerConfig) (events : List Event) (server : Server) : Prop where
  offers : ∀ row ∈ server.database.offerRows, row.Sound ∧
    ((∃ number caller draft now, PublishedOffer config events row number caller draft now) ∨
      ∃ number caller id, AcceptedOffer config events server.database row number caller id)
  requests : ∀ row ∈ server.database.requestRows, row.Sound ∧
    ∃ number caller draft now, PublishedRequest config events row number caller draft now
  offering : ∀ {number : Nat} {caller : Identity} {draft : OfferDraft}
    {outcome : Except Failure RideOffer},
    server.slots number = some ⟨.operation (.createOffer caller draft), .going (.done outcome)⟩ →
    ∃ now, .tell number now ∈ events ∧
      Verdict server number caller .unknownDriver (draft.Has now) outcome
  requesting : ∀ {number : Nat} {caller : Identity} {draft : RequestDraft}
    {outcome : Except Failure RideRequest},
    server.slots number = some ⟨.operation (.createRequest caller draft), .going (.done outcome)⟩ →
    ∃ now, .tell number now ∈ events ∧
      Verdict server number caller .unknownUser (draft.Has now) outcome

/-- Nobody but the services writes to the store. -/
def ServicesOnly (events : List Event) : Prop :=
  ∀ number errand, .arrive number errand ∈ events → IsService errand

variable {config : ServerConfig} {events : List Event} {server : Server}

/-! ## Published rides -/

theorem PublishedOffer.sound {row : OfferRow} {number : Nat} {caller : Identity}
    {draft : OfferDraft} {now : Instant}
    (published : PublishedOffer config events row number caller draft now) : row.Sound := by
  obtain ⟨offer, encoded, -, -, origin, destination, fare, seats, -⟩ := published.stored
  obtain ⟨-, rfl⟩ := OfferRow.ofOffer_eq_ok.mp encoded
  have priced : draft.fare.IsFare := by
    by_contra bad
    exact published.flawless _ (.fare bad)
  refine ⟨?_, _, rfl, ?_⟩
  · dsimp only
    rw [origin, destination, seats]
    exact .of_drafted fun flaw flawed => published.flawless flaw (.ride flawed)
  · rw [fare]
    exact priced.withoutNegativeZero

theorem PublishedRequest.sound {row : RequestRow} {number : Nat} {caller : Identity}
    {draft : RequestDraft} {now : Instant}
    (published : PublishedRequest config events row number caller draft now) : row.Sound := by
  obtain ⟨request, status, rfl, -, -, origin, destination, seats, -⟩ := published.stored
  change SoundRoute request.fromGeo request.toGeo (.integer request.seats.toNat)
  rw [origin, destination, seats]
  exact .of_drafted published.flawless

theorem came_of_receipts (ran : run config (opening .empty) events = some server)
    (services : ServicesOnly events) {earlier later : List Receipt} {receipt : Receipt}
    (split : server.receipts = earlier ++ receipt :: later) :
    ∃ action transcript next, Came config events receipt.number action ∧
      (action.call config.setup).Leads transcript (.ask (.store receipt.job) next) ∧
      Recorded events receipt.number
        (earlier.filter fun other => other.number = receipt.number) transcript := by
  have arrived := (asked_of_receipts ran split).1
  obtain ⟨action, gate, transcript, next, performs, leads, recorded⟩ :=
    performs_of_receipts ran split (services _ _ arrived)
  exact ⟨action, transcript, next, ⟨_, gate, arrived, performs⟩, leads, recorded⟩

/-- A stored request was published. -/
theorem exists_publishedRequest (ran : run config (opening .empty) events = some server)
    (services : ServicesOnly events) {row : RequestRow} (has : server.settled.HasRequest row) :
    ∃ number caller draft now, PublishedRequest config events row number caller draft now := by
  obtain ⟨earlier, receipt, later, split, before, after⟩ :=
    (carriedOut ran).chained.exists_turn (motive := fun database => database.HasRequest row)
      (by simp [Database.HasRequest, Database.empty]) has
  obtain ⟨input, status, creates, made⟩ :=
    (effect_of_receipts ran (by simp [split])).created_of_hasRequest before after
  obtain ⟨number, errand, job, fresh, answer, _, _⟩ := receipt
  obtain rfl : job = _ := creates
  obtain ⟨action, transcript, next, came, leads, recorded⟩ := came_of_receipts ran services split
  obtain ⟨caller, draft, rfl⟩ := Operation.mayAsk_of_leads leads
  obtain ⟨now, user, passed, rfl⟩ := Publishing.checked_of_createRequest leads
  obtain ⟨flawless, rfl⟩ := RequestDraft.publish_eq_ok passed
  have stored := congrArg (fun stored => RequestRow.withStatus stored row.status) made
  refine ⟨number, caller, draft, now, came, recorded.of_clock.1, flawless, _, row.status, stored,
    rfl, rfl, rfl, rfl, rfl, rfl, Instant.isBefore_toMicrosecond ?_⟩
  by_contra past
  exact flawless _ (.past (by simpa using past))

/-- A request that was read is stored from then on. -/
theorem hasRequest_of_read (ran : run config (opening .empty) events = some server)
    {caller : Nat} {errand : Errand} {id : Uuid} {fresh : Fresh} {request : RideRequest}
    {before after : Database}
    (member : ⟨caller, errand, .getRequest id, fresh, some (.ok (some request)), before, after⟩ ∈
      server.receipts) :
    request.requestId = id ∧ server.database.HasRequest (.ofRequest request) := by
  obtain ⟨patience, carried⟩ : ∃ patience, (Job.getRequest id).runWhile fresh patience before =
      (some (.ok (some request)), after) := (carriedOut ran).ran _ member
  obtain ⟨read, rfl⟩ := Job.of_read rfl carried
  have formed : after.WellFormed :=
    (kept_throughout (fun effect => effect.wellFormed) ran .empty).1 _ member
  obtain ⟨identified, found⟩ := formed.of_getRequest read.symm
  obtain ⟨earlier, later, split⟩ := List.append_of_mem member
  refine ⟨identified, (kept_since (fun effect => effect.hasRequest) ran split ?_).2⟩
  exact Database.hasRequest_of_mem (Database.mem_of_find? found).1

/-- A stored offer was published, or came with the acceptance of a request. -/
theorem exists_publishedOffer (ran : run config (opening .empty) events = some server)
    (services : ServicesOnly events) {row : OfferRow} (member : row ∈ server.settled.offerRows) :
    (∃ number caller draft now, PublishedOffer config events row number caller draft now) ∨
      ∃ number caller request fresh,
        Came config events number (.acceptRideRequest caller request.requestId) ∧
        server.database.HasRequest (.ofRequest request) ∧
        OfferRow.ofOffer (Fresh.accepted fresh (.ofRequest request caller.subject)).offer =
          .ok row := by
  obtain ⟨earlier, receipt, later, split, before, after⟩ :=
    (carriedOut ran).chained.exists_turn (motive := fun database => row ∈ database.offerRows)
      (by simp [Database.empty]) member
  have effect := effect_of_receipts ran (by simp [split] : receipt ∈ server.receipts)
  obtain ⟨input, creates, encoded⟩ | ⟨acceptance, accepts, encoded⟩ :=
    effect.stored_of_mem_offers before after
  · obtain ⟨number, errand, job, fresh, answer, _, _⟩ := receipt
    obtain rfl : job = _ := creates
    obtain ⟨action, transcript, next, came, leads, recorded⟩ := came_of_receipts ran services split
    obtain ⟨caller, draft, rfl⟩ := Operation.mayAsk_of_leads leads
    obtain ⟨now, user, passed, rfl⟩ := Publishing.checked_of_createOffer leads
    obtain ⟨flawless, rfl⟩ := OfferDraft.publish_eq_ok passed
    refine .inl ⟨number, caller, draft, now, came, recorded.of_clock.1, flawless, _, encoded, rfl,
      rfl, rfl, rfl, rfl, rfl, rfl, Instant.isBefore_toMicrosecond ?_⟩
    by_contra past
    exact flawless _ (.ride (.past (by simpa using past)))
  · obtain ⟨number, errand, job, fresh, answer, _, _⟩ := receipt
    obtain rfl : job = _ := accepts
    obtain ⟨action, transcript, next, came, leads, recorded⟩ := came_of_receipts ran services split
    obtain ⟨caller, id, rfl⟩ := Operation.mayAsk_of_leads leads
    obtain ⟨request, rfl, -, -, rfl⟩ := Matching.read_of_acceptRideRequest leads
    obtain ⟨_, _, _, _, _, rest, own, -⟩ := recorded.of_store
    have listed := (List.mem_filter.mp (own ▸ List.mem_cons_self)).1
    obtain ⟨rfl, has⟩ := hasRequest_of_read ran (split ▸ List.mem_append_left _ listed)
    exact .inr ⟨number, caller, request, fresh, came, has, encoded⟩

theorem seats_ofRequest {request : RideRequest} (driver : Uuid)
    (free : 1 ≤ request.seats.toNat) :
    (Acceptance.ofRequest request driver).seats = request.seats := by
  change (if request.seats ≤ 1 then 1 else request.seats) = request.seats
  split
  · rename_i least
    exact UInt32.toNat_inj.mp (le_antisymm free (UInt32.le_iff_toNat_le.mp least))
  · rfl

/-- The offer that comes with the acceptance of a sound request is sound, and is
the ride of the request. -/
theorem acceptedOffer_of_request {row : OfferRow} {request : RideRequest} {fresh : Fresh}
    {number : Nat} {caller : Identity}
    (came : Came config events number (.acceptRideRequest caller request.requestId))
    (has : server.database.HasRequest (.ofRequest request))
    (sound : (RequestRow.ofRequest request).Sound)
    (encoded : OfferRow.ofOffer (fresh.accepted (.ofRequest request caller.subject)).offer =
      .ok row) :
    row.Sound ∧
      AcceptedOffer config events server.database row number caller request.requestId := by
  obtain ⟨-, rfl⟩ := OfferRow.ofOffer_eq_ok.mp encoded
  have seats : (Acceptance.ofRequest request caller.subject).seats = request.seats := by
    obtain ⟨count, counted, free⟩ := sound.seats
    have same : (request.seats.toNat : Int) = count := Cell.integer.inj counted
    exact seats_ofRequest caller.subject (by omega)
  obtain ⟨status, stored⟩ := has
  refine ⟨⟨?_, Binary64.zero.withoutNegativeZero, rfl, Binary64.isFare_zero.withoutNegativeZero⟩,
    came, rfl, _, stored, rfl, rfl, rfl, ?_, ?_⟩
  · change SoundRoute request.fromGeo request.toGeo
      (.integer (Acceptance.ofRequest request caller.subject).seats.toNat)
    rw [seats]
    exact sound
  · exact Instant.storedText_toMicrosecond request.departAt
  · exact congrArg (fun seats : UInt32 => Cell.integer seats.toNat) seats

/-! ## Refusals -/

section Refusals

variable {α β : Type} {number : Nat} {caller : Identity} {check : Instant → Except Flaw α}
  {stranger : Flaw} {write : α → Call (Except Failure β)} {has : Instant → Flaw → Prop}

/-- What writes, when publishing has come so far, ends with one job that is no
lookup of a user, and is not refused as invalid. -/
def WritesAtOnce (write : Call (Except Failure β)) : Prop :=
  ∀ later outcome, write.Leads later (.done outcome) →
    (∃ job answer, later = [.store job answer] ∧ ∀ id, job ≠ .getUser id) ∧
      ∀ flaw, outcome ≠ .error (.invalid flaw)

theorem writesAtOnce_close {job : Job} (other : ∀ id, job ≠ .getUser id) :
    WritesAtOnce (Attempt.close Failure.store job) := by
  intro later outcome leads
  obtain ⟨-, same⟩ | ⟨answer, rfl, same⟩ := leads.of_close
  · cases same
  · obtain rfl := Call.done.inj same
    refine ⟨⟨job, answer, rfl, other⟩, fun flaw invalid => ?_⟩
    cases answer <;> cases invalid

theorem answer_of_getUser (ran : run config (opening .empty) events = some server) {asker : Nat}
    {errand : Errand} {id : Uuid} {fresh : Fresh} {answer : Except StoreError (Option User)}
    {before after : Database}
    (member : ⟨asker, errand, .getUser id, fresh, some answer, before, after⟩ ∈ server.receipts) :
    (answer = .ok none ↔ before.findUser? id.text = none) ∧ after = before := by
  obtain ⟨patience, carried⟩ :
      ∃ patience, (Job.getUser id).runWhile fresh patience before = (some answer, after) :=
    (carriedOut ran).ran _ member
  obtain ⟨read, same⟩ := Job.of_read rfl carried
  rw [read]
  exact ⟨mapM_eq_ok_none, same⟩

theorem verdict_of_course (ran : run config (opening .empty) events = some server)
    {transcript : List Exchange} {outcome : Except Failure β}
    (course : Publishing.Course caller check stranger write transcript (.done outcome))
    (recorded : Recorded events number (server.receiptsOf number) transcript)
    (passes : ∀ {now input}, check now = .ok input → ∀ flaw, ¬has now flaw)
    (fails : ∀ {now flaw}, check now = .error flaw → has now flaw)
    (writes : ∀ input, WritesAtOnce (write input)) :
    ∃ now, .tell number now ∈ events ∧
      Verdict server number caller stranger (has now) outcome := by
  cases course with
  | @flawed now flaw failed =>
      obtain ⟨told, ended⟩ := recorded.of_clock
      have own := ended.own_eq_nil
      refine ⟨now, told, iff_of_true ⟨flaw, rfl⟩ (.inl ⟨flaw, fails failed⟩), ?_, ?_⟩
      · intro other same
        cases same
        exact .inl (fails failed)
      · intro other same receipt member
        rw [own] at member
        cases member
  | @unread now input passed error =>
      obtain ⟨told, sought⟩ := recorded.of_clock
      obtain ⟨_, _, _, before, after, rest, own, ended⟩ := sought.of_store
      obtain rfl := ended.own_eq_nil
      have read := (answer_of_getUser ran (mem_receipts_of_own own)).1
      refine ⟨now, told, iff_of_false nofun ?_, nofun, nofun⟩
      rintro (⟨flaw, flawed⟩ | ⟨receipt, member, -, unknown⟩)
      · exact passes passed flaw flawed
      · rw [own] at member
        obtain rfl := List.mem_singleton.mp member
        cases read.mpr unknown
  | @unknown now input passed =>
      obtain ⟨told, sought⟩ := recorded.of_clock
      obtain ⟨_, _, _, before, after, rest, own, ended⟩ := sought.of_store
      obtain rfl := ended.own_eq_nil
      have read := answer_of_getUser ran (mem_receipts_of_own own)
      have nobody : server.FindsNobody number caller :=
        ⟨_, own ▸ List.mem_cons_self, rfl, read.1.mp rfl⟩
      refine ⟨now, told, iff_of_true ⟨stranger, rfl⟩ (.inr nobody), ?_, ?_⟩
      · intro flaw same
        cases same
        exact .inr ⟨rfl, nobody⟩
      · intro flaw same receipt member
        rw [own] at member
        obtain rfl := List.mem_singleton.mp member
        exact read.2
  | @writes now input user later rest passed leads =>
      obtain ⟨⟨job, answer, rfl, other⟩, valid⟩ := writes input _ _ leads
      obtain ⟨told, sought⟩ := recorded.of_clock
      obtain ⟨_, _, _, before, after, rest, own, made⟩ := sought.of_store
      obtain ⟨_, _, _, _, _, last, rfl, ended⟩ := made.of_store
      obtain rfl := ended.own_eq_nil
      have read := (answer_of_getUser ran (mem_receipts_of_own own)).1
      refine ⟨now, told, iff_of_false (fun ⟨flaw, same⟩ => valid flaw same) ?_,
        fun flaw same => absurd same (valid flaw), fun flaw same => absurd same (valid flaw)⟩
      rintro (⟨flaw, flawed⟩ | ⟨receipt, member, asks, unknown⟩)
      · exact passes passed flaw flawed
      · rw [own] at member
        obtain rfl | member := List.mem_cons.mp member
        · cases read.mpr unknown
        · obtain rfl := List.mem_singleton.mp member
          exact other _ asks

end Refusals

/-! ## All of it -/

section Extra

variable {extra : List Event} (works : ∀ event ∈ extra, event = .work)

include works

theorem mem_of_extra {event : Event} (member : event ∈ events ++ extra) (other : event ≠ .work) :
    event ∈ events :=
  (List.mem_append.mp member).resolve_right fun added => other (works event added)

theorem Came.of_extra {number : Nat} {action : Operation}
    (came : Came config (events ++ extra) number action) : Came config events number action := by
  obtain ⟨errand, gate, arrived, performs⟩ := came
  exact ⟨errand, gate, mem_of_extra works arrived nofun, performs⟩

theorem servicesOnly_extra (services : ServicesOnly events) : ServicesOnly (events ++ extra) :=
  fun number errand arrived => services number errand (mem_of_extra works arrived nofun)

end Extra

theorem sound_of_requests (ran : run config (opening .empty) events = some server)
    (services : ServicesOnly events) {row : RequestRow} (has : server.database.HasRequest row) :
    row.Sound ∧
      ∃ number caller draft now, PublishedRequest config events row number caller draft now := by
  obtain ⟨extra, last, works, ranOn, -, settles, -⟩ := exists_settled ran
  obtain ⟨number, caller, draft, now, published⟩ :=
    exists_publishedRequest ranOn (servicesOnly_extra works services) (settles ▸ has)
  exact ⟨published.sound, number, caller, draft, now, published.came.of_extra works,
    mem_of_extra works published.told nofun, published.flawless, published.stored⟩

theorem sound_of_offers (ran : run config (opening .empty) events = some server)
    (services : ServicesOnly events) {row : OfferRow} (member : row ∈ server.database.offerRows) :
    row.Sound ∧
      ((∃ number caller draft now, PublishedOffer config events row number caller draft now) ∨
        ∃ number caller id,
          AcceptedOffer config events server.database row number caller id) := by
  obtain ⟨extra, last, works, ranOn, same, settles, -⟩ := exists_settled ran
  obtain ⟨number, caller, draft, now, published⟩ | ⟨number, caller, request, fresh, came, has,
    encoded⟩ := exists_publishedOffer ranOn (servicesOnly_extra works services) (settles ▸ member)
  · exact ⟨published.sound, .inl ⟨number, caller, draft, now, published.came.of_extra works,
      mem_of_extra works published.told nofun, published.flawless, published.stored⟩⟩
  · rw [same] at has
    obtain ⟨sound, accepted⟩ := acceptedOffer_of_request (came.of_extra works) has
      (sound_of_requests ran services has).1 encoded
    exact ⟨sound, .inr ⟨number, caller, _, accepted⟩⟩

/-- In every run of the services from the empty store, only sound rides are
stored. -/
theorem only_sound_rides (ran : run config (opening .empty) events = some server)
    (services : ServicesOnly events) : RidesSound config events server where
  offers row member := sound_of_offers ran services member
  requests row member := sound_of_requests ran services (Database.hasRequest_of_mem member)
  offering {number caller draft outcome} going := by
    obtain ⟨transcript, leads, recorded⟩ := leads_of_going ran going
    change Call.Leads (Publishing.createOffer caller draft) transcript (.done outcome) at leads
    rw [Publishing.createOffer_shape] at leads
    refine verdict_of_course ran (Publishing.course_of_leads leads) recorded ?_ ?_ ?_
    · exact fun passed => (OfferDraft.publish_eq_ok passed).1
    · exact OfferDraft.publish_eq_error
    · exact fun input => writesAtOnce_close fun id => nofun
  requesting {number caller draft outcome} going := by
    obtain ⟨transcript, leads, recorded⟩ := leads_of_going ran going
    change Call.Leads (Publishing.createRequest caller draft) transcript (.done outcome) at leads
    rw [Publishing.createRequest_shape] at leads
    refine verdict_of_course ran (Publishing.course_of_leads leads) recorded ?_ ?_ ?_
    · exact fun passed => (RequestDraft.publish_eq_ok passed).1
    · exact RequestDraft.publish_eq_error
    · exact fun input => writesAtOnce_close fun id => nofun

end Server

namespace Sample

/-- The rider publishes a request, with blanks around a place, the driver accepts
it, and then drafts an offer that leads nowhere. -/
def ridden : List Server.Event :=
  [.arrive 1 (.operation (.login "rider")), .report 1 (verified "rider@example")] ++
    serve 1 0 0 2 ++ serve 1 1 0 4 ++ [.tell 1 moment,
    .arrive 2 (.operation (.login "driver")), .report 2 (verified "driver@example")] ++
    serve 2 0 0 2 ++ serve 2 2 0 4 ++ [.tell 2 moment,
    .arrive 3 (.operation (.createRequest rider ⟨" A ", "B", moment, 2⟩)), .tell 3 moment] ++
    serve 3 0 0 2 ++ serve 3 3 0 4 ++
    [.arrive 4 (.operation (.acceptRideRequest driver (uuid 3)))] ++
    serve 4 0 0 2 ++ serve 4 4 5 9 ++
    [.arrive 5 (.operation (.createOffer driver ⟨"A", " ", .notANumber, moment, 0⟩)),
      .tell 5 moment]

end Sample

namespace Server

/-- The request is stored as a ride from A to B, and so is the offer that comes
with its acceptance. -/
theorem ridden_only_sound_rides :
    ∃ server, run Sample.config (opening .empty) Sample.ridden = some server ∧
      (server.database.requestRows.map fun row => (row.fromGeo, row.toGeo, row.seats)) =
        [("A", "B", .integer 2)] ∧
      (server.database.offerRows.map fun row => (row.fromGeo, row.toGeo, row.seats)) =
        [("A", "B", .integer 2)] ∧
      ServicesOnly Sample.ridden ∧ RidesSound Sample.config Sample.ridden server := by
  have stored : ((run Sample.config (opening .empty) Sample.ridden).map fun server =>
      (server.database.requestRows.map fun row => (row.fromGeo, row.toGeo, row.seats),
        server.database.offerRows.map fun row => (row.fromGeo, row.toGeo, row.seats))) =
      some ([("A", "B", .integer 2)], [("A", "B", .integer 2)]) := by
    decide +kernel
  have services : ServicesOnly Sample.ridden := by
    intro number errand arrived
    simp [Sample.ridden, Sample.serve] at arrived
    obtain ⟨-, rfl⟩ | ⟨-, rfl⟩ | ⟨-, rfl⟩ | ⟨-, rfl⟩ | ⟨-, rfl⟩ := arrived <;> trivial
  obtain ⟨server, ran, found⟩ := Option.map_eq_some_iff.mp stored
  obtain ⟨requests, offers⟩ := Prod.mk.inj found
  exact ⟨server, ran, requests, offers, services, only_sound_rides ran services⟩

end Server

end Carpool
