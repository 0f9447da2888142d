import Carpool.Proofs.Service.Grounding
import Carpool.Proofs.Store.Reading
import Carpool.Proofs.Store.References

/-!
# Relational integrity

Calls run in any interleaving, and between any two of their steps rows may be
removed past the services.  Identifiers and addresses stay unique, every
reference names a row that is there, and the driver of an offer is nobody or the
driver of each match on it.
-/

namespace Carpool

open Store

/-! ## Tracing offers and matches -/

/-- Offers and matches go back to the offers that have been made.  An offer has
lost its driver only if that can have happened. -/
structure Traced (bereft : Prop) (made : List RideOffer) (database : Database) : Prop where
  offers : ∀ row ∈ database.offerRows, ∃ offer ∈ made,
    row.offerId = some offer.offerId.text ∧
      (row.driverId = offer.driverId.map Uuid.text ∨ bereft ∧ row.driverId = none)
  pairings : ∀ row ∈ database.matchRows, ∃ ride driver,
    Drove made ride driver ∧ row.rideId = ride.text ∧ row.driverId = driver.text

namespace Traced

variable {bereft : Prop} {made : List RideOffer} {before after : Database}

theorem empty : Traced bereft made .empty := by
  constructor <;> simp [Database.empty]

theorem later {more : List RideOffer} (traced : Traced bereft made before)
    (grown : made ⊆ more) : Traced bereft more before where
  offers row member := by
    obtain ⟨offer, old, same⟩ := traced.offers row member
    exact ⟨offer, grown old, same⟩
  pairings row member := by
    obtain ⟨ride, driver, drove, same⟩ := traced.pairings row member
    exact ⟨ride, driver, drove.later grown, same⟩

theorem of_same (traced : Traced bereft made before)
    (offers : after.offerRows = before.offerRows)
    (pairings : after.matchRows = before.matchRows) : Traced bereft made after where
  offers := offers ▸ traced.offers
  pairings := pairings ▸ traced.pairings

theorem weaken {possible : Prop} (traced : Traced bereft made before)
    (more : bereft → possible) : Traced possible made before :=
  { traced with
    offers := fun row member => by
      obtain ⟨offer, old, keyed, driver⟩ := traced.offers row member
      exact ⟨offer, old, keyed, driver.imp_right (And.imp_left more)⟩ }

theorem insertOffer {offer : RideOffer} {row : OfferRow} (traced : Traced bereft made before)
    (member : offer ∈ made) (encoded : OfferRow.ofOffer offer = .ok row)
    (inserted : before.insertOffer row = .ok after) : Traced bereft made after := by
  obtain ⟨-, -, rfl⟩ := Database.insertOffer_eq_ok.mp inserted
  refine { traced with offers := ?_ }
  intro other otherMember
  rcases List.mem_append.mp otherMember with old | new
  · exact traced.offers other old
  · rw [List.mem_singleton.mp new]
    obtain ⟨-, rfl⟩ := OfferRow.ofOffer_eq_ok.mp encoded
    exact ⟨offer, member, rfl, .inl rfl⟩

theorem insertMatch {record : Match} (traced : Traced bereft made before)
    (drove : Drove made record.rideId record.driverId)
    (inserted : before.insertMatch (.ofMatch record) = .ok after) : Traced bereft made after := by
  obtain ⟨-, -, -, rfl⟩ := Database.insertMatch_eq_ok.mp inserted
  refine { traced with pairings := ?_ }
  intro other otherMember
  rcases List.mem_append.mp otherMember with old | new
  · exact traced.pairings other old
  · rw [List.mem_singleton.mp new]
    exact ⟨_, _, drove, rfl, rfl⟩

theorem changeMatches {test : MatchRow → Bool} {status : String}
    (traced : Traced bereft made before)
    (changed : after = { before with matchRows :=
      (Database.changeWhere test (fun row => { row with status := status }) before.matchRows).1 }) :
    Traced bereft made after := by
  subst changed
  refine { traced with pairings := ?_ }
  intro row member
  obtain ⟨old, stored, rfl⟩ := Database.mem_changeWhere.mp member
  split <;> exact traced.pairings old stored

/-- Removing rows is all right; with a user the drivers of offers may go. -/
theorem remove (traced : Traced bereft made before) (table : Table) (id : String)
    (possible : table = .users → bereft) : Traced bereft made (before.remove table id).1 := by
  cases table with
  | rideRequests => exact traced.of_same rfl rfl
  | «matches» =>
      exact { traced with
        pairings := fun row member => traced.pairings row (List.mem_filter.mp member).1 }
  | rideOffers =>
      exact {
        offers := fun row member => traced.offers row (List.mem_filter.mp member).1
        pairings := fun row member => traced.pairings row (List.mem_filter.mp member).1 }
  | users =>
      refine { offers := ?_, pairings := traced.pairings }
      intro row member
      obtain ⟨old, stored, rfl⟩ := List.mem_map.mp member
      obtain ⟨offer, oldOffer, keyed, driver⟩ := traced.offers old stored
      split
      · exact ⟨offer, oldOffer, keyed, .inr ⟨possible rfl, rfl⟩⟩
      · exact ⟨offer, oldOffer, keyed, driver⟩

end Traced

/-! ## One job -/

variable {bereft : Prop} {made : List RideOffer} {before after : Database} {fresh : Fresh}

/-- A job that the calls ask for keeps the tables traced to the offers that have
been made, its own included. -/
theorem Store.Effect.traced {job : Job} {answer : Option (Except StoreError job.Result)}
    (effect : Effect fresh before job answer after) (operation : Operation)
    (grounded : job.Grounded made) (traced : Traced bereft made before) :
    Traced bereft
      (made ++ (Entry.madeOffer? ⟨operation, job, fresh, answer, before, after⟩).toList) after := by
  have old := traced.later (List.subset_append_left made
    (Entry.madeOffer? ⟨operation, job, fresh, answer, before, after⟩).toList)
  have frame := effect.frame
  cases effect with
  | read look planned => exact old
  | abandoned => exact old
  | refused violation => exact old
  | declined acceptance => exact old
  | userCreated input after inserted => exact old.of_same (frame.offers id) (frame.pairings id)
  | requestCreated input after inserted => exact old.of_same (frame.offers id) (frame.pairings id)
  | seenSwapped id expected new => exact old.of_same rfl rfl
  | requestSwapped id expected new => exact old.of_same rfl rfl
  | matchSwapped id expected new => exact old.changeMatches rfl
  | matchForced id new => exact old.changeMatches rfl
  | offerCreated input row after encoded inserted =>
      exact old.insertOffer (List.mem_append_right _ (List.mem_singleton_self _)) encoded inserted
  | matchCreated input after inserted =>
      have drove : Drove made input.rideId input.driverId := grounded
      exact old.insertMatch (drove.later (List.subset_append_left _ _)) inserted
  | accepted acceptance after committed =>
      obtain ⟨row, offered, paired, encoded, offering, pairing, -, rfl⟩ :=
        Database.accept_eq_ok committed
      have new : (fresh.accepted acceptance).offer ∈ made ++ [(fresh.accepted acceptance).offer] :=
        List.mem_append_right _ (List.mem_singleton_self _)
      have offer := old.insertOffer new encoded offering
      have pair := offer.insertMatch ⟨_, new, rfl, rfl⟩ pairing
      exact pair.of_same rfl rfl

/-- A job leaves the identifiers of offers as they are, but for the offer that it
makes. -/
theorem Store.Effect.offerIds {job : Job} {answer : Option (Except StoreError job.Result)}
    (effect : Effect fresh before job answer after) (operation : Operation) :
    after.offerRows.map OfferRow.offerId =
      before.offerRows.map OfferRow.offerId ++
        ((Entry.madeOffer? ⟨operation, job, fresh, answer, before, after⟩).toList.map
          fun offer => some offer.offerId.text) := by
  have frame := effect.frame
  cases effect with
  | read look planned =>
      cases job with
      | createOffer input => cases planned
      | acceptRideRequest acceptance => cases planned
      | _ => exact (List.append_nil _).symm
  | abandoned => cases job <;> exact (List.append_nil _).symm
  | refused violation => cases job <;> exact (List.append_nil _).symm
  | declined acceptance => exact (List.append_nil _).symm
  | userCreated input after inserted =>
      rw [frame.offers id]
      exact (List.append_nil _).symm
  | requestCreated input after inserted =>
      rw [frame.offers id]
      exact (List.append_nil _).symm
  | matchCreated input after inserted =>
      rw [frame.offers id]
      exact (List.append_nil _).symm
  | seenSwapped id expected new => exact (List.append_nil _).symm
  | requestSwapped id expected new => exact (List.append_nil _).symm
  | matchSwapped id expected new => exact (List.append_nil _).symm
  | matchForced id new => exact (List.append_nil _).symm
  | offerCreated input row after encoded inserted =>
      obtain ⟨-, -, rfl⟩ := Database.insertOffer_eq_ok.mp inserted
      obtain ⟨-, rfl⟩ := OfferRow.ofOffer_eq_ok.mp encoded
      exact List.map_append
  | accepted acceptance after committed =>
      obtain ⟨row, offered, paired, encoded, offering, pairing, -, rfl⟩ :=
        Database.accept_eq_ok committed
      obtain ⟨-, -, rfl⟩ := Database.insertOffer_eq_ok.mp offering
      obtain ⟨-, rfl⟩ := OfferRow.ofOffer_eq_ok.mp encoded
      obtain ⟨-, -, -, rfl⟩ := Database.insertMatch_eq_ok.mp pairing
      exact List.map_append

/-- The store shows offers with the driver with whom they were made. -/
theorem Store.Job.shows_of_answer {job : Job} {patience : Patience}
    {answer : Except StoreError job.Result} (formed : before.WellFormed)
    (traced : Traced bereft made before)
    (ran : job.runWhile fresh patience before = (some answer, after)) :
    job.Shows made answer := by
  cases job with
  | getOffer id =>
      obtain ⟨look, rfl⟩ := Job.of_read rfl ran
      rcases answer with error | (_ | offer)
      · trivial
      · trivial
      · obtain ⟨rfl, row, found, encoded⟩ := formed.of_getOffer look.symm
        intro driver drives
        obtain ⟨-, rfl⟩ := OfferRow.ofOffer_eq_ok.mp encoded
        obtain ⟨maker, member, keyed, driven⟩ :=
          traced.offers _ (Database.mem_of_find? found).1
        refine ⟨maker, member, (Uuid.text_inj.mp (Option.some.inj keyed)).symm, ?_⟩
        rcases driven with same | ⟨-, nobody⟩
        · rw [drives] at same
          obtain ⟨other, made, alike⟩ := Option.map_eq_some_iff.mp same.symm
          rw [made, Uuid.text_inj.mp alike]
        · rw [drives] at nobody
          contradiction
  | _ => trivial

/-! ## Runs in which rows are removed -/

namespace System

/-- What can happen next when rows are also removed past the services. -/
inductive Incident
  | event (event : Event)
  | removal (table : Table) (id : String)
  deriving DecidableEq

def endure (setup : Setup) (system : System) : Incident → Option System
  | .event event => step setup system event
  | .removal table id => some { system with database := (system.database.remove table id).1 }

def endureAll (setup : Setup) (system : System) (incidents : List Incident) : Option System :=
  incidents.foldlM (endure setup) system

/-- Rows of a table are among what is removed. -/
def Removes (table : Table) (incidents : List Incident) : Prop :=
  ∃ id, .removal table id ∈ incidents

theorem Removes.later {table : Table} {incidents : List Incident}
    (removes : Removes table incidents) (last : Incident) :
    Removes table (incidents ++ [last]) := by
  obtain ⟨id, removed⟩ := removes
  exact ⟨id, List.mem_append_left _ removed⟩

theorem removes_last {table : Table} {id : String} {incidents : List Incident} {last : Incident}
    (removal : last = .removal table id) : Removes table (incidents ++ [last]) :=
  ⟨id, List.mem_append_right _ (List.mem_singleton.mpr removal.symm)⟩

/-- What holds at first and is kept by every incident holds after every run. -/
theorem endureAll_induct {setup : Setup} (holds : List Incident → System → Prop)
    (first : holds [] initial)
    (kept : ∀ incidents earlier last after, holds incidents earlier →
      endure setup earlier last = some after → holds (incidents ++ [last]) after)
    {incidents : List Incident} {system : System}
    (ran : endureAll setup initial incidents = some system) : holds incidents system := by
  induction incidents using List.reverseRecOn generalizing system with
  | nil =>
      obtain rfl : initial = system := by simpa [endureAll] using ran
      exact first
  | append_singleton incidents last ih =>
      rw [endureAll, List.foldlM_append] at ran
      obtain ⟨earlier, ranFirst, endured⟩ := Option.bind_eq_some_iff.mp ran
      exact kept incidents earlier last system (ih ranFirst) (by simpa using endured)

/-- What every run keeps: the tables are in order, and calls under way ask for
matches only with the drivers of offers. -/
structure Sound (bereft : Prop) (system : System) : Prop where
  formed : system.database.WellFormed
  referential : system.database.Referential
  traced : Traced bereft system.madeOffers system.database
  grounded : ∀ call ∈ system.running, call.rest.Grounded system.madeOffers

variable {setup : Setup} {system : System}

theorem Sound.initial : Sound bereft initial where
  formed := .empty
  referential := .empty
  traced := .empty
  grounded call member := by cases member

theorem madeOffers_record (system : System) (database : Database) (running : List Running)
    (entry : Entry) :
    madeOffers ⟨database, running, system.history ++ [entry]⟩ =
      system.madeOffers ++ entry.madeOffer?.toList := by
  rw [madeOffers, madeOffers, List.filterMap_append]
  cases made : entry.madeOffer? <;> simp [made]

/-- A job that was carried out leaves a sound system, if the calls that are left
are grounded. -/
theorem Sound.record {operation : Operation} {job : Job} {patience : Patience}
    {answer : Option (Except StoreError job.Result)} {running : List Running}
    (sound : Sound bereft system) (grounded : job.Grounded system.madeOffers)
    (ran : job.runWhile fresh patience system.database = (answer, after))
    (calls : ∀ call ∈ running, ∀ more, system.madeOffers ⊆ more →
      Traced bereft more after → call.rest.Grounded more) :
    Sound bereft ⟨after, running, system.history ++
      [⟨operation, job, fresh, answer, system.database, after⟩]⟩ := by
  have effect := Job.runWhile_effect ran
  have traced := effect.traced operation grounded sound.traced
  have made := system.madeOffers_record after running
    ⟨operation, job, fresh, answer, system.database, after⟩
  refine ⟨effect.wellFormed sound.formed, effect.referential sound.referential, ?_, ?_⟩
  · rw [made]
    exact traced
  · intro call member
    rw [made]
    exact calls call member _ (List.subset_append_left _ _) traced

theorem Sound.step {event : Event} {after : System} (sound : Sound bereft system)
    (stepped : step setup system event = some after) : Sound bereft after := by
  have asking {place : Nat} {call : Running} (asks : system.running[place]? = some call) :
      call.rest.Grounded system.madeOffers :=
    sound.grounded call (List.mem_of_getElem? asks)
  cases stepped_of_step stepped with
  | arrived operation =>
      refine { sound with grounded := fun call member => ?_ }
      rcases List.mem_append.mp member with old | new
      · exact sound.grounded call old
      · rw [List.mem_singleton.mp new]
        exact operation.grounded setup _
  | left place =>
      refine { sound with grounded := fun call member => ?_ }
      exact sound.grounded call (List.mem_of_mem_eraseIdx member)
  | timed given asks =>
      refine { sound with grounded := fun call member => ?_ }
      rcases List.mem_or_eq_of_mem_set member with old | rfl
      · exact sound.grounded call old
      · exact asking asks given.fresh.now
  | introspected given asks =>
      refine { sound with grounded := fun call member => ?_ }
      rcases List.mem_or_eq_of_mem_set member with old | rfl
      · exact sound.grounded call old
      · exact asking asks given.reply
  | abandoned given asks ran =>
      refine sound.record (asking asks).1 ran fun call member more grown _ => ?_
      exact (sound.grounded call (List.mem_of_mem_eraseIdx member)).later grown
  | answered given asks ran =>
      obtain ⟨grounded, goesOn⟩ := asking asks
      refine sound.record grounded ran fun call member more grown _ => ?_
      rcases List.mem_or_eq_of_mem_set member with old | rfl
      · exact (sound.grounded call old).later grown
      · refine goesOn more grown _ ?_
        exact Job.shows_of_answer sound.formed (sound.traced.later grown) ran

theorem Sound.endure {incident : Incident} {after : System} (sound : Sound bereft system)
    (possible : ∀ id, incident = .removal .users id → bereft)
    (endured : endure setup system incident = some after) : Sound bereft after := by
  cases incident with
  | event event => exact sound.step endured
  | removal table id =>
      obtain rfl := Option.some.inj endured
      exact {
        formed := sound.formed.remove table id
        referential := sound.referential.remove table id
        traced := sound.traced.remove table id fun users => possible id (by rw [users])
        grounded := sound.grounded }

theorem sound_of_run {incidents : List Incident}
    (ran : endureAll setup initial incidents = some system) :
    Sound (Removes .users incidents) system := by
  refine endureAll_induct (fun incidents => Sound (Removes .users incidents)) .initial ?_ ran
  intro incidents earlier last after sound endured
  have weaker : Sound (Removes .users (incidents ++ [last])) earlier :=
    { sound with traced := sound.traced.weaken fun removes => removes.later last }
  exact weaker.endure (fun id removal => removes_last removal) endured

/-- No identifier was given to two offers. -/
def NamesOffersOnce (system : System) : Prop :=
  (system.madeOffers.map RideOffer.offerId).Nodup

/-- Every offer that was made is still stored. -/
def ListsOffers (system : System) : Prop :=
  system.database.offerRows.map OfferRow.offerId =
    system.madeOffers.map fun offer => some offer.offerId.text

theorem ListsOffers.namesOffersOnce (lists : ListsOffers system)
    (formed : system.database.WellFormed) : NamesOffersOnce system := by
  have distinct := formed.offerDistinct
  rw [lists] at distinct
  refine List.Nodup.of_map (fun id => some id.text) ?_
  rw [List.map_map]
  exact distinct

theorem ListsOffers.record {operation : Operation} {job : Job} {patience : Patience}
    {answer : Option (Except StoreError job.Result)} (running : List Running)
    (lists : ListsOffers system)
    (ran : job.runWhile fresh patience system.database = (answer, after)) :
    ListsOffers ⟨after, running, system.history ++
      [⟨operation, job, fresh, answer, system.database, after⟩]⟩ := by
  have ids := (Job.runWhile_effect ran).offerIds operation
  rw [ListsOffers, ids, lists, madeOffers_record, List.map_append]

theorem ListsOffers.step {event : Event} {after : System} (lists : ListsOffers system)
    (stepped : step setup system event = some after) : ListsOffers after := by
  cases stepped_of_step stepped with
  | arrived operation => exact lists
  | left place => exact lists
  | timed given asks => exact lists
  | introspected given asks => exact lists
  | abandoned given asks ran => exact lists.record _ ran
  | answered given asks ran => exact lists.record _ ran

theorem ListsOffers.endure {incident : Incident} {after : System} (lists : ListsOffers system)
    (kept : ∀ id, incident ≠ .removal .rideOffers id)
    (endured : endure setup system incident = some after) : ListsOffers after := by
  cases incident with
  | event event => exact lists.step endured
  | removal table id =>
      obtain rfl := Option.some.inj endured
      cases table with
      | users => exact (Database.offerIds_deleteUser _ _).trans lists
      | rideOffers => exact absurd rfl (kept id)
      | rideRequests => exact lists
      | «matches» => exact lists

/-- As long as no offer is removed, those that were made are all stored. -/
theorem listsOffers_of_run {incidents : List Incident} (kept : ¬Removes .rideOffers incidents)
    (ran : endureAll setup initial incidents = some system) : ListsOffers system := by
  refine endureAll_induct
    (fun incidents system => ¬Removes .rideOffers incidents → ListsOffers system)
    (fun _ => rfl) ?_ ran kept
  intro incidents earlier last after lists endured kept
  have lists := lists fun removes => kept (removes.later last)
  exact lists.endure (fun id removal => kept (removes_last removal)) endured

/-- The tables fit together, after some incidents. -/
structure Integral (incidents : List Incident) (system : System) : Prop where
  users : (system.database.userRows.map UserRow.userId).Nodup
  addresses : (system.database.userRows.map UserRow.email).Nodup
  offers : (system.database.offerRows.map OfferRow.offerId).Nodup
  requests : (system.database.requestRows.map RequestRow.requestId).Nodup
  pairings : (system.database.matchRows.map MatchRow.matchId).Nodup
  owners : ∀ request ∈ system.database.requestRows,
    ∃ user ∈ system.database.userRows, user.userId = some request.userId
  drivers : ∀ offer ∈ system.database.offerRows, ∀ id, offer.driverId = some id →
    ∃ user ∈ system.database.userRows, user.userId = some id
  apart : ∀ pairing ∈ system.database.matchRows, pairing.riderId ≠ pairing.driverId
  rides : ∀ pairing ∈ system.database.matchRows,
    ∃ offer ∈ system.database.offerRows, offer.offerId = some pairing.rideId
  /-- A match has the driver of its offer, or the driver of the offer is gone.
  Identifiers are drawn at random; that of an offer which was removed is not
  drawn for another. -/
  agree : (Removes .rideOffers incidents → system.NamesOffersOnce) →
    ∀ pairing ∈ system.database.matchRows, ∀ offer ∈ system.database.offerRows,
      offer.offerId = some pairing.rideId →
      offer.driverId = some pairing.driverId ∨ Removes .users incidents ∧ offer.driverId = none

theorem Sound.agree (sound : Sound bereft system) (once : system.NamesOffersOnce)
    {pairing : MatchRow} (member : pairing ∈ system.database.matchRows) {offer : OfferRow}
    (offerMember : offer ∈ system.database.offerRows)
    (keyed : offer.offerId = some pairing.rideId) :
    offer.driverId = some pairing.driverId ∨ bereft ∧ offer.driverId = none := by
  obtain ⟨ride, driver, ⟨maker, made, rfl, drove⟩, named, drives⟩ :=
    sound.traced.pairings pairing member
  obtain ⟨other, otherMade, otherKeyed, driven⟩ := sound.traced.offers offer offerMember
  have sameId : other.offerId = maker.offerId := by
    rw [keyed, named] at otherKeyed
    exact (Uuid.text_inj.mp (Option.some.inj otherKeyed)).symm
  obtain rfl := List.inj_on_of_nodup_map once otherMade made sameId
  rw [drove] at driven
  rw [drives]
  exact driven

/-- In every run, whatever is removed in between, the tables fit together. -/
theorem tables_fit_together {incidents : List Incident}
    (ran : endureAll setup initial incidents = some system) : Integral incidents system := by
  have sound := sound_of_run ran
  have ⟨formed, referential, _, _⟩ := sound
  exact {
    users := formed.userDistinct
    addresses := formed.emailDistinct
    offers := formed.offerDistinct
    requests := formed.requestDistinct
    pairings := formed.matchDistinct
    owners := fun request member => List.mem_map.mp (referential.owners request member)
    drivers := fun offer member id drives =>
      List.mem_map.mp (referential.drivers offer member id drives)
    apart := referential.apart
    rides := fun pairing member => List.mem_map.mp (referential.rides pairing member)
    agree := fun once pairing member offer offerMember keyed => by
      refine sound.agree ?_ member offerMember keyed
      by_cases removes : Removes .rideOffers incidents
      · exact once removes
      · exact (listsOffers_of_run removes ran).namesOffersOnce formed }

end System

namespace Sample

def shortDraft : OfferDraft :=
  ⟨"A", "B", .ofMagnitude false 0x4014000000000000, moment, 3⟩

def offered (number : Nat) : List System.Event :=
  [.arrive (.createOffer driver shortDraft), .proceed 0 (Sample.fresh 0 0),
    .proceed 0 (Sample.fresh 0 0), .proceed 0 (Sample.fresh number 0), .leave 0]

/-- The rider asks to join an offer, and reads it. -/
def boarding : List System.Event :=
  signUp 1 "rider@example" ++ signUp 2 "driver@example" ++ offered 4 ++ offered 5 ++
    [.arrive (.requestToJoin rider (uuid 4)), .proceed 0 (Sample.fresh 0 0)]

/-- Before the match is inserted the driver is removed, with another offer. -/
def orphaned : List System.Incident :=
  boarding.map .event ++
    [.removal .users (uuid 2).text, .removal .rideOffers (uuid 5).text,
      .event (.proceed 0 (Sample.fresh 6 0))]

end Sample

namespace System

/-- The match still has the driver with whom the offer was made. -/
theorem orphaned_fits_together :
    ∃ system, endureAll (Sample.setup .participants) initial Sample.orphaned = some system ∧
      NamesOffersOnce system ∧ system.database.offerRows.map OfferRow.driverId = [none] ∧
      system.database.matchRows.map MatchRow.driverId = [(Sample.uuid 2).text] ∧
      Integral Sample.orphaned system := by
  obtain ⟨system, ran, seen⟩ := Option.map_eq_some_iff.mp
    (by decide +kernel : (endureAll (Sample.setup .participants) initial Sample.orphaned).map
      (fun system => (system.madeOffers.map RideOffer.offerId,
        system.database.offerRows.map OfferRow.driverId,
        system.database.matchRows.map MatchRow.driverId)) =
      some ([Sample.uuid 4, Sample.uuid 5], [none], [(Sample.uuid 2).text]))
  obtain ⟨named, seen⟩ := Prod.mk.inj seen
  obtain ⟨bereft, driven⟩ := Prod.mk.inj seen
  refine ⟨system, ran, ?_, bereft, driven, tables_fit_together ran⟩
  rw [NamesOffersOnce, named]
  decide

end System

end Carpool
