import Carpool.Proofs.Store.Integrity
import Mathlib.Data.Set.Basic

/-!
# Places in the store

The store looked at place by place: accounts without their last visits, last
visits, offers, requests and matches.  An act on the store keeps to a footprint if
it writes nowhere else, and if what it answers and writes depends on nothing but
the places that it reads.  Acts commute unless one of them writes what the other
reads.
-/

namespace Carpool

namespace Store

/-! ## Places -/

/-- Something that the store holds and that can be looked at by itself. -/
inductive Place
  /-- An account, but for its last visit. -/
  | account (id : Uuid)
  /-- The last visit of an account. -/
  | visit (id : Uuid)
  | offer (id : Uuid)
  | request (id : Uuid)
  | pairing (id : Uuid)
  deriving DecidableEq

def Place.Content : Place → Type
  | .account _ => Option UserRow
  | .visit _ => Option Cell
  | .offer _ => Option OfferRow
  | .request _ => Option RequestRow
  | .pairing _ => Option MatchRow

def UserRow.unvisited (row : UserRow) : UserRow :=
  { row with lastSeen := .integer 0 }

namespace Database

/-- What stands in a place. -/
def look (database : Database) : (place : Place) → place.Content
  | .account id => (database.findUser? id.text).map UserRow.unvisited
  | .visit id => (database.findUser? id.text).map UserRow.lastSeen
  | .offer id => database.findOffer? id.text
  | .request id => database.findRequest? id.text
  | .pairing id => database.findMatch? id.text

/-- Two stores look alike in some places. -/
def AgreeOn (places : Set Place) (first second : Database) : Prop :=
  ∀ place ∈ places, first.look place = second.look place

/-- Two stores hold the same rows, in whatever order. -/
structure SameRows (first second : Database) : Prop where
  users : first.userRows.Perm second.userRows
  offers : first.offerRows.Perm second.offerRows
  requests : first.requestRows.Perm second.requestRows
  pairings : first.matchRows.Perm second.matchRows

theorem mem_of_same {ρ : Type} {key : ρ → Option String} {rows others : List ρ}
    (distinct : (rows.map key).Nodup) (keyed : ∀ row ∈ rows, ∃ id : Uuid, key row = some id.text)
    (same : ∀ id : Uuid, rows.find? (fun row => key row == some id.text) =
      others.find? fun row => key row == some id.text) {row : ρ} (member : row ∈ rows) :
    row ∈ others := by
  obtain ⟨id, named⟩ := keyed row member
  have found := find?_of_mem distinct member named
  rw [same] at found
  exact (mem_of_find? found).1

/-- Rows with distinct keys are the same if the same ones are found. -/
theorem perm_of_same {ρ : Type} {key : ρ → Option String} {rows others : List ρ}
    (distinct : (rows.map key).Nodup) (distinctToo : (others.map key).Nodup)
    (keyed : ∀ row ∈ rows, ∃ id : Uuid, key row = some id.text)
    (keyedToo : ∀ row ∈ others, ∃ id : Uuid, key row = some id.text)
    (same : ∀ id : Uuid, rows.find? (fun row => key row == some id.text) =
      others.find? fun row => key row == some id.text) : rows.Perm others := by
  refine (List.perm_ext_iff_of_nodup (.of_map key distinct) (.of_map key distinctToo)).mpr ?_
  intro row
  exact ⟨mem_of_same distinct keyed same, mem_of_same distinctToo keyedToo fun id => (same id).symm⟩

variable {first second : Database}

/-- An account and its last visit make up the row of a user. -/
theorem findUser?_eq_of_look {id : Uuid}
    (account : first.look (.account id) = second.look (.account id))
    (visit : first.look (.visit id) = second.look (.visit id)) :
    first.findUser? id.text = second.findUser? id.text := by
  change (first.findUser? id.text).map UserRow.unvisited =
    (second.findUser? id.text).map UserRow.unvisited at account
  change (first.findUser? id.text).map UserRow.lastSeen =
    (second.findUser? id.text).map UserRow.lastSeen at visit
  cases found : first.findUser? id.text with
  | none =>
      rw [found] at account
      exact (Option.map_eq_none_iff.mp account.symm).symm
  | some row =>
      rw [found] at account visit
      obtain ⟨other, foundToo, alike⟩ := Option.map_eq_some_iff.mp account.symm
      rw [foundToo, Option.map_some, Option.map_some, Option.some.injEq] at visit
      rw [foundToo, Option.some.injEq]
      have whole (row : UserRow) : row = { row.unvisited with lastSeen := row.lastSeen } := rfl
      rw [whole row, whole other, alike, visit]

/-- Well-formed stores that look alike everywhere hold the same rows. -/
theorem WellFormed.sameRows (formed : first.WellFormed) (formedToo : second.WellFormed)
    (same : ∀ place, first.look place = second.look place) : first.SameRows second where
  users := by
    have keyed {database : Database} (formed : database.WellFormed) :
        ∀ row ∈ database.userRows, ∃ id : Uuid, row.userId = some id.text := by
      intro row member
      obtain ⟨user, rfl⟩ := formed.userEncoded row member
      exact ⟨user.userId, rfl⟩
    exact perm_of_same formed.userDistinct formedToo.userDistinct (keyed formed) (keyed formedToo)
      fun id => findUser?_eq_of_look (same _) (same _)
  offers := by
    have keyed {database : Database} (formed : database.WellFormed) :
        ∀ row ∈ database.offerRows, ∃ id : Uuid, row.offerId = some id.text := by
      intro row member
      obtain ⟨offer, encoded⟩ := formed.offerEncoded row member
      exact ⟨offer.offerId, OfferRow.offerId_of_encoded encoded⟩
    exact perm_of_same formed.offerDistinct formedToo.offerDistinct (keyed formed) (keyed formedToo)
      fun id => same (.offer id)
  requests := by
    have keyed {database : Database} (formed : database.WellFormed) :
        ∀ row ∈ database.requestRows, ∃ id : Uuid, row.requestId = some id.text := by
      intro row member
      obtain ⟨request, rfl⟩ := formed.requestEncoded row member
      exact ⟨request.requestId, rfl⟩
    exact perm_of_same formed.requestDistinct formedToo.requestDistinct (keyed formed)
      (keyed formedToo) fun id => same (.request id)
  pairings := by
    have keyed {database : Database} (formed : database.WellFormed) :
        ∀ row ∈ database.matchRows, ∃ id : Uuid, row.matchId = some id.text := by
      intro row member
      obtain ⟨record, rfl⟩ := formed.matchEncoded row member
      exact ⟨record.matchId, rfl⟩
    exact perm_of_same formed.matchDistinct formedToo.matchDistinct (keyed formed)
      (keyed formedToo) fun id => same (.pairing id)

end Database

/-! ## Footprints -/

/-- The places that an act reads, and those among them that it writes. -/
structure Footprint where
  reads : Set Place
  writes : Set Place
  writes_subset : writes ⊆ reads

/-- Nothing is written that is read elsewhere. -/
def Footprint.Spares (footprint other : Footprint) : Prop :=
  ∀ place ∈ footprint.writes, place ∉ other.reads

variable {α β : Type} {footprint : Footprint}

/-- An act leaves everything alone that it does not write, and only what it reads
decides what it answers and writes. -/
structure KeepsTo (footprint : Footprint) (act : Database → α × Database) : Prop where
  formed : ∀ {database : Database}, database.WellFormed → (act database).2.WellFormed
  frame : ∀ {database : Database} {place : Place}, database.WellFormed →
    place ∉ footprint.writes → (act database).2.look place = database.look place
  answer : ∀ {first second : Database}, first.WellFormed → second.WellFormed →
    first.AgreeOn footprint.reads second → (act first).1 = (act second).1
  write : ∀ {first second : Database}, first.WellFormed → second.WellFormed →
    first.AgreeOn footprint.reads second →
    (act first).2.AgreeOn footprint.writes (act second).2

namespace KeepsTo

variable {act : Database → α × Database}

/-- Stores that look alike in what is read still do so afterwards. -/
theorem agree (kept : KeepsTo footprint act) {first second : Database} (formed : first.WellFormed)
    (formedToo : second.WellFormed) (agree : first.AgreeOn footprint.reads second) :
    (act first).2.AgreeOn footprint.reads (act second).2 := by
  intro place read
  by_cases written : place ∈ footprint.writes
  · exact kept.write formed formedToo agree place written
  · rw [kept.frame formed written, kept.frame formedToo written]
    exact agree place read

/-- An act that writes one place. -/
theorem of_place {own : Place} (owned : own ∈ footprint.writes)
    (formed : ∀ {database : Database}, database.WellFormed → (act database).2.WellFormed)
    (elsewhere : ∀ {database : Database} {place : Place}, database.WellFormed → place ≠ own →
      (act database).2.look place = database.look place)
    (decided : ∀ {first second : Database}, first.WellFormed → second.WellFormed →
      first.AgreeOn footprint.reads second →
      (act first).1 = (act second).1 ∧ (act first).2.look own = (act second).2.look own) :
    KeepsTo footprint act where
  formed := formed
  frame {database place} formed unwritten :=
    elsewhere formed fun same => unwritten (same ▸ owned)
  answer formed formedToo agree := (decided formed formedToo agree).1
  write {first second} formed formedToo agree := by
    intro place written
    by_cases same : place = own
    · subst same
      exact (decided formed formedToo agree).2
    · rw [elsewhere formed same, elsewhere formedToo same]
      exact agree place (footprint.writes_subset written)

/-- An act that only looks. -/
theorem of_look {answer : Database → α} (decided : ∀ {first second : Database},
    first.WellFormed → second.WellFormed → first.AgreeOn footprint.reads second →
    answer first = answer second) :
    KeepsTo footprint fun database => (answer database, database) where
  formed := id
  frame _ _ := rfl
  answer := decided
  write _ _ agree := fun place written => agree place (footprint.writes_subset written)

theorem pure (value : α) : KeepsTo footprint fun database => (value, database) :=
  of_look fun _ _ _ => rfl

/-- One act goes on with another, by what it has answered. -/
theorem bind {next : α → Database → β × Database} (kept : KeepsTo footprint act)
    (goesOn : ∀ database : Database, database.WellFormed →
      KeepsTo footprint (next (act database).1)) :
    KeepsTo footprint fun database => next (act database).1 (act database).2 where
  formed {database} formed := (goesOn database formed).formed (kept.formed formed)
  frame {database place} formed unwritten := by
    rw [(goesOn database formed).frame (kept.formed formed) unwritten, kept.frame formed unwritten]
  answer {first second} formed formedToo agree := by
    rw [kept.answer formed formedToo agree]
    exact (goesOn second formedToo).answer (kept.formed formed) (kept.formed formedToo)
      (kept.agree formed formedToo agree)
  write {first second} formed formedToo agree := by
    rw [kept.answer formed formedToo agree]
    exact (goesOn second formedToo).write (kept.formed formed) (kept.formed formedToo)
      (kept.agree formed formedToo agree)

theorem map (change : α → β) (kept : KeepsTo footprint act) :
    KeepsTo footprint fun database => (change (act database).1, (act database).2) :=
  @bind _ _ _ act (fun value database => (change value, database)) kept fun _ _ => pure _

/-- What is undone after some answers leaves everything alone there. -/
theorem undone (kept : KeepsTo footprint act) (stays : α → Bool) :
    KeepsTo footprint fun database =>
      ((act database).1, if stays (act database).1 then (act database).2 else database) where
  formed {database} formed := by
    dsimp only
    split
    · exact kept.formed formed
    · exact formed
  frame {database place} formed unwritten := by
    dsimp only
    split
    · exact kept.frame formed unwritten
    · rfl
  answer := kept.answer
  write {first second} formed formedToo agree := by
    dsimp only
    rw [kept.answer formed formedToo agree]
    split
    · exact kept.write formed formedToo agree
    · exact fun place written => agree place (footprint.writes_subset written)

theorem congr {other : Database → α × Database} (kept : KeepsTo footprint act)
    (same : ∀ database : Database, database.WellFormed → other database = act database) :
    KeepsTo footprint other where
  formed {database} formed := same database formed ▸ kept.formed formed
  frame {database place} formed unwritten := same database formed ▸ kept.frame formed unwritten
  answer {first second} formed formedToo agree := by
    rw [same first formed, same second formedToo]
    exact kept.answer formed formedToo agree
  write {first second} formed formedToo agree := by
    rw [same first formed, same second formedToo]
    exact kept.write formed formedToo agree

/-- What an act does can depend on what it reads. -/
theorem ite {test : Database → Bool} {other : Database → α × Database}
    (decided : ∀ {first second : Database}, first.AgreeOn footprint.reads second →
      test first = test second)
    (kept : KeepsTo footprint act) (keptToo : KeepsTo footprint other) :
    KeepsTo footprint fun database => if test database then act database else other database := by
  have tested : KeepsTo footprint fun database => (test database, database) :=
    of_look fun _ _ => decided
  refine @bind _ _ _ _ (fun passed database => if passed then act database else other database)
    tested fun database _ => ?_
  cases test database with
  | true => exact kept
  | false => exact keptToo

end KeepsTo

/-! ## Acts that commute -/

/-- Two acts give the same answers and leave the same rows in either order. -/
structure CommuteOn (database : Database) (act : Database → α × Database)
    (other : Database → β × Database) : Prop where
  first : (act (other database).2).1 = (act database).1
  second : (other (act database).2).1 = (other database).1
  rows : (other (act database).2).2.SameRows (act (other database).2).2

section Commute

variable {otherFootprint : Footprint} {act : Database → α × Database}
  {other : Database → β × Database} {database : Database}

/-- An act is blind to one that writes nothing that it reads. -/
theorem KeepsTo.agree_after (kept : KeepsTo footprint act)
    (spares : footprint.Spares otherFootprint) (formed : database.WellFormed) :
    (act database).2.AgreeOn otherFootprint.reads database :=
  fun place read => kept.frame formed fun written => spares place written read

/-- The last of two acts does not touch what the first one has written, and the
first one writes what it would have written after the last. -/
theorem KeepsTo.look_eq_of_write (kept : KeepsTo footprint act)
    (keptToo : KeepsTo otherFootprint other)
    (spares : footprint.Spares otherFootprint) (spared : otherFootprint.Spares footprint)
    (formed : database.WellFormed) {place : Place} (written : place ∈ footprint.writes) :
    (other (act database).2).2.look place = (act (other database).2).2.look place := by
  have untouched : place ∉ otherFootprint.writes := fun writtenToo =>
    spares place written (otherFootprint.writes_subset writtenToo)
  rw [keptToo.frame (kept.formed formed) untouched]
  exact (kept.write (keptToo.formed formed) formed (keptToo.agree_after spared formed) place
    written).symm

theorem KeepsTo.commuteOn (kept : KeepsTo footprint act) (keptToo : KeepsTo otherFootprint other)
    (spares : footprint.Spares otherFootprint) (spared : otherFootprint.Spares footprint)
    (formed : database.WellFormed) : CommuteOn database act other where
  first := kept.answer (keptToo.formed formed) formed (keptToo.agree_after spared formed)
  second := keptToo.answer (kept.formed formed) formed (kept.agree_after spares formed)
  rows := by
    have formedFirst := keptToo.formed (kept.formed formed)
    have formedSecond := kept.formed (keptToo.formed formed)
    refine formedFirst.sameRows formedSecond fun place => ?_
    by_cases written : place ∈ footprint.writes
    · exact kept.look_eq_of_write keptToo spares spared formed written
    by_cases writtenToo : place ∈ otherFootprint.writes
    · exact (keptToo.look_eq_of_write kept spared spares formed writtenToo).symm
    · rw [keptToo.frame (kept.formed formed) writtenToo, kept.frame formed written,
        kept.frame (keptToo.formed formed) written, keptToo.frame formed writtenToo]

end Commute

end Store

end Carpool
