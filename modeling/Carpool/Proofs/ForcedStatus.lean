import Carpool.Proofs.Alone
import Carpool.Proofs.Store.GuardedColumns

/-!
# Forced statuses

Forcing a status is one statement: it changes the row of the match and hands it
over, and only then is the row decoded.  If one of its other columns cannot be
read, the caller gets an error although the new status is stored.
-/

namespace Carpool

namespace Store

/-! ## Rows that can be read -/

/-- Besides its key and its status, the row holds what the match does. -/
structure MatchRow.Shows (row : MatchRow) (record : Match) : Prop where
  rider : Uuid.ofText? row.riderId = some record.riderId
  driver : Uuid.ofText? row.driverId = some record.driverId
  ride : Uuid.ofText? row.rideId = some record.rideId
  created : Instant.ofStoredText? row.createdAt = some record.createdAt

/-- A row with a new status is decoded just if its other columns can be read. -/
theorem MatchRow.decode_eq_ok {row : MatchRow} {id : Uuid} (keyed : row.matchId = some id.text)
    {new : MatchStatus} {record : Match} :
    { row with status := new.name }.decode = .ok record ↔
      row.Shows record ∧ record.matchId = id ∧ record.status = new := by
  have named : decodeStatus MatchStatus.ofName? new.name = .ok new := by
    rw [decodeStatus, MatchStatus.ofName?_name]
  simp only [MatchRow.decode, MatchRow.readable, keyed, readKey, named, ok_bind, decodeUuid_text,
    bind_eq_ok, decodeUuid_eq_ok, decodeTime_eq_ok]
  constructor
  · rintro ⟨rider, rides, driver, drives, ride, offered, createdAt, created, built⟩
    obtain rfl := Except.ok.inj built
    exact ⟨⟨rides, drives, offered, created⟩, rfl, rfl⟩
  · rintro ⟨shows, rfl, rfl⟩
    exact ⟨_, shows.rider, _, shows.driver, _, shows.ride, _, shows.created, rfl⟩

/-! ## The statement -/

section Statement

open Database

variable {before : Database} {id : Uuid} {new : MatchStatus}

theorem setMatchStatus_eq_put (id : Uuid) (new : MatchStatus) (before : Database) :
    (before.setMatchStatus id.text new.name).1 =
      GuardedColumn.matchStatus.put id new before := by
  simp [setMatchStatus, changeWhere, GuardedColumn.put]

theorem findMatch?_put (id : Uuid) (new : MatchStatus) (before : Database) :
    (GuardedColumn.matchStatus.put id new before).findMatch? id.text =
      (before.findMatch? id.text).map fun row => { row with status := new.name } := by
  rw [← setMatchStatus_eq_put, findMatch?_setMatchStatus]
  apply Option.map_congr
  intro row found
  have keyed := (mem_of_find? found).2
  simp [keyed]

theorem put_of_same (kept : before.KeepsSchema)
    (same : ∀ row, before.findMatch? id.text = some row → row.status = new.name) :
    GuardedColumn.matchStatus.put id new before = before := by
  have fixed (row : MatchRow) (found : before.findMatch? id.text = some row) :
      { row with status := new.name } = row := by
    rw [← same row found]
  have unchanged := map_keyed_of_fixed kept.matchIds fixed
  exact congrArg (fun rows => { before with matchRows := rows }) unchanged

theorem put_of_unknown (kept : before.KeepsSchema) (unknown : before.findMatch? id.text = none) :
    GuardedColumn.matchStatus.put id new before = before := by
  apply put_of_same kept
  intro row found
  cases unknown.symm.trans found

/-- A status is put in place without a trace just if it was the status already. -/
theorem put_eq_iff (kept : before.KeepsSchema) {row : MatchRow}
    (found : before.findMatch? id.text = some row) :
    GuardedColumn.matchStatus.put id new before = before ↔ row.status = new.name := by
  constructor
  · intro same
    have again := findMatch?_put id new before
    rw [same, found, Option.map_some] at again
    exact congrArg MatchRow.status (Option.some.inj again)
  · intro already
    apply put_of_same kept
    intro other also
    obtain rfl := Option.some.inj (found.symm.trans also)
    exact already

end Statement

/-! ## The job -/

/-- What comes of forcing a status on a match.  An unknown match is not found, a
match that can be read is answered with its new status, and one that cannot be
read is answered with an error.  In the last two cases the status is stored. -/
structure Forces (id : Uuid) (new : MatchStatus) (before : Database)
    (outcome : Except StoreError (Option Match) × Database) : Prop where
  unknown : before.findMatch? id.text = none → outcome = (.ok none, before)
  legible : ∀ row record, before.findMatch? id.text = some row → row.Shows record →
    outcome = (.ok (some { record with matchId := id, status := new }),
      GuardedColumn.matchStatus.put id new before)
  illegible : ∀ row, before.findMatch? id.text = some row → (∀ record, ¬row.Shows record) →
    ∃ error, outcome = (.error error, GuardedColumn.matchStatus.put id new before)
  untouched : ∀ row, before.findMatch? id.text = some row →
    (outcome.2 = before ↔ row.status = new.name)
  reread : ∀ fresh, (Job.getMatch id).run fresh outcome.2 = outcome

variable {fresh : Fresh} {patience : Patience} {before : Database} {id : Uuid}
  {new : MatchStatus}

/-- The status is put in place, and the answer is what is then read. -/
def forced (id : Uuid) (new : MatchStatus) (before : Database) :
    Except StoreError (Option Match) × Database :=
  let after := GuardedColumn.matchStatus.put id new before
  ((after.findMatch? id.text).mapM MatchRow.decode, after)

theorem Job.runWhile_force (stays : patience ≠ some 0) :
    (Job.forceMatchStatus id new).runWhile fresh patience before =
      (some (forced id new before).1, (forced id new before).2) := by
  refine (Job.runWhile_single rfl).trans ?_
  rw [if_neg stays]
  dsimp only [Statement.run]
  rw [setMatchStatus_eq_put]
  rfl

theorem Job.run_force :
    (Job.forceMatchStatus id new).run fresh before = forced id new before :=
  Job.run_of_runWhile (Job.runWhile_force (by simp))

theorem forces_of_keepsSchema (kept : before.KeepsSchema) (id : Uuid) (new : MatchStatus) :
    Forces id new before (forced id new before) where
  unknown unknown := by
    rw [forced, put_of_unknown kept unknown, unknown]
    rfl
  legible row record found shows := by
    have keyed := (Database.mem_of_find? found).2
    have shows : row.Shows { record with matchId := id, status := new } :=
      ⟨shows.rider, shows.driver, shows.ride, shows.created⟩
    have decoded := (MatchRow.decode_eq_ok keyed).mpr ⟨shows, rfl, rfl⟩
    have read := mapM_eq_ok_some.mpr ⟨_, rfl, decoded⟩
    rw [forced, findMatch?_put, found, Option.map_some, read]
  illegible row found unreadable := by
    have keyed := (Database.mem_of_find? found).2
    cases decoded : { row with status := new.name }.decode with
    | ok record => exact absurd ((MatchRow.decode_eq_ok keyed).mp decoded).1 (unreadable record)
    | error error =>
        have failed := mapM_eq_error.mpr ⟨_, rfl, decoded⟩
        refine ⟨error, ?_⟩
        rw [forced, findMatch?_put, found, Option.map_some, failed]
  untouched row found := put_eq_iff kept found
  reread fresh := rfl

end Store

open Store

/-! ## Completing without restrictions -/

/-- What the caller of a completion is told when the store has answered. -/
def Matching.completion (id : Uuid) : Except StoreError (Option Match) → Except Failure Match
  | .ok (some record) => .ok record
  | .ok none => .error (.notFound .pairing id)
  | .error error => .error (.store error)

theorem Matching.completeMatch_alone {given : Given} (stays : given.patience ≠ some 0)
    (caller : Identity) (id : Uuid) (before : Database) :
    Call.alone (Matching.completeMatch .unrestricted caller id) [given] before =
      some (completion id (forced id .completed before).1, (forced id .completed before).2) := by
  have ran : (Job.forceMatchStatus id .completed).runWhile given.fresh given.patience before =
      (some (forced id .completed before).1, (forced id .completed before).2) :=
    Job.runWhile_force stays
  rw [completeMatch_unrestricted_shape]
  cases answer : (forced id .completed before).1 with
  | error error =>
      rw [answer] at ran
      exact Attempt.go_alone_error ran
  | ok found =>
      rw [answer] at ran
      refine (Attempt.go_alone_ok ran).trans ?_
      cases found <;> rfl

/-- A forced status is stored whenever the match is known, also when the answer is an
error, and a lookup then answers the same. -/
theorem forced_status_outlives_errors {before : Database} (kept : before.KeepsSchema) (id : Uuid)
    (new : MatchStatus) :
    (∀ fresh, Forces id new before ((Job.forceMatchStatus id new).run fresh before)) ∧
      ∀ (caller : Identity) (given : Given), given.patience ≠ some 0 →
        ∃ outcome, Forces id .completed before outcome ∧
          Call.alone (Matching.completeMatch .unrestricted caller id) [given] before =
            some (Matching.completion id outcome.1, outcome.2) := by
  constructor
  · intro fresh
    rw [Job.run_force]
    exact forces_of_keepsSchema kept id new
  · intro caller given stays
    have completes := Matching.completeMatch_alone stays caller id before
    exact ⟨_, forces_of_keepsSchema kept id .completed, completes⟩

def requestedMatch : Match :=
  ⟨Uuid.ofNat 4, Uuid.ofNat 2, Uuid.ofNat 1, Uuid.ofNat 3, .requested, .epoch⟩

/-- A match with some text for the time at which it was made. -/
def matchMade (createdAt : String) : Database where
  userRows :=
    [.ofUser ⟨Uuid.ofNat 1, "driver@campus.edu", "Driver", none, none, .epoch⟩,
      .ofUser ⟨Uuid.ofNat 2, "rider@campus.edu", "Rider", none, none, .epoch⟩]
  offerRows :=
    [⟨some (Uuid.ofNat 3).text, some (Uuid.ofNat 1).text, "tdr1w", "tdr1y", .real .zero,
      Instant.epoch.storedText, .integer 3, OfferStatus.active.name⟩]
  requestRows := []
  matchRows := [{ MatchRow.ofMatch requestedMatch with createdAt }]

theorem matchMade_keepsSchema (createdAt : String) : (matchMade createdAt).KeepsSchema := by
  exact (Database.keepsSchema_iff_checked 0).mpr rfl

def forcedFresh : Fresh := ⟨Uuid.ofNat 5, Uuid.ofNat 6, .epoch⟩

theorem matchMade_forces :
    (Job.forceMatchStatus (Uuid.ofNat 9) .rejected).run forcedFresh (matchMade "yesterday") =
        (.ok none, matchMade "yesterday") ∧
      (Job.forceMatchStatus (Uuid.ofNat 4) .rejected).run forcedFresh
          (matchMade Instant.epoch.storedText) =
        (.ok (some { requestedMatch with status := .rejected }),
          GuardedColumn.matchStatus.put (Uuid.ofNat 4) .rejected
            (matchMade Instant.epoch.storedText)) ∧
      ∃ error, (Job.forceMatchStatus (Uuid.ofNat 4) .rejected).run forcedFresh
          (matchMade "yesterday") =
        (.error error, GuardedColumn.matchStatus.put (Uuid.ofNat 4) .rejected
          (matchMade "yesterday")) := by
  have smudged := matchMade_keepsSchema "yesterday"
  have clean := matchMade_keepsSchema Instant.epoch.storedText
  have elsewhere := (forced_status_outlives_errors smudged (Uuid.ofNat 9) .rejected).1 forcedFresh
  have read := (forced_status_outlives_errors clean (Uuid.ofNat 4) .rejected).1 forcedFresh
  have unread := (forced_status_outlives_errors smudged (Uuid.ofNat 4) .rejected).1 forcedFresh
  refine ⟨elsewhere.unknown rfl, read.legible _ requestedMatch rfl ?_, unread.illegible _ rfl ?_⟩
  · exact ⟨Uuid.ofText?_text _, Uuid.ofText?_text _, Uuid.ofText?_text _, rfl⟩
  · intro record shows
    have unreadable : Instant.ofStoredText? "yesterday" = none := rfl
    cases unreadable.symm.trans shows.created

/-- The status is stored although both callers get an error. -/
theorem matchMade_yesterday_stored :
    let before := matchMade "yesterday"
    let after := GuardedColumn.matchStatus.put (Uuid.ofNat 4) .completed before
    before.KeepsSchema ∧ after ≠ before ∧
      (Job.forceMatchStatus (Uuid.ofNat 4) .completed).run forcedFresh before =
        (.error (.notTime "yesterday"), after) ∧
      Call.alone (Matching.completeMatch .unrestricted ⟨Uuid.ofNat 1, none⟩ (Uuid.ofNat 4))
          [⟨forcedFresh, none, .unreachable ""⟩] before =
        some (.error (.store (.notTime "yesterday")), after) := by
  intro before after
  have kept : before.KeepsSchema := matchMade_keepsSchema "yesterday"
  have failed : forced (Uuid.ofNat 4) .completed before =
      (.error (.notTime "yesterday"), after) := rfl
  have changed : after ≠ before := by
    intro same
    have already := (put_eq_iff kept rfl).mp same
    exact absurd already (by decide)
  refine ⟨kept, changed, Job.run_force.trans failed, ?_⟩
  rw [Matching.completeMatch_alone (by simp), failed]
  rfl

end Carpool
