import Carpool.Proofs.PublishedRides

/-!
# Jobs that change nothing

Most jobs that fail have changed nothing, and so have those that answer that no
row was as they expected.  Only a status that is forced upon a match is set
before the match is read back, which cannot fail while the times of all matches
can be read.
-/

namespace Carpool

namespace Store

/-! ## Matches that can be read -/

theorem hasFourDigitYear_toMicrosecond {instant : Instant} (year : instant.HasFourDigitYear) :
    instant.toMicrosecond.HasFourDigitYear := by
  rw [Instant.HasFourDigitYear] at year ⊢
  exact year

/-- The text of the time of every stored match can be read back. -/
def Database.ReadableMatches (database : Database) : Prop :=
  ∀ row ∈ database.matchRows, ∃ record : Match,
    row = .ofMatch record ∧ record.createdAt.HasFourDigitYear

namespace Database

variable {database before after : Database}

theorem ReadableMatches.empty : Database.empty.ReadableMatches := by
  intro row member
  cases member

theorem ReadableMatches.of_same (readable : before.ReadableMatches)
    (same : after.matchRows = before.matchRows) : after.ReadableMatches := by
  intro row member
  exact readable row (same ▸ member)

theorem ReadableMatches.insertMatch {record : Match} (readable : before.ReadableMatches)
    (inserted : before.insertMatch (.ofMatch record) = .ok after)
    (year : record.createdAt.HasFourDigitYear) : after.ReadableMatches := by
  obtain ⟨-, -, -, rfl⟩ := insertMatch_eq_ok.mp inserted
  intro row member
  rcases List.mem_append.mp member with old | new
  · exact readable row old
  · exact ⟨record, List.mem_singleton.mp new, year⟩

theorem ReadableMatches.changeWhere {test : MatchRow → Bool} {status : MatchStatus}
    (readable : before.ReadableMatches)
    (changed : after.matchRows =
      (Database.changeWhere test (fun row => { row with status := status.name })
        before.matchRows).1) : after.ReadableMatches := by
  intro row member
  rw [changed] at member
  obtain ⟨old, stored, rfl⟩ := mem_changeWhere.mp member
  obtain ⟨record, rfl, year⟩ := readable old stored
  split
  · exact ⟨{ record with status }, rfl, year⟩
  · exact ⟨record, rfl, year⟩

theorem ReadableMatches.decode (readable : database.ReadableMatches) {id : String}
    {row : MatchRow} (found : database.findMatch? id = some row) :
    ∃ record, row.decode = .ok record := by
  obtain ⟨record, rfl, year⟩ := readable row (mem_of_find? found).1
  rw [MatchRow.decode_ofMatch, decodeTime_of_year year]
  exact ⟨_, rfl⟩

end Database

variable {fresh : Fresh} {patience : Patience} {before after : Database}

/-- In years of four digits every job keeps the matches readable. -/
theorem Effect.readableMatches {job : Job} {answer : Option (Except StoreError job.Result)}
    (effect : Effect fresh before job answer after) (year : fresh.now.HasFourDigitYear)
    (readable : before.ReadableMatches) : after.ReadableMatches := by
  have frame := effect.frame
  cases effect with
  | matchCreated input after inserted =>
      exact readable.insertMatch inserted (hasFourDigitYear_toMicrosecond year)
  | matchSwapped id expected new => exact readable.changeWhere rfl
  | matchForced id new => exact readable.changeWhere rfl
  | accepted acceptance after committed =>
      obtain ⟨row, offered, paired, -, offering, pairing, -, rfl⟩ :=
        Database.accept_eq_ok committed
      obtain ⟨-, -, rfl⟩ := Database.insertOffer_eq_ok.mp offering
      refine (Database.ReadableMatches.insertMatch ?_ pairing ?_).of_same rfl
      · exact readable.of_same rfl
      · exact hasFourDigitYear_toMicrosecond year
  | read | abandoned | refused | declined => exact readable
  | _ => exact readable.of_same (frame.pairings id)

/-! ## Answers that tell of no change -/

theorem Job.unchanged_of_lookup {job : Job} {answer : Option (Except StoreError job.Result)}
    (lookup : job.IsLookup) (ran : job.runWhile fresh patience before = (answer, after)) :
    after = before := by
  have look {look : Database → Except StoreError job.Result}
      (planned : job.plan fresh = .read look) : after = before := by
    rw [Job.runWhile_read planned] at ran
    exact (Prod.mk.inj ran).2.symm
  cases job with
  | getUser id => exact look rfl
  | findUserByEmail email => exact look rfl
  | getOffer id => exact look rfl
  | getRequest id => exact look rfl
  | getMatch id => exact look rfl
  | listMatchesByRide ride => exact look rfl
  | listMatchesByRider rider => exact look rfl
  | listMatchesForUser user => exact look rfl
  | _ => exact lookup.elim

/-- The job sets a status whatever it was, and reads the match back. -/
def Job.Forces : Job → Prop
  | .forceMatchStatus _ _ => True
  | _ => False

/-- A job that fails changes nothing.  One that forces a status may only fail
because the match cannot be read. -/
theorem Job.unchanged_of_error {job : Job} {error : StoreError}
    (readable : job.Forces → before.ReadableMatches)
    (ran : job.runWhile fresh patience before = (some (.error error), after)) :
    after = before := by
  have effect := Job.runWhile_effect ran
  generalize answered : some (Except.error error) = answer at effect
  cases effect with
  | matchForced id new =>
      -- the one answer that is read back after the write
      obtain ⟨row, found, undecoded⟩ := mapM_eq_error.mp (Option.some.inj answered).symm
      obtain ⟨record, decoded⟩ := ((readable trivial).changeWhere rfl).decode found
      rw [decoded] at undecoded
      cases undecoded
  | read look planned => rfl
  | abandoned => rfl
  | refused violation => rfl
  | declined acceptance => rfl
  | _ => cases answered

/-- By its answer the job has changed nothing: no row was as it expected. -/
def Job.Declines : (job : Job) → job.Result → Prop
  | .swapLastSeen _ _ _, swap | .swapRequestStatus _ _ _, swap | .swapMatchStatus _ _ _, swap =>
      swap = .stale
  | .forceMatchStatus _ _, found => found = none
  | .acceptRideRequest _, accepted => accepted = none
  | _, _ => False

theorem Swap.ofChanged_eq_stale {changed : Nat} :
    Swap.ofChanged changed = .stale ↔ changed = 0 := by
  rw [Swap.ofChanged]
  split <;> simp [*]

theorem Job.unchanged_of_declines {job : Job} {result : job.Result} (declines : job.Declines result)
    (ran : job.runWhile fresh patience before = (some (.ok result), after)) :
    after = before := by
  have effect := Job.runWhile_effect ran
  generalize answered : some (Except.ok result) = answer at effect
  cases effect with
  | read look planned => rfl
  | abandoned => rfl
  | refused violation => rfl
  | declined acceptance => rfl
  | seenSwapped id expected new =>
      obtain rfl := Except.ok.inj (Option.some.inj answered)
      exact Database.swapLastSeen_of_zero (Swap.ofChanged_eq_stale.mp declines)
  | requestSwapped id expected new =>
      obtain rfl := Except.ok.inj (Option.some.inj answered)
      exact Database.swapRequestStatus_of_zero (Swap.ofChanged_eq_stale.mp declines)
  | matchSwapped id expected new =>
      obtain rfl := Except.ok.inj (Option.some.inj answered)
      exact Database.swapMatchStatus_of_zero (Swap.ofChanged_eq_stale.mp declines)
  | matchForced id new =>
      obtain rfl : result = none := declines
      apply Database.setMatchStatus_of_none
      exact mapM_eq_ok_none.mp (Option.some.inj answered).symm
  | accepted acceptance after committed =>
      obtain rfl : result = none := declines
      cases answered
  | _ => exact declines.elim

end Store

end Carpool
