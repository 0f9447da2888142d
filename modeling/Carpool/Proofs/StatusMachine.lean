import Carpool.Proofs.Service.Entitlement

/-!
# The status machine of matches

Which call may bring a match into existence, and which call may change its
status.  The law is proved for one step of the running system, whatever happened
between the questions of the call that takes it, and from there for whole runs.
-/

namespace Carpool

open Store

/-- An operation may make this match. -/
inductive Birth : Operation → MatchRow → Prop
  | requested {caller : Identity} {ride : Uuid} {row : MatchRow}
      (status : row.status = MatchStatus.requested.name)
      (rider : row.riderId = caller.subject.text) : Birth (.requestToJoin caller ride) row
  | accepted {caller : Identity} {request : Uuid} {row : MatchRow}
      (status : row.status = MatchStatus.accepted.name)
      (driver : row.driverId = caller.subject.text) : Birth (.acceptRideRequest caller request) row

/-- An operation may bring this match to another status. -/
inductive Change (policy : CompletionPolicy) : Operation → MatchRow → MatchStatus → Prop
  | accept {caller : Identity} {pairing : Uuid} {row : MatchRow}
      (names : row.matchId = some pairing.text) (status : row.status = MatchStatus.requested.name)
      (driver : row.driverId = caller.subject.text) :
      Change policy (.acceptRequest caller pairing) row .accepted
  | reject {caller : Identity} {pairing : Uuid} {row : MatchRow}
      (names : row.matchId = some pairing.text) (status : row.status = MatchStatus.requested.name)
      (driver : row.driverId = caller.subject.text) :
      Change policy (.rejectRequest caller pairing) row .rejected
  | complete {caller : Identity} {pairing : Uuid} {row : MatchRow}
      (restricted : policy = .participants) (names : row.matchId = some pairing.text)
      (status : row.status = MatchStatus.accepted.name)
      (takesPart : row.riderId = caller.subject.text ∨ row.driverId = caller.subject.text) :
      Change policy (.completeMatch caller pairing) row .completed
  | override {caller : Identity} {pairing : Uuid} {row : MatchRow}
      (anyone : policy = .unrestricted) (names : row.matchId = some pairing.text) :
      Change policy (.completeMatch caller pairing) row .completed

/-- What one operation may do to the matches: it may make new ones, and change
the status of old ones, as it is allowed to. -/
structure Abides (policy : CompletionPolicy) (operation : Operation) (before after : Database) :
    Prop where
  births : ∀ {id : String} {row : MatchRow}, before.findMatch? id = none →
    after.findMatch? id = some row → Birth operation row
  changes : ∀ {id : String} {row : MatchRow}, before.findMatch? id = some row →
    after.findMatch? id = some row ∨
      ∃ status, Change policy operation row status ∧
        after.findMatch? id = some { row with status := status.name }

namespace Abides

variable {policy : CompletionPolicy} {operation : Operation} {before after : Database}

theorem of_same (same : after.matchRows = before.matchRows) :
    Abides policy operation before after := by
  have lookup (id : String) : after.findMatch? id = before.findMatch? id := by
    rw [Database.findMatch?, Database.findMatch?, same]
  constructor
  · intro id row absent found
    rw [lookup, absent] at found
    contradiction
  · intro id row found
    rw [lookup]
    exact .inl found

theorem of_appended {new : MatchRow} (appended : after.matchRows = before.matchRows ++ [new])
    (birth : Birth operation new) : Abides policy operation before after := by
  have lookup (id : String) : after.findMatch? id =
      (before.findMatch? id).or (if new.matchId = some id then some new else none) := by
    rw [Database.findMatch?, appended]
    exact Database.find?_append_new new id
  constructor
  · intro id row absent found
    rw [lookup, absent, Option.none_or] at found
    split at found
    · obtain rfl := Option.some.inj found
      exact birth
    · contradiction
  · intro id row found
    rw [lookup, found]
    exact .inl rfl

theorem of_swapped {record : Match} {expected new : MatchStatus}
    (stored : before.findMatch? record.matchId.text = some (.ofMatch record))
    (change : record.status = expected → Change policy operation (.ofMatch record) new) :
    Abides policy operation before
      (before.swapMatchStatus record.matchId.text expected.name new.name).1 := by
  constructor
  · intro id row absent found
    rw [Database.findMatch?_swapMatchStatus, absent] at found
    contradiction
  · intro id row found
    rw [Database.findMatch?_swapMatchStatus, found, Option.map_some]
    split
    · rename_i chosen
      simp only [Bool.and_eq_true, beq_iff_eq] at chosen
      have keyed := (Database.mem_of_find? found).2
      have same : id = record.matchId.text := Option.some.inj (keyed.symm.trans chosen.1)
      rw [same, stored] at found
      obtain rfl := Option.some.inj found
      exact .inr ⟨new, change (MatchStatus.name_inj.mp chosen.2), rfl⟩
    · exact .inl rfl

theorem of_overridden {caller : Identity} {pairing : Uuid} (anyone : policy = .unrestricted) :
    Abides policy (.completeMatch caller pairing) before
      (before.setMatchStatus pairing.text MatchStatus.completed.name).1 := by
  constructor
  · intro id row absent found
    rw [Database.findMatch?_setMatchStatus, absent] at found
    contradiction
  · intro id row found
    rw [Database.findMatch?_setMatchStatus, found, Option.map_some]
    split
    · rename_i chosen
      exact .inr ⟨.completed, .override anyone (beq_iff_eq.mp chosen), rfl⟩
    · exact .inl rfl

theorem of_accept {request : Uuid} {accepted : Accepted}
    (committed : before.accept request accepted = .ok (some after))
    (birth : Birth operation (.ofMatch accepted.record)) :
    Abides policy operation before after := by
  obtain ⟨row, offered, paired, encoded, offering, pairing, -, rfl⟩ :=
    Database.accept_eq_ok committed
  obtain ⟨-, -, rfl⟩ := Database.insertOffer_eq_ok.mp offering
  obtain ⟨-, -, -, rfl⟩ := Database.insertMatch_eq_ok.mp pairing
  exact of_appended rfl birth

theorem of_effect {fresh : Fresh} {job : Job} {answer : Option (Except StoreError job.Result)}
    (effect : Effect fresh before job answer after)
    (entitled : Entitled policy operation before job) :
    Abides policy operation before after := by
  have frame := effect.frame
  cases effect with
  | matchCreated input after inserted =>
      obtain ⟨-, -, -, rfl⟩ := Database.insertMatch_eq_ok.mp inserted
      cases entitled with
      | lookUp lookup => exact lookup.elim
      | join stored drives other => exact of_appended rfl (.requested rfl rfl)
  | matchSwapped id expected new =>
      cases entitled with
      | lookUp lookup => exact lookup.elim
      | accept stored drives =>
          refine of_swapped stored fun requested => ?_
          exact .accept rfl (MatchStatus.name_inj.mpr requested) (Uuid.text_inj.mpr drives)
      | reject stored drives =>
          refine of_swapped stored fun requested => ?_
          exact .reject rfl (MatchStatus.name_inj.mpr requested) (Uuid.text_inj.mpr drives)
      | complete restricted stored takesPart =>
          refine of_swapped stored fun accepted => ?_
          refine .complete restricted rfl (MatchStatus.name_inj.mpr accepted) ?_
          simpa [Match.involves, MatchRow.ofMatch] using takesPart
  | matchForced id new =>
      cases entitled with
      | lookUp lookup => exact lookup.elim
      | override anyone => exact of_overridden anyone
  | accepted acceptance after committed =>
      cases entitled with
      | lookUp lookup => exact lookup.elim
      | take stored other => exact of_accept committed (.accepted rfl rfl)
  | read | abandoned | refused | declined => exact of_same rfl
  | _ => exact of_same (frame.pairings id)

end Abides

namespace System

variable {setup : Setup} {system after : System} {event : Event}

def served? (system : System) : Event → Option Operation
  | .proceed place _ => system.running[place]?.map Running.operation
  | .arrive _ | .leave _ => none

theorem step_abides (reachable : Reachable setup system)
    (stepped : step setup system event = some after) :
    after.database = system.database ∨
      ∃ operation, system.served? event = some operation ∧
        Abides setup.policy operation system.database after.database := by
  have holds := (entitlements_lawful setup).holds reachable
  have unchanged : system.database.Extends setup.policy system.database := .refl holds.formed
  cases stepped_of_step stepped with
  | arrived operation => exact .inl rfl
  | left place => exact .inl rfl
  | timed given asks => exact .inl rfl
  | introspected given asks => exact .inl rfl
  | answered given asks ran =>
      have entitled := (holds.asking asks _ unchanged).1
      refine .inr ⟨_, ?_, .of_effect (Job.runWhile_effect ran) entitled⟩
      rw [served?, asks, Option.map_some]
  | abandoned given asks ran =>
      have entitled := (holds.asking asks _ unchanged).1
      refine .inr ⟨_, ?_, .of_effect (Job.runWhile_effect ran) entitled⟩
      rw [served?, asks, Option.map_some]

/-- Stored matches are made and changed by whom the law allows. -/
theorem step_birth (reachable : Reachable setup system)
    (stepped : step setup system event = some after) {row : MatchRow}
    (member : row ∈ after.database.matchRows)
    (new : row.matchId ∉ system.database.matchRows.map MatchRow.matchId) :
    ∃ operation, system.served? event = some operation ∧ Birth operation row := by
  have formed := ((entitlements_lawful setup).holds (reachable.next stepped)).formed
  rcases step_abides reachable stepped with same | ⟨operation, served, abides⟩
  · rw [same] at member
    exact absurd (List.mem_map_of_mem member) new
  · obtain ⟨record, rfl, found⟩ := formed.find_match member
    refine ⟨operation, served, abides.births ?_ found⟩
    exact Database.find?_eq_none_iff.mpr new

theorem step_change (reachable : Reachable setup system)
    (stepped : step setup system event = some after) {row : MatchRow}
    (member : row ∈ system.database.matchRows) :
    row ∈ after.database.matchRows ∨
      ∃ operation status, system.served? event = some operation ∧
        Change setup.policy operation row status ∧
        { row with status := status.name } ∈ after.database.matchRows := by
  have formed := ((entitlements_lawful setup).holds reachable).formed
  rcases step_abides reachable stepped with same | ⟨operation, served, abides⟩
  · exact .inl (same ▸ member)
  · obtain ⟨record, rfl, found⟩ := formed.find_match member
    rcases abides.changes found with kept | ⟨status, change, changed⟩
    · exact .inl (Database.mem_of_find? kept).1
    · exact .inr ⟨operation, status, served, change, (Database.mem_of_find? changed).1⟩

/-- A status that leads nowhere is never left. -/
theorem status_never_left {status : MatchStatus}
    (final : ∀ {next}, MatchStatus.Leads setup.policy status next → next = status)
    (reachable : Reachable setup system) (reaches : Reaches setup system after) {row : MatchRow}
    (member : row ∈ system.database.matchRows) (reached : row.status = status.name) :
    row ∈ after.database.matchRows := by
  have lawful := entitlements_lawful setup
  obtain ⟨record, rfl, found⟩ := (lawful.holds reachable).formed.find_match member
  obtain ⟨next, leads, foundAfter⟩ := (lawful.grows reachable reaches).pairings record found
  have same : record.status = status := MatchStatus.name_inj.mp reached
  rw [same] at leads
  rw [final leads, ← same] at foundAfter
  exact (Database.mem_of_find? foundAfter).1

/-- Where only participants complete matches, a completed match was accepted
before, in an earlier state of the run. -/
theorem accepted_before_completed (restricted : setup.policy = .participants)
    {events : List Event} (ran : run setup initial events = some system) {row : MatchRow}
    (member : row ∈ system.database.matchRows)
    (completed : row.status = MatchStatus.completed.name) :
    ∃ earlier later middle, events = earlier ++ later ∧
      run setup initial earlier = some middle ∧
      { row with status := MatchStatus.accepted.name } ∈ middle.database.matchRows := by
  induction events using List.reverseRecOn generalizing system with
  | nil =>
      obtain rfl : initial = system := by simpa [run] using ran
      cases member
  | append_singleton events event ih =>
      rw [run, List.foldlM_append] at ran
      obtain ⟨before, ranFirst, stepped⟩ := Option.bind_eq_some_iff.mp ran
      have stepped : step setup before event = some system := by simpa using stepped
      have reachable : Reachable setup before := ⟨events, ranFirst⟩
      -- the last step has made the match, has completed it, or has left it alone
      by_cases new : row.matchId ∉ before.database.matchRows.map MatchRow.matchId
      · obtain ⟨operation, -, birth⟩ := step_birth reachable stepped member new
        cases birth with
        | requested status => exact absurd (status.symm.trans completed) (by decide)
        | accepted status => exact absurd (status.symm.trans completed) (by decide)
      · obtain ⟨old, oldMember, sameId⟩ := List.mem_map.mp (not_not.mp new)
        have formed := ((entitlements_lawful setup).holds (reachable.next stepped)).formed
        have unique := List.inj_on_of_nodup_map formed.matchDistinct
        rcases step_change reachable stepped oldMember with kept | ⟨_, status, -, change, changed⟩
        · obtain rfl := unique kept member sameId
          obtain ⟨earlier, later, middle, rfl, ranEarlier, accepted⟩ := ih ranFirst oldMember
          exact ⟨earlier, later ++ [event], middle, List.append_assoc .., ranEarlier, accepted⟩
        · obtain rfl := unique changed member sameId
          have status : status = .completed := MatchStatus.name_inj.mp completed
          cases change with
          | accept => contradiction
          | reject => contradiction
          | override anyone names => exact absurd (anyone.symm.trans restricted) (by decide)
          | complete restricted names accepted takesPart =>
              refine ⟨events, [event], before, rfl, ranFirst, ?_⟩
              rw [← accepted]
              exact oldMember

/-- The law of the status machine, at a state that some events have led to. -/
structure FollowsStatusMachine (setup : Setup) (events : List Event) (system : System) : Prop where
  /-- No two matches have one identifier. -/
  distinct : (system.database.matchRows.map MatchRow.matchId).Nodup
  /-- Whatever happens next, a new match is made by an operation that may make it. -/
  born : ∀ event after, step setup system event = some after →
    ∀ row ∈ after.database.matchRows,
      row.matchId ∉ system.database.matchRows.map MatchRow.matchId →
      ∃ operation, system.served? event = some operation ∧ Birth operation row
  /-- Whatever happens next, a match stays as it is, or an operation changes its
  status that may do so. -/
  changed : ∀ event after, step setup system event = some after →
    ∀ row ∈ system.database.matchRows, row ∈ after.database.matchRows ∨
      ∃ operation status, system.served? event = some operation ∧
        Change setup.policy operation row status ∧
        { row with status := status.name } ∈ after.database.matchRows
  completedStays : ∀ after, Reaches setup system after → ∀ row ∈ system.database.matchRows,
    row.status = MatchStatus.completed.name → row ∈ after.database.matchRows
  rejectedStays : setup.policy = .participants →
    ∀ after, Reaches setup system after → ∀ row ∈ system.database.matchRows,
      row.status = MatchStatus.rejected.name → row ∈ after.database.matchRows
  acceptedFirst : setup.policy = .participants → ∀ row ∈ system.database.matchRows,
    row.status = MatchStatus.completed.name →
    ∃ earlier later middle, events = earlier ++ later ∧ run setup initial earlier = some middle ∧
      { row with status := MatchStatus.accepted.name } ∈ middle.database.matchRows

/-- Every run follows the law of the status machine, in every state that it
passes. -/
theorem run_follows_statusMachine {events : List Event}
    (ran : run setup initial events = some system) :
    FollowsStatusMachine setup events system := by
  have reachable : Reachable setup system := ⟨events, ran⟩
  constructor
  · exact ((entitlements_lawful setup).holds reachable).formed.matchDistinct
  · intro event after stepped row member new
    exact step_birth reachable stepped member new
  · intro event after stepped row member
    exact step_change reachable stepped member
  · intro after reaches row member completed
    exact status_never_left MatchStatus.Leads.of_completed reachable reaches member completed
  · intro restricted after reaches row member rejected
    refine status_never_left ?_ reachable reaches member rejected
    rw [restricted]
    exact MatchStatus.Leads.of_rejected
  · intro restricted row member completed
    exact accepted_before_completed restricted ran member completed

/-- A match that a driver made by accepting a request, and that its rider
completed. -/
theorem race_follows_statusMachine :
    ∃ system, run (Sample.setup .participants) initial Sample.completed = some system ∧
      system.database.matchRows.map MatchRow.status = [MatchStatus.completed.name] ∧
      FollowsStatusMachine (Sample.setup .participants) Sample.completed system := by
  obtain ⟨system, ran, statuses⟩ := Option.map_eq_some_iff.mp
    (by decide +kernel : (run (Sample.setup .participants) initial Sample.completed).map
      (fun system => system.database.matchRows.map MatchRow.status) =
        some [MatchStatus.completed.name])
  exact ⟨system, ran, statuses, run_follows_statusMachine ran⟩

end System

end Carpool
