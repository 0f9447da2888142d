import Carpool.Proofs.Linearization

/-!
# Last visits

A visit reads the clock, then the account of its user, and then replaces the
second that it found there by that of the clock.  The replacement is refused if
another visit was recorded since the account was read, but not if one was
recorded between the readings of the clock and of the account.  Such a visit
has been overtaken, and puts an earlier second in the place of a later one.
-/

namespace Carpool

open Store

namespace Store

/-- The second at which a user was last seen. -/
def Database.lastSeen? (database : Database) (id : Uuid) : Option Int :=
  (database.findUser? id.text).bind fun row =>
    match row.lastSeen with
    | .integer second => some second
    | _ => none

namespace Database

variable {database : Database} {id : Uuid}

theorem lastSeen?_eq_some {second : Int} :
    database.lastSeen? id = some second ↔
      ∃ row, database.findUser? id.text = some row ∧ row.lastSeen = .integer second := by
  rw [lastSeen?, Option.bind_eq_some_iff]
  refine exists_congr fun row => and_congr_right fun _ => ?_
  cases row.lastSeen <;> simp

theorem WellFormed.lastSeen?_of_getUser (formed : database.WellFormed) {user : User}
    (read : (database.findUser? id.text).mapM UserRow.decode = .ok (some user)) :
    database.lastSeen? id = some user.lastSeen.second := by
  obtain ⟨row, found, decoded⟩ := mapM_eq_ok_some.mp read
  obtain ⟨stored, rfl⟩ := formed.userEncoded row (mem_of_find? found).1
  rw [UserRow.decode_ofUser] at decoded
  obtain rfl := Except.ok.inj decoded
  exact lastSeen?_eq_some.mpr ⟨_, found, rfl⟩

theorem lastSeen?_swapLastSeen (target : Uuid) (expected new : Int) :
    (database.swapLastSeen target.text expected new).1.lastSeen? id =
      (database.lastSeen? id).map fun second =>
        if id = target ∧ second = expected then new else second := by
  rw [lastSeen?, lastSeen?, findUser?_swapLastSeen]
  cases found : database.findUser? id.text with
  | none => rfl
  | some row =>
      have keyed := (mem_of_find? found).2
      by_cases chosen : id = target
      · cases seen : row.lastSeen with
        | integer second =>
            by_cases same : second = expected <;> simp [keyed, chosen, seen, same]
        | _ => simp [seen]
      · have other : id.text ≠ target.text := mt Uuid.text_inj.mp chosen
        simp [keyed, chosen, other]

/-- The change is applied just if the second is the expected one. -/
theorem WellFormed.swapLastSeen_ne_zero (formed : database.WellFormed) {expected new : Int} :
    (database.swapLastSeen id.text expected new).2 ≠ 0 ↔
      database.lastSeen? id = some expected := by
  refine (changeWhere_ne_zero fun row => { row with lastSeen := .integer new }).trans ?_
  rw [lastSeen?_eq_some]
  constructor
  · rintro ⟨row, member, chosen⟩
    simp only [Bool.and_eq_true, beq_iff_eq] at chosen
    exact ⟨row, find?_of_mem formed.userDistinct member chosen.1, chosen.2⟩
  · rintro ⟨row, found, seen⟩
    obtain ⟨member, keyed⟩ := mem_of_find? found
    exact ⟨row, member, by simp [keyed, seen]⟩

end Database

/-- A guarded change of a last visit finds the expected second and replaces it,
or changes nothing. -/
theorem Job.of_swapLastSeen {fresh : Fresh} {patience : Patience} {before after : Database}
    {id : Uuid} {expected new : Instant} {answer : Except StoreError Swap}
    (formed : before.WellFormed)
    (ran : (Job.swapLastSeen id expected new).runWhile fresh patience before =
      (some answer, after)) :
    answer = .ok .stale ∧ after = before ∨
      answer = .ok .applied ∧ before.lastSeen? id = some expected.second ∧
        after.lastSeen? id = some new.second ∧
        ∀ other, other ≠ id → after.lastSeen? other = before.lastSeen? other := by
  have ran := (Job.runWhile_single rfl).symm.trans ran
  split at ran
  · cases ran
  obtain ⟨answered, rfl⟩ := Prod.mk.inj ran
  obtain rfl := Option.some.inj answered
  by_cases unchanged : (before.swapLastSeen id.text expected.second new.second).2 = 0
  · refine .inl ⟨?_, Database.swapLastSeen_of_zero unchanged⟩
    exact congrArg Except.ok (if_pos unchanged)
  · have seen := formed.swapLastSeen_ne_zero.mp unchanged
    refine .inr ⟨congrArg Except.ok (if_neg unchanged), seen, ?_, fun other different => ?_⟩
    · exact (Database.lastSeen?_swapLastSeen id _ _).trans (by simp [seen])
    · exact (Database.lastSeen?_swapLastSeen id _ _).trans (by simp [different])

end Store

theorem Instant.second_le_of_not_isBefore {first second : Instant}
    (notBefore : second.isBefore first = false) : first.second ≤ second.second := by
  simp only [Instant.isBefore, Bool.or_eq_false_iff, decide_eq_false_iff_not] at notBefore
  exact not_lt.mp notBefore.1

namespace Presence

/-- What is left of a visit once the account has been read. -/
def record (user : User) (seen : Instant) : Call (Except Failure User) :=
  Attempt.go Failure.store (.swapLastSeen user.userId user.lastSeen seen.toSecond) fun swap =>
    match swap with
    | .applied => .done (.ok { user with lastSeen := seen.toSecond })
    | .stale => .done (.error (.conflict .lastSeen))

theorem touchAt_record (caller : Identity) (now : Instant) :
    (touchAt caller now : Call (Except Failure User)) =
      Attempt.go Failure.store (.getUser caller.subject)
        (Matching.whenFound .user caller.subject fun user => record user now) := by
  refine (touchAt_shape caller now).trans ?_
  congr 2
  funext user
  rw [record]
  congr 1
  funext swap
  cases swap <;> rfl

end Presence

namespace System

/-! ## Visits in a schedule -/

section Schedules

variable (setup : Setup) (start : System) (schedule : List Turn)

/-- At a position of the schedule a call is given the answer to a question. -/
def AskedAt (place position : Nat) (query : Query) (given : Given) : Prop :=
  ∃ system operation next, schedule[position]? = some ⟨place, given⟩ ∧
    play setup start (schedule.take position) = some system ∧
    system.running[place]? = some ⟨operation, .ask query next⟩

/-- When a visit reads the clock, looks up the account and replaces its second,
and what the clock showed. -/
structure Sighting where
  place : Nat
  clock : Nat
  look : Nat
  swap : Nat
  seen : Instant

/-- A visit of a user is recorded at these positions of the schedule. -/
structure Recorded (user : Uuid) (sighting : Sighting) : Prop where
  inOrder : sighting.clock < sighting.look ∧ sighting.look < sighting.swap
  clocked : ∃ given, AskedAt setup start schedule sighting.place sighting.clock .clock given ∧
    given.fresh.now = sighting.seen
  looked : ∃ given, AskedAt setup start schedule sighting.place sighting.look
    (.store (.getUser user)) given
  swapped : ∃ given expected, AskedAt setup start schedule sighting.place sighting.swap
    (.store (.swapLastSeen user expected sighting.seen.toSecond)) given
  through : ∃ system caller account,
    play setup start (schedule.take (sighting.swap + 1)) = some system ∧
    system.running[sighting.place]? = some ⟨.touch caller, .done (.ok account)⟩

/-- A visit at a later second comes and goes between the moments at which
another reads the clock and looks up the account. -/
structure Sighting.Overtakes (fast slow : Sighting) : Prop where
  begins : slow.clock < fast.clock
  ends : fast.swap < slow.look
  newer : slow.seen.second < fast.seen.second

/-- Nobody is ever last seen at an earlier second than before. -/
def SeenAdvances : Prop :=
  ∀ earlier later before after user second, earlier ≤ later →
    play setup start (schedule.take earlier) = some before →
    play setup start (schedule.take later) = some after →
    before.database.lastSeen? user = some second →
    ∃ next, after.database.lastSeen? user = some next ∧ second ≤ next

/-- A run of visits in which the clock is never put back. -/
structure Visiting (database : Database) (callers : List Identity) (final : System) : Prop where
  begins : start = opening setup database (callers.map .touch)
  played : play setup start schedule = some final
  patient : ∀ turn ∈ schedule, turn.given.patience = none
  clockAdvances : ∀ earlier later firstPlace secondPlace first second, earlier < later →
    AskedAt setup start schedule firstPlace earlier .clock first →
    AskedAt setup start schedule secondPlace later .clock second →
    second.fresh.now.isBefore first.fresh.now = false
  /-- It shows no earlier second than any that is stored at the start. -/
  clockFollows : ∀ user second place position given, database.lastSeen? user = some second →
    AskedAt setup start schedule place position .clock given → second ≤ given.fresh.now.second

end Schedules

variable {setup : Setup} {start system after final : System} {schedule : List Turn}
  {position : Nat} {database : Database} {callers : List Identity}

theorem step_of_play {turn : Turn} (turnAt : schedule[position]? = some turn)
    (played : play setup start (schedule.take position) = some system)
    (playedOn : play setup start (schedule.take (position + 1)) = some after) :
    step setup system turn.event = some after := by
  rw [List.take_add_one, turnAt, play_append, played, Option.bind_some, Option.toList_some,
    play_cons] at playedOn
  obtain ⟨next, stepped, same⟩ := Option.bind_eq_some_iff.mp playedOn
  exact stepped.trans same

/-! ## Where a second comes from -/

/-- A second that is stored for a user at some position was stored at the start
or by a visit that was recorded before. -/
def Source (setup : Setup) (start : System) (schedule : List Turn) (user : Uuid)
    (position : Nat) (second : Int) : Prop :=
  start.database.lastSeen? user = some second ∨
    ∃ sighting, Recorded setup start schedule user sighting ∧ sighting.swap < position ∧
      second = sighting.seen.second

theorem Source.later {user : Uuid} {second : Int} {last : Nat}
    (source : Source setup start schedule user position second) (earlier : position ≤ last) :
    Source setup start schedule user last second := by
  rcases source with atStart | ⟨sighting, recorded, before, same⟩
  · exact .inl atStart
  · exact .inr ⟨sighting, recorded, by omega, same⟩

/-- How far a visit has come, and what it knows. -/
inductive Phase (setup : Setup) (start : System) (schedule : List Turn) (place position : Nat)
    (caller : Identity) (rest : Call (Except Failure User)) : Prop
  | waiting (same : rest = Presence.touch caller)
  | clocked (clock : Nat) (given : Given)
      (asked : AskedAt setup start schedule place clock .clock given) (earlier : clock < position)
      (same : rest = Presence.touchAt caller given.fresh.now)
  | looked (clock look : Nat) (given lookGiven : Given) (account : User)
      (asked : AskedAt setup start schedule place clock .clock given)
      (looked : AskedAt setup start schedule place look (.store (.getUser caller.subject))
        lookGiven)
      (inOrder : clock < look ∧ look < position) (own : account.userId = caller.subject)
      (source : Source setup start schedule caller.subject look account.lastSeen.second)
      (same : rest = Presence.record account given.fresh.now)
  | ended (result : Except Failure User) (same : rest = .done result)

theorem Phase.later {place last : Nat} {caller : Identity} {rest : Call (Except Failure User)}
    (phase : Phase setup start schedule place position caller rest) (earlier : position ≤ last) :
    Phase setup start schedule place last caller rest := by
  cases phase with
  | waiting same => exact .waiting same
  | clocked clock given asked before same => exact .clocked clock given asked (by omega) same
  | looked clock look given lookGiven account asked looked inOrder own source same =>
      have inOrder : clock < look ∧ look < last := by omega
      exact .looked clock look given lookGiven account asked looked inOrder own source same
  | ended result same => exact .ended result same

/-- What is known at a position of a run of visits. -/
structure Tracked (setup : Setup) (start : System) (schedule : List Turn) (position : Nat)
    (system : System) : Prop where
  played : play setup start (schedule.take position) = some system
  formed : system.database.WellFormed
  phases : ∀ place call, system.running[place]? = some call → ∃ caller rest,
    call = ⟨.touch caller, rest⟩ ∧ Phase setup start schedule place position caller rest
  sources : ∀ user second, system.database.lastSeen? user = some second →
    Source setup start schedule user position second

/-- What a turn makes of the second of a user: nothing, or a visit is recorded
and puts its own in the place of the one that it has read. -/
inductive Moved (setup : Setup) (start : System) (schedule : List Turn) (position : Nat)
    (user : Uuid) (second : Int) : Option Int → Prop
  | kept : Moved setup start schedule position user second (some second)
  | replaced (sighting : Sighting) (recorded : Recorded setup start schedule user sighting)
      (here : sighting.swap = position)
      (source : Source setup start schedule user sighting.look second) :
      Moved setup start schedule position user second (some sighting.seen.second)

theorem Tracked.opening (formed : database.WellFormed) :
    Tracked setup (opening setup database (callers.map .touch)) schedule 0
      (opening setup database (callers.map .touch)) where
  played := rfl
  formed := formed
  phases place call begun := by
    obtain ⟨operation, listed, rfl⟩ := List.mem_map.mp (List.mem_of_getElem? begun)
    obtain ⟨caller, -, rfl⟩ := List.mem_map.mp listed
    exact ⟨caller, _, rfl, .waiting rfl⟩
  sources user second stored := .inl stored

section Step

variable {place : Nat} {given : Given} {caller : Identity} {rest : Call (Except Failure User)}

theorem Tracked.phases_set (tracked : Tracked setup start schedule position system)
    (moved : after.running = system.running.set place ⟨.touch caller, rest⟩)
    (phase : Phase setup start schedule place (position + 1) caller rest) {other : Nat}
    {call : Running} (found : after.running[other]? = some call) :
    ∃ caller rest, call = ⟨.touch caller, rest⟩ ∧
      Phase setup start schedule other (position + 1) caller rest := by
  rw [moved, List.getElem?_set] at found
  split at found
  · subst other
    split at found
    · obtain rfl := Option.some.inj found
      exact ⟨caller, rest, rfl, phase⟩
    · contradiction
  · obtain ⟨caller, rest, rfl, phase⟩ := tracked.phases other call found
    exact ⟨caller, rest, rfl, phase.later (Nat.le_succ position)⟩

theorem Tracked.quiet (tracked : Tracked setup start schedule position system)
    (played : play setup start (schedule.take (position + 1)) = some after)
    (same : after.database = system.database)
    (moved : after.running = system.running.set place ⟨.touch caller, rest⟩)
    (phase : Phase setup start schedule place (position + 1) caller rest) :
    Tracked setup start schedule (position + 1) after ∧
      ∀ user second, system.database.lastSeen? user = some second →
        Moved setup start schedule position user second (after.database.lastSeen? user) := by
  constructor
  · refine ⟨played, same ▸ tracked.formed, fun other call => tracked.phases_set moved phase, ?_⟩
    intro user second stored
    exact (tracked.sources user second (same ▸ stored)).later (Nat.le_succ position)
  · intro user second stored
    rw [same, stored]
    exact .kept

theorem Tracked.recorded (tracked : Tracked setup start schedule position system)
    {sighting : Sighting} {expected : Int} {account : User}
    (played : play setup start (schedule.take (position + 1)) = some after)
    (formed : after.database.WellFormed)
    (recorded : Recorded setup start schedule caller.subject sighting)
    (here : sighting.swap = position)
    (source : Source setup start schedule caller.subject sighting.look expected)
    (moved : after.running = system.running.set place ⟨.touch caller, .done (.ok account)⟩)
    (seen : system.database.lastSeen? caller.subject = some expected)
    (replaced : after.database.lastSeen? caller.subject = some sighting.seen.second)
    (others : ∀ other, other ≠ caller.subject →
      after.database.lastSeen? other = system.database.lastSeen? other) :
    Tracked setup start schedule (position + 1) after ∧
      ∀ user second, system.database.lastSeen? user = some second →
        Moved setup start schedule position user second (after.database.lastSeen? user) := by
  constructor
  · refine ⟨played, formed, fun other call => tracked.phases_set moved (.ended _ rfl), ?_⟩
    intro user second stored
    by_cases own : user = caller.subject
    · subst own
      obtain rfl := Option.some.inj (stored.symm.trans replaced)
      exact .inr ⟨sighting, recorded, by omega, rfl⟩
    · rw [others user own] at stored
      exact (tracked.sources user second stored).later (Nat.le_succ position)
  · intro user second stored
    by_cases own : user = caller.subject
    · subst own
      obtain rfl := Option.some.inj (stored.symm.trans seen)
      rw [replaced]
      exact .replaced sighting recorded here source
    · rw [others user own, stored]
      exact .kept

theorem Tracked.step (tracked : Tracked setup start schedule position system)
    (turnAt : schedule[position]? = some ⟨place, given⟩) (patient : given.patience = none)
    (stepped : System.step setup system (.proceed place given) = some after) :
    Tracked setup start schedule (position + 1) after ∧
      ∀ user second, system.database.lastSeen? user = some second →
        Moved setup start schedule position user second (after.database.lastSeen? user) := by
  have played := play_take_succ turnAt tracked.played stepped
  have asked {operation : Operation} {query : Query} {next : query.Answer → Call operation.Reply}
      (asks : system.running[place]? = some ⟨operation, .ask query next⟩) :
      AskedAt setup start schedule place position query given :=
    ⟨system, operation, next, turnAt, tracked.played, asks⟩
  cases stepped_of_step stepped with
  | timed given asks =>
      obtain ⟨caller, rest, same, phase⟩ := tracked.phases _ _ asks
      cases same
      refine tracked.quiet played rfl rfl ?_
      cases phase with
      | waiting same =>
          rw [Presence.touch_shape] at same
          cases same
          exact .clocked position given (asked asks) (Nat.lt_succ_self position) rfl
      | clocked clock given earlier before same =>
          rw [Presence.touchAt_record] at same
          cases same
      | looked clock look given lookGiven account clocked looked inOrder own source same =>
          cases same
      | ended result same => cases same
  | introspected given asks =>
      obtain ⟨caller, rest, same, phase⟩ := tracked.phases _ _ asks
      cases same
      cases phase with
      | waiting same => cases same
      | clocked clock given earlier before same =>
          rw [Presence.touchAt_record] at same
          cases same
      | looked clock look given lookGiven account clocked looked inOrder own source same =>
          cases same
      | ended result same => cases same
  | abandoned given asks ran =>
      rw [patient] at ran
      exact (Job.runWhile_ne_none ran).elim
  | @answered _ _ _ _ _ answer _ asks ran =>
      obtain ⟨caller, rest, same, phase⟩ := tracked.phases _ _ asks
      cases same
      cases phase with
      | waiting same => cases same
      | clocked clock clockGiven clocked before same =>
          rw [Presence.touchAt_record] at same
          cases same
          obtain ⟨read, rfl⟩ := @Job.of_read _ _ _ _ (.getUser caller.subject) _ _ rfl ran
          refine tracked.quiet played rfl rfl ?_
          rcases answer with error | (_ | account)
          · exact .ended _ rfl
          · exact .ended _ rfl
          · have own := (tracked.formed.of_getUser read.symm).1
            have stored := tracked.formed.lastSeen?_of_getUser read.symm
            exact .looked clock position clockGiven given account clocked (asked asks)
              ⟨before, Nat.lt_succ_self position⟩ own (tracked.sources _ _ stored) rfl
      | looked clock look clockGiven lookGiven account clocked looked inOrder own source same =>
          cases same
          have formed := (Job.runWhile_effect ran).wellFormed tracked.formed
          obtain ⟨rfl, rfl⟩ | ⟨rfl, seen, replaced, others⟩ :=
            Job.of_swapLastSeen tracked.formed ran
          · exact tracked.quiet played rfl rfl (.ended _ rfl)
          · have swapped := asked asks
            rw [own] at seen replaced others swapped
            have through := List.getElem?_set_self (List.getElem?_eq_some_iff.mp asks).1
              (a := ⟨.touch caller,
                .done (.ok { account with lastSeen := clockGiven.fresh.now.toSecond })⟩)
            have recorded : Recorded setup start schedule caller.subject
                ⟨place, clock, look, position, clockGiven.fresh.now⟩ :=
              ⟨inOrder, ⟨_, clocked, rfl⟩, ⟨_, looked⟩, ⟨_, _, swapped⟩, _, caller, _, played,
                through⟩
            exact tracked.recorded played formed recorded rfl source rfl seen replaced others
      | ended result same => cases same

end Step

/-! ## Seconds along a run -/

theorem Visiting.tracked (visiting : Visiting setup start schedule database callers final)
    (formed : database.WellFormed) (position : Nat) (bound : position ≤ schedule.length) :
    ∃ system, Tracked setup start schedule position system := by
  induction position with
  | zero =>
      obtain rfl := visiting.begins
      exact ⟨_, .opening formed⟩
  | succ position ih =>
      obtain ⟨system, tracked⟩ := ih (Nat.le_of_succ_le bound)
      have turnAt : schedule[position]? = some schedule[position] := List.getElem?_eq_getElem bound
      obtain ⟨after, playedOn, -⟩ := play_take visiting.played (position + 1)
      have stepped := step_of_play turnAt tracked.played playedOn
      have patient := visiting.patient _ (List.getElem_mem bound)
      exact ⟨_, (tracked.step turnAt patient stepped).1⟩

theorem Visiting.moved (visiting : Visiting setup start schedule database callers final)
    (formed : database.WellFormed)
    (played : play setup start (schedule.take position) = some system)
    (playedOn : play setup start (schedule.take (position + 1)) = some after)
    {user : Uuid} {second : Int} (stored : system.database.lastSeen? user = some second) :
    Moved setup start schedule position user second (after.database.lastSeen? user) := by
  by_cases bound : position < schedule.length
  · obtain ⟨same, tracked⟩ := visiting.tracked formed position bound.le
    obtain rfl := Option.some.inj (played.symm.trans tracked.played)
    have turnAt : schedule[position]? = some schedule[position] := List.getElem?_eq_getElem bound
    have stepped := step_of_play turnAt played playedOn
    have patient := visiting.patient _ (List.getElem_mem bound)
    exact (tracked.step turnAt patient stepped).2 user second stored
  · rw [List.take_of_length_le (by omega)] at played playedOn
    obtain rfl := Option.some.inj (played.symm.trans playedOn)
    rw [stored]
    exact .kept

/-- Without overtaking no turn puts an earlier second in the place of a later
one. -/
theorem Visiting.advances_turn (visiting : Visiting setup start schedule database callers final)
    (formed : database.WellFormed)
    (orderly : ∀ user slow fast, Recorded setup start schedule user slow →
      Recorded setup start schedule user fast → ¬fast.Overtakes slow)
    (played : play setup start (schedule.take position) = some system)
    (playedOn : play setup start (schedule.take (position + 1)) = some after)
    {user : Uuid} {second : Int} (stored : system.database.lastSeen? user = some second) :
    ∃ next, after.database.lastSeen? user = some next ∧ second ≤ next := by
  have moved := visiting.moved formed played playedOn stored
  generalize after.database.lastSeen? user = outcome at moved
  cases moved with
  | kept => exact ⟨second, rfl, le_rfl⟩
  | replaced slow recorded here source =>
      refine ⟨_, rfl, ?_⟩
      obtain ⟨given, clocked, seen⟩ := recorded.clocked
      rcases source with atStart | ⟨fast, before, earlier, rfl⟩
      · rw [visiting.begins] at atStart
        rw [← seen]
        exact visiting.clockFollows user second _ _ given atStart clocked
      · -- the fast visit did not read the clock after the slow one, or it would overtake it
        by_contra newer
        obtain ⟨fastGiven, fastClocked, fastSeen⟩ := before.clocked
        refine orderly user slow fast recorded before ⟨?_, earlier, not_le.mp newer⟩
        by_contra notAfter
        rcases Nat.lt_or_eq_of_le (not_lt.mp notAfter) with sooner | same
        · have advanced := visiting.clockAdvances _ _ _ _ fastGiven given sooner fastClocked clocked
          rw [fastSeen, seen] at advanced
          exact newer (Instant.second_le_of_not_isBefore advanced)
        · obtain ⟨-, -, -, turn, -⟩ := clocked
          obtain ⟨-, -, -, fastTurn, -⟩ := fastClocked
          rw [same] at fastTurn
          obtain rfl := (Turn.mk.inj (Option.some.inj (turn.symm.trans fastTurn))).2
          rw [← fastSeen, ← seen] at newer
          exact newer le_rfl

theorem not_seenAdvances (earlier later : Nat) {before after : System} {user : Uuid}
    {second next : Int} (ordered : earlier ≤ later)
    (played : play setup start (schedule.take earlier) = some before)
    (playedOn : play setup start (schedule.take later) = some after)
    (stored : before.database.lastSeen? user = some second)
    (storedOn : after.database.lastSeen? user = some next) (back : next < second) :
    ¬SeenAdvances setup start schedule := by
  intro advances
  obtain ⟨same, kept, advanced⟩ := advances _ _ before after user second ordered played playedOn
    stored
  obtain rfl := Option.some.inj (kept.symm.trans storedOn)
  exact absurd back (not_lt.mpr advanced)

theorem Visiting.stored (visiting : Visiting setup start schedule database callers final)
    (formed : database.WellFormed) {user : Uuid} {sighting : Sighting}
    (recorded : Recorded setup start schedule user sighting) :
    ∃ after, play setup start (schedule.take (sighting.swap + 1)) = some after ∧
      after.database.lastSeen? user = some sighting.seen.second := by
  obtain ⟨given, expected, system, operation, next, turnAt, played, asks⟩ := recorded.swapped
  obtain ⟨after, caller, account, playedOn, finished⟩ := recorded.through
  refine ⟨after, playedOn, ?_⟩
  have bound := (List.getElem?_eq_some_iff.mp turnAt).1
  obtain ⟨same, tracked⟩ := visiting.tracked formed _ bound.le
  obtain rfl := Option.some.inj (played.symm.trans tracked.played)
  have stepped : System.step setup system (.proceed sighting.place given) = some after :=
    step_of_play turnAt played playedOn
  have patient : given.patience = none := visiting.patient _ (List.mem_of_getElem? turnAt)
  generalize shown : sighting.seen.toSecond = new at next asks
  obtain ⟨owner, rest, same, phase⟩ := tracked.phases _ _ asks
  cases same
  cases phase with
  | waiting same => cases same
  | clocked clock clockGiven clocked before same =>
      rw [Presence.touchAt_record] at same
      cases same
  | looked clock look clockGiven lookGiven account clocked looked inOrder own source same =>
      cases same
      cases ran : (Job.swapLastSeen account.userId account.lastSeen
          clockGiven.fresh.now.toSecond).runWhile given.fresh given.patience system.database with
      | mk answer changed =>
          cases answer with
          | none =>
              rw [patient] at ran
              exact (Job.runWhile_ne_none ran).elim
          | some answer =>
              obtain rfl := Option.some.inj ((step_store asks ran).symm.trans stepped)
              rw [List.getElem?_set_self (List.getElem?_eq_some_iff.mp asks).1] at finished
              obtain ⟨rfl, -⟩ | ⟨rfl, -, replaced, -⟩ := Job.of_swapLastSeen tracked.formed ran
              · cases finished
              · rw [← shown] at replaced
                exact replaced
  | ended result same => cases same

/-- Without overtaking seconds advance from any position to any later one. -/
theorem Visiting.advances (visiting : Visiting setup start schedule database callers final)
    (formed : database.WellFormed)
    (orderly : ∀ user slow fast, Recorded setup start schedule user slow →
      Recorded setup start schedule user fast → ¬fast.Overtakes slow) :
    SeenAdvances setup start schedule := by
  intro earlier later before after user second ordered played playedOn stored
  induction later, ordered using Nat.le_induction generalizing after with
  | base =>
      obtain rfl := Option.some.inj (played.symm.trans playedOn)
      exact ⟨second, stored, le_rfl⟩
  | succ later ordered ih =>
      obtain ⟨middle, playedTo, -⟩ := play_take visiting.played later
      obtain ⟨between, storedTo, advanced⟩ := ih middle playedTo
      obtain ⟨next, storedOn, advancedOn⟩ :=
        visiting.advances_turn formed orderly playedTo playedOn storedTo
      exact ⟨next, storedOn, advanced.trans advancedOn⟩

/-- Seconds advance along a run of visits just if no recorded visit was
overtaken by another of the same user. -/
theorem seen_advances_iff_not_overtaken (reachable : Reachable setup system)
    (visiting : Visiting setup start schedule system.database callers final) :
    SeenAdvances setup start schedule ↔
      ∀ user slow fast, Recorded setup start schedule user slow →
        Recorded setup start schedule user fast → ¬fast.Overtakes slow := by
  have formed := ((entitlements_lawful setup).holds reachable).formed
  refine ⟨fun advances user slow fast slowRecorded fastRecorded overtakes => ?_,
    visiting.advances formed⟩
  obtain ⟨before, played, fastStored⟩ := visiting.stored formed fastRecorded
  obtain ⟨after, playedOn, slowStored⟩ := visiting.stored formed slowRecorded
  have ordered : fast.swap + 1 ≤ slow.swap + 1 := by
    have ends := overtakes.ends
    have inOrder := slowRecorded.inOrder
    omega
  exact not_seenAdvances _ _ ordered played playedOn fastStored slowStored overtakes.newer advances

/-- A schedule in which the clock never goes back from one turn to the next, and
begins no earlier than the users were last seen. -/
theorem Visiting.of_ordered (first : Int)
    (played : play setup (opening setup database (callers.map .touch)) schedule = some final)
    (patient : ∀ turn ∈ schedule, turn.given.patience = none)
    (ordered : schedule.Pairwise fun earlier later =>
      later.given.fresh.now.isBefore earlier.given.fresh.now = false)
    (seen : ∀ row ∈ database.userRows, row.lastSeen = .integer first)
    (follows : ∀ turn ∈ schedule, first ≤ turn.given.fresh.now.second) :
    Visiting setup (opening setup database (callers.map .touch)) schedule database callers
      final where
  begins := rfl
  played := played
  patient := patient
  clockAdvances := by
    rintro earlier later _ _ _ _ before ⟨_, _, _, turn, _⟩ ⟨_, _, _, laterTurn, _⟩
    obtain ⟨bound, same⟩ := List.getElem?_eq_some_iff.mp turn
    obtain ⟨laterBound, laterSame⟩ := List.getElem?_eq_some_iff.mp laterTurn
    have advances := List.pairwise_iff_getElem.mp ordered earlier later bound laterBound before
    rwa [same, laterSame] at advances
  clockFollows := by
    rintro user second place position given stored ⟨_, _, _, turn, _⟩
    obtain ⟨row, found, shown⟩ := Database.lastSeen?_eq_some.mp stored
    obtain rfl : first = second :=
      Cell.integer.inj ((seen row (Database.mem_of_find? found).1).symm.trans shown)
    exact follows _ (List.mem_of_getElem? turn)

end System

/-! ## A visit that is overtaken -/

namespace Sample

def after (seconds : Fin 60) : Instant where
  second := moment.second + seconds
  nanosecond := 0
  first_le := by revert seconds; decide
  le_last := by revert seconds; decide
  nanosecond_lt := Instant.epoch.nanosecond_lt
  leap_ends_minute leap := by simp at leap

def turn (place : Nat) (seconds : Fin 60) : System.Turn :=
  ⟨place, ⟨⟨uuid 0, uuid 0, after seconds⟩, none, .unreachable ""⟩⟩

/-- The rider visits twice at once: one visit reads the clock at ten seconds, the
other at twenty and is recorded before the first goes on. -/
def overtaken : List System.Turn :=
  [turn 0 10, turn 1 20, turn 1 20, turn 1 20, turn 0 21, turn 0 22]

def visitors : List Identity := [rider, rider]

def visits (system : System) : System :=
  .opening (setup .participants) system.database (visitors.map .touch)

end Sample

namespace System

/-- The later second is stored, and then the earlier one. -/
theorem overtaken_visiting :
    ∃ system between final,
      run (Sample.setup .participants) initial Sample.published = some system ∧
      Visiting (Sample.setup .participants) (Sample.visits system) Sample.overtaken system.database
        Sample.visitors final ∧
      play (Sample.setup .participants) (Sample.visits system) (Sample.overtaken.take 4) =
        some between ∧
      between.database.lastSeen? (Sample.uuid 1) = some 1700000020 ∧
      final.database.lastSeen? (Sample.uuid 1) = some 1700000010 := by
  obtain ⟨system, ran, visited⟩ := Option.map_eq_some_iff.mp
    (by decide +kernel : (run (Sample.setup .participants) initial Sample.published).map
      (fun system =>
        (decide (∀ row ∈ system.database.userRows, row.lastSeen = .integer 1700000000),
          (play (Sample.setup .participants) (Sample.visits system) (Sample.overtaken.take 4)).map
            fun between => between.database.lastSeen? (Sample.uuid 1),
          (play (Sample.setup .participants) (Sample.visits system) Sample.overtaken).map
            fun final => final.database.lastSeen? (Sample.uuid 1))) =
      some (true, some (some 1700000020), some (some 1700000010)))
  obtain ⟨seen, visitedTo, visitedOn⟩ := (Prod.mk.inj visited).imp_right Prod.mk.inj
  obtain ⟨between, playedTo, storedTo⟩ := Option.map_eq_some_iff.mp visitedTo
  obtain ⟨final, played, stored⟩ := Option.map_eq_some_iff.mp visitedOn
  refine ⟨system, between, final, ran, ?_, playedTo, storedTo, stored⟩
  exact .of_ordered 1700000000 played (by decide +kernel) (by decide +kernel)
    (of_decide_eq_true seen) (by decide +kernel)

/-- One of the visits was recorded and overtaken. -/
theorem overtaken_visit :
    ∃ system final, run (Sample.setup .participants) initial Sample.published = some system ∧
      Visiting (Sample.setup .participants) (Sample.visits system) Sample.overtaken system.database
        Sample.visitors final ∧
      ∃ user slow fast,
        Recorded (Sample.setup .participants) (Sample.visits system) Sample.overtaken user slow ∧
        Recorded (Sample.setup .participants) (Sample.visits system) Sample.overtaken user fast ∧
        fast.Overtakes slow := by
  obtain ⟨system, between, final, ran, visiting, playedTo, storedTo, stored⟩ := overtaken_visiting
  refine ⟨system, final, ran, visiting, ?_⟩
  by_contra orderly
  have back : ¬SeenAdvances (Sample.setup .participants) (Sample.visits system) Sample.overtaken :=
    not_seenAdvances 4 6 (by decide) playedTo visiting.played storedTo stored (by decide)
  refine back ((seen_advances_iff_not_overtaken ⟨Sample.published, ran⟩ visiting).mpr ?_)
  intro user slow fast slowRecorded fastRecorded overtakes
  exact orderly ⟨user, slow, fast, slowRecorded, fastRecorded, overtakes⟩

/-- The clock only goes forward, and yet the rider, last seen at twenty seconds,
is then last seen at ten. -/
theorem overtaken_seen_goes_back :
    ∃ system between final,
      run (Sample.setup .participants) initial Sample.published = some system ∧
      Visiting (Sample.setup .participants) (Sample.visits system) Sample.overtaken system.database
        Sample.visitors final ∧
      play (Sample.setup .participants) (Sample.visits system) (Sample.overtaken.take 4) =
        some between ∧
      between.database.lastSeen? (Sample.uuid 1) = some 1700000020 ∧
      final.database.lastSeen? (Sample.uuid 1) = some 1700000010 ∧
      ¬SeenAdvances (Sample.setup .participants) (Sample.visits system) Sample.overtaken := by
  obtain ⟨system, between, final, ran, visiting, playedTo, storedTo, stored⟩ := overtaken_visiting
  exact ⟨system, between, final, ran, visiting, playedTo, storedTo, stored,
    not_seenAdvances 4 6 (by decide) playedTo visiting.played storedTo stored (by decide)⟩

end System

end Carpool
