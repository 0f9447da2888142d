import Carpool.Proofs.Store.GuardedColumns

/-!
# Compare-and-swap

Any number of writers expect the same value in one column of one row, and each wants
to put another one there.  In whatever order they come, and whatever other jobs run
in between, the first of them finds what it expects and all others come too late.
-/

namespace Carpool

namespace Store

variable {column : GuardedColumn}

/-- A turn of the store: a swap of the race, for a caller who stays, or another job. -/
inductive RaceTurn (column : GuardedColumn)
  | swap (new : column.Value) (fresh : Fresh)
  | other (job : Job) (fresh : Fresh) (patience : Patience)

/-- The row that the swaps of a race are about, and the value that they all expect. -/
structure Race (column : GuardedColumn) where
  id : Uuid
  expected : column.Value

/-- One swap of a race, with the contents before and after it. -/
structure RaceSwap (column : GuardedColumn) where
  new : column.Value
  before : Database
  answer : Except StoreError Swap
  after : Database

def RaceTurn.new? : RaceTurn column → Option column.Value
  | .swap new _ => some new
  | .other _ _ _ => none

namespace Race

/-- The contents after a turn. -/
def next (race : Race column) : RaceTurn column → Database → Database
  | .swap new fresh, database => (column.swap race.id race.expected new fresh database).2
  | .other job fresh patience, database => (job.runWhile fresh patience database).2

/-- The contents after some turns. -/
def last (race : Race column) : List (RaceTurn column) → Database → Database
  | [], database => database
  | turn :: rest, database => race.last rest (race.next turn database)

/-- The swaps among some turns, in the order in which they run. -/
def swaps (race : Race column) : List (RaceTurn column) → Database → List (RaceSwap column)
  | [], _ => []
  | .swap new fresh :: rest, database =>
      let (answer, after) := column.swap race.id race.expected new fresh database
      ⟨new, database, answer, after⟩ :: race.swaps rest after
  | .other job fresh patience :: rest, database =>
      race.swaps rest (job.runWhile fresh patience database).2

/-- The row exists and holds what the swaps expect. -/
def IsOpen (race : Race column) (database : Database) : Prop :=
  column.held database race.id = some (column.stored race.expected)

/-- A swap brings another value than the one it expects, and another job leaves the
value of the row alone. -/
def Allows (race : Race column) (database : Database) : RaceTurn column → Prop
  | .swap new _ => column.stored new ≠ column.stored race.expected
  | .other job fresh patience =>
      column.held (job.runWhile fresh patience database).2 race.id = column.held database race.id

/-- Every turn is allowed when it comes. -/
def AllowsAll (race : Race column) : List (RaceTurn column) → Database → Prop
  | [], _ => True
  | turn :: rest, database =>
      race.Allows database turn ∧ race.AllowsAll rest (race.next turn database)

theorem allows_of_spares (race : Race column) {job : Job} {fresh : Fresh}
    (spares : ¬job.WritesTo fresh race.id column) (patience : Patience) (database : Database) :
    race.Allows database (.other job fresh patience) :=
  (Job.runWhile_effect rfl).held_spared spares

/-- Of the swaps exactly the first is applied, if the row holds what they expect, and
none otherwise.  A swap that is applied puts its value in place and changes nothing
else, and a stale one changes nothing at all. -/
structure HasOneWinner (race : Race column) (turns : List (RaceTurn column))
    (database : Database) : Prop where
  won : race.IsOpen database → ∀ winner losers, turns.filterMap RaceTurn.new? = winner :: losers →
    (race.swaps turns database).map RaceSwap.answer =
        .ok .applied :: List.replicate losers.length (.ok .stale) ∧
      column.held (race.last turns database) race.id = some (column.stored winner)
  lost : ¬race.IsOpen database →
    (race.swaps turns database).map RaceSwap.answer =
        List.replicate (turns.filterMap RaceTurn.new?).length (.ok .stale) ∧
      column.held (race.last turns database) race.id = column.held database race.id
  exact : ∀ swap ∈ race.swaps turns database,
    swap.answer = .ok .applied ∧ swap.after = column.put race.id swap.new swap.before ∨
      swap.answer = .ok .stale ∧ swap.after = swap.before

/-! ## One turn -/

variable {race : Race column} {database : Database} {turns : List (RaceTurn column)}

theorem swap_of_isOpen (kept : database.KeepsSchema) (isOpen : race.IsOpen database)
    (new : column.Value) (fresh : Fresh) :
    column.swap race.id race.expected new fresh database =
      (.ok .applied, column.put race.id new database) := by
  rw [column.swap_eq kept]
  exact if_pos isOpen

theorem swap_of_not_isOpen (kept : database.KeepsSchema) (closed : ¬race.IsOpen database)
    (new : column.Value) (fresh : Fresh) :
    column.swap race.id race.expected new fresh database = (.ok .stale, database) := by
  rw [column.swap_eq kept]
  exact if_neg closed

theorem next_keepsSchema (kept : database.KeepsSchema) (turn : RaceTurn column) :
    (race.next turn database).KeepsSchema := by
  cases turn with
  | other job fresh patience => exact job.keepsSchema kept
  | swap new fresh =>
      cases column with
      | lastSeen => exact kept.swapLastSeen _ _ _
      | matchStatus => exact kept.changeMatches rfl
      | requestStatus => exact kept.swapRequestStatus _ _ _

/-! ## Whole races -/

theorem lost_of_not_isOpen (kept : database.KeepsSchema) (closed : ¬race.IsOpen database)
    (allowed : race.AllowsAll turns database) :
    (race.swaps turns database).map RaceSwap.answer =
        List.replicate (turns.filterMap RaceTurn.new?).length (.ok .stale) ∧
      column.held (race.last turns database) race.id = column.held database race.id := by
  induction turns generalizing database with
  | nil => exact ⟨rfl, rfl⟩
  | cons turn rest ih =>
      have keptNext : (race.next turn database).KeepsSchema := next_keepsSchema kept turn
      obtain ⟨fair, others⟩ := allowed
      cases turn with
      | other job fresh patience =>
          have same : column.held (race.next (.other job fresh patience) database) race.id =
              column.held database race.id := fair
          have closedNext : ¬race.IsOpen (race.next (.other job fresh patience) database) := by
            rw [IsOpen, same]
            exact closed
          obtain ⟨answers, ends⟩ := ih keptNext closedNext others
          exact ⟨answers, ends.trans same⟩
      | swap new fresh =>
          have stale := swap_of_not_isOpen kept closed new fresh
          have unchanged : race.next (.swap new fresh) database = database :=
            congrArg Prod.snd stale
          rw [unchanged] at others
          obtain ⟨answers, ends⟩ := ih kept closed others
          refine ⟨?_, ?_⟩
          · simp [swaps, stale, answers, RaceTurn.new?, List.replicate_succ]
          · rw [last, unchanged, ends]

theorem won_of_isOpen (kept : database.KeepsSchema) (isOpen : race.IsOpen database)
    (allowed : race.AllowsAll turns database) {winner : column.Value} {losers : List column.Value}
    (entered : turns.filterMap RaceTurn.new? = winner :: losers) :
    (race.swaps turns database).map RaceSwap.answer =
        .ok .applied :: List.replicate losers.length (.ok .stale) ∧
      column.held (race.last turns database) race.id = some (column.stored winner) := by
  induction turns generalizing database with
  | nil => contradiction
  | cons turn rest ih =>
      have keptNext : (race.next turn database).KeepsSchema := next_keepsSchema kept turn
      obtain ⟨fair, others⟩ := allowed
      cases turn with
      | other job fresh patience =>
          have same : column.held (race.next (.other job fresh patience) database) race.id =
              column.held database race.id := fair
          exact ih keptNext (same.trans isOpen) others entered
      | swap new fresh =>
          obtain ⟨rfl, rfl⟩ := List.cons.inj entered
          have applied := swap_of_isOpen kept isOpen new fresh
          have changed : race.next (.swap new fresh) database = column.put race.id new database :=
            congrArg Prod.snd applied
          have holds : column.held (column.put race.id new database) race.id =
              some (column.stored new) := by
            have present : column.held database race.id = _ := isOpen
            rw [column.held_put, present, Option.map_some]
          have closed : ¬race.IsOpen (column.put race.id new database) := by
            rw [IsOpen, holds]
            exact fun same => fair (Option.some.inj same)
          rw [changed] at others keptNext
          obtain ⟨answers, ends⟩ := lost_of_not_isOpen keptNext closed others
          refine ⟨?_, ?_⟩
          · simp [swaps, applied, answers]
          · rw [last, changed, ends, holds]

theorem exact_of_keepsSchema (kept : database.KeepsSchema) :
    ∀ swap ∈ race.swaps turns database,
      swap.answer = .ok .applied ∧ swap.after = column.put race.id swap.new swap.before ∨
        swap.answer = .ok .stale ∧ swap.after = swap.before := by
  induction turns generalizing database with
  | nil => nofun
  | cons turn rest ih =>
      have keptNext : (race.next turn database).KeepsSchema := next_keepsSchema kept turn
      have others := ih keptNext
      cases turn with
      | other job fresh patience => exact others
      | swap new fresh =>
          refine List.forall_mem_cons.mpr ⟨?_, others⟩
          by_cases isOpen : race.IsOpen database
          · have applied := swap_of_isOpen kept isOpen new fresh
            exact .inl ⟨congrArg Prod.fst applied, congrArg Prod.snd applied⟩
          · have stale := swap_of_not_isOpen kept isOpen new fresh
            exact .inr ⟨congrArg Prod.fst stale, congrArg Prod.snd stale⟩

theorem hasOneWinner (kept : database.KeepsSchema) (allowed : race.AllowsAll turns database) :
    race.HasOneWinner turns database where
  won isOpen _ _ entered := won_of_isOpen kept isOpen allowed entered
  lost closed := lost_of_not_isOpen kept closed allowed
  exact := exact_of_keepsSchema kept

end Race

/-! ## Times that are the same when they are expected -/

/-- On all contents, swaps that expect the one time and swaps that expect the other
do the same. -/
def SameExpectation (id : Uuid) (first second : Instant) : Prop :=
  ∀ database : Database, database.KeepsSchema → ∀ (new : Instant) (fresh : Fresh),
    GuardedColumn.lastSeen.swap id first new fresh database =
      GuardedColumn.lastSeen.swap id second new fresh database

/-- A user who was last seen at some time, alone in the store. -/
def seenAt (id : Uuid) (instant : Instant) : Database where
  userRows := [.ofUser ⟨id, "rider@campus.edu", "Rider", none, none, instant⟩]
  offerRows := []
  requestRows := []
  matchRows := []

theorem seenAt_keepsSchema (id : Uuid) (instant : Instant) : (seenAt id instant).KeepsSchema :=
  (Database.keepsSchema_iff_checked 0).mpr rfl

theorem held_seenAt (id : Uuid) (instant : Instant) :
    GuardedColumn.lastSeen.held (seenAt id instant) id = some (.integer instant.second) := by
  simp [GuardedColumn.held, seenAt, Database.findUser?, UserRow.ofUser]

theorem sameExpectation_iff (id : Uuid) (first second : Instant) :
    SameExpectation id first second ↔ first.second = second.second := by
  constructor
  · intro same
    have kept := seenAt_keepsSchema id first
    let race : Race .lastSeen := ⟨id, first⟩
    let other : Race .lastSeen := ⟨id, second⟩
    have isOpen : race.IsOpen (seenAt id first) := held_seenAt id first
    have applied := Race.swap_of_isOpen kept isOpen first ⟨id, id, first⟩
    by_contra differ
    have closed : ¬other.IsOpen (seenAt id first) := by
      intro isOpen
      have found := (held_seenAt id first).symm.trans isOpen
      exact differ (Cell.integer.inj (Option.some.inj found))
    have stale := Race.swap_of_not_isOpen kept closed first ⟨id, id, first⟩
    have swapped := same (seenAt id first) kept first ⟨id, id, first⟩
    cases congrArg Prod.fst (applied.symm.trans (swapped.trans stale))
  · intro alike database kept new fresh
    have expects : GuardedColumn.lastSeen.stored first = GuardedColumn.lastSeen.stored second :=
      congrArg Cell.integer alike
    have left := GuardedColumn.lastSeen.swap_eq kept id first new fresh
    have right := GuardedColumn.lastSeen.swap_eq kept id second new fresh
    rw [expects] at left
    exact left.trans right.symm

/-- Of any number of swaps that expect the same, exactly the first wins if the row holds
what they expect.  Two times are the same expectation if they lie in the same second. -/
theorem swaps_have_one_winner :
    (∀ (column : GuardedColumn) (race : Race column) (turns : List (RaceTurn column))
        (database : Database), database.KeepsSchema → race.AllowsAll turns database →
        race.HasOneWinner turns database) ∧
      ∀ (id : Uuid) (first second : Instant),
        SameExpectation id first second ↔ first.second = second.second :=
  ⟨fun _ _ _ _ kept allowed => Race.hasOneWinner kept allowed, sameExpectation_iff⟩

/-- A request that two swaps want to take out of the active ones. -/
def contested : Database where
  userRows := [.ofUser ⟨Uuid.ofNat 1, "rider@campus.edu", "Rider", none, none, .epoch⟩]
  offerRows := []
  requestRows :=
    [.ofRequest ⟨Uuid.ofNat 2, Uuid.ofNat 1, "tdr1w", "tdr1y", .epoch, 1, .active⟩]
  matchRows := []

def contest : Race .requestStatus where
  id := Uuid.ofNat 2
  expected := RequestStatus.active

/-- Between the two swaps the rider is looked up, and a caller who has left wants to
take the request as well. -/
def contestTurns : List (RaceTurn .requestStatus) :=
  let fresh : Fresh := ⟨Uuid.ofNat 7, Uuid.ofNat 8, .epoch⟩
  [.swap RequestStatus.matched fresh,
    .other (.getUser (Uuid.ofNat 1)) fresh none,
    .other (.swapRequestStatus (Uuid.ofNat 2) .matched .active) fresh (some 0),
    .swap RequestStatus.completed fresh]

theorem contest_has_one_winner :
    (contest.swaps contestTurns contested).map RaceSwap.answer = [.ok .applied, .ok .stale] ∧
      GuardedColumn.requestStatus.held (contest.last contestTurns contested) (Uuid.ofNat 2) =
        some (.text "matched") := by
  have kept : contested.KeepsSchema := (Database.keepsSchema_iff_checked 0).mpr rfl
  have new : Cell.text "matched" ≠ .text "active" := by decide
  have newToo : Cell.text "completed" ≠ .text "active" := by decide
  have spares (fresh : Fresh) :
      ¬(Job.getUser (Uuid.ofNat 1)).WritesTo fresh contest.id .requestStatus := fun writes => writes
  have allowed : contest.AllowsAll contestTurns contested :=
    ⟨new, contest.allows_of_spares (spares _) _ _, rfl, newToo, trivial⟩
  exact (swaps_have_one_winner.1 _ contest contestTurns contested kept allowed).won rfl _ _ rfl

end Store

end Carpool
