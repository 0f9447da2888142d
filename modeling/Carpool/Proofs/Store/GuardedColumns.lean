import Carpool.Proofs.Store.Constraints

/-!
# Guarded columns

The columns that are changed by comparing them first: the last visit of a user and
the statuses of matches and requests.  A swap finds at most one row, and it either
puts the new value there or leaves everything as it was.
-/

namespace Carpool

namespace Store

/-- A column that is changed by comparing it first. -/
inductive GuardedColumn
  | lastSeen
  | matchStatus
  | requestStatus
  deriving DecidableEq

namespace GuardedColumn

def Value : GuardedColumn → Type
  | .lastSeen => Instant
  | .matchStatus => MatchStatus
  | .requestStatus => RequestStatus

/-- A value as it is stored: a time by its whole second, a status by its name. -/
def stored : (column : GuardedColumn) → column.Value → Cell
  | .lastSeen, (instant : Instant) => .integer instant.second
  | .matchStatus, (status : MatchStatus) => .text status.name
  | .requestStatus, (status : RequestStatus) => .text status.name

/-- What the column holds in the row with an identifier, if there is such a row. -/
def held (column : GuardedColumn) (database : Database) (id : Uuid) : Option Cell :=
  match column with
  | .lastSeen => (database.findUser? id.text).map UserRow.lastSeen
  | .matchStatus => (database.findMatch? id.text).map fun row => .text row.status
  | .requestStatus => (database.findRequest? id.text).map fun row => .text row.status

/-- The keys of the table that has the column. -/
def keys (column : GuardedColumn) (database : Database) : List (Option String) :=
  match column with
  | .lastSeen => database.userRows.map UserRow.userId
  | .matchStatus => database.matchRows.map MatchRow.matchId
  | .requestStatus => database.requestRows.map RequestRow.requestId

/-- The tables with another value in this column of the row with an identifier. -/
def put : (column : GuardedColumn) → Uuid → column.Value → Database → Database
  | .lastSeen, id, (instant : Instant), database =>
      { database with userRows := database.userRows.map fun row =>
          if row.userId = some id.text then { row with lastSeen := .integer instant.second }
          else row }
  | .matchStatus, id, (status : MatchStatus), database =>
      { database with matchRows := database.matchRows.map fun row =>
          if row.matchId = some id.text then { row with status := status.name } else row }
  | .requestStatus, id, (status : RequestStatus), database =>
      { database with requestRows := database.requestRows.map fun row =>
          if row.requestId = some id.text then { row with status := status.name } else row }

/-- The swap on this column, for a caller who stays. -/
def swap : (column : GuardedColumn) → Uuid → (expected new : column.Value) → Fresh →
    Database → Except StoreError Swap × Database
  | .lastSeen, id, (expected : Instant), (new : Instant), fresh, database =>
      (Job.swapLastSeen id expected new).run fresh database
  | .matchStatus, id, (expected : MatchStatus), (new : MatchStatus), fresh, database =>
      (Job.swapMatchStatus id expected new).run fresh database
  | .requestStatus, id, (expected : RequestStatus), (new : RequestStatus), fresh, database =>
      (Job.swapRequestStatus id expected new).run fresh database

end GuardedColumn

/-! ## One row that is changed if it is as expected -/

section Rows

open Database

variable {ρ : Type} {key : ρ → Option String} {rows : List ρ} {id : String} {guard : ρ → Bool}

theorem changeWhere_met (unrepeated : (rows.map key).reduceOption.Nodup) (change : ρ → ρ)
    {row : ρ} (found : rows.find? (fun row => key row == some id) = some row)
    (met : guard row = true) :
    let changed := changeWhere (fun row => key row == some id && guard row) change rows
    changed.2 ≠ 0 ∧
      changed.1 = rows.map fun row => if key row = some id then change row else row := by
  obtain ⟨member, keyed⟩ := mem_of_find? found
  constructor
  · exact (changeWhere_ne_zero change).mpr ⟨row, member, by simp [keyed, met]⟩
  · apply List.map_congr_left
    intro other listed
    by_cases chosen : key other = some id
    · have same := find?_of_keyed unrepeated listed chosen
      obtain rfl := Option.some.inj (same.symm.trans found)
      simp [chosen, met]
    · simp [chosen]

theorem changeWhere_unmet (unrepeated : (rows.map key).reduceOption.Nodup) (change : ρ → ρ)
    (unmet : ∀ row, rows.find? (fun row => key row == some id) = some row → guard row = false) :
    changeWhere (fun row => key row == some id && guard row) change rows = (rows, 0) := by
  apply changeWhere_of_none
  intro row member
  by_cases chosen : key row = some id
  · have found := find?_of_keyed unrepeated member chosen
    simp [unmet row found]
  · simp [chosen]

/-- A change under a guard changes the one row with the key if its cell is as expected,
and nothing otherwise. -/
theorem changeWhere_guarded (unrepeated : (rows.map key).reduceOption.Nodup) (id : String)
    {cell : ρ → Cell} {expected : Cell} (guards : ∀ row, guard row = true ↔ cell row = expected)
    (change : ρ → ρ) (rebuild : List ρ → Database) :
    let changed := changeWhere (fun row => key row == some id && guard row) change rows
    ((.ok (.ofChanged changed.2), rebuild changed.1) : Except StoreError Swap × Database) =
      if (rows.find? fun row => key row == some id).map cell = some expected then
        (.ok .applied, rebuild (rows.map fun row => if key row = some id then change row else row))
      else (.ok .stale, rebuild rows) := by
  intro changed
  by_cases holds : (rows.find? fun row => key row == some id).map cell = some expected
  · obtain ⟨row, found, same⟩ := Option.map_eq_some_iff.mp holds
    obtain ⟨counted, replaced⟩ := changeWhere_met unrepeated change found ((guards row).mpr same)
    rw [if_pos holds, Swap.ofChanged, if_neg counted, replaced]
  · have unmet : ∀ row, rows.find? (fun row => key row == some id) = some row →
        guard row = false := by
      intro row found
      by_contra met
      have same := (guards row).mp (by simpa using met)
      exact holds (Option.map_eq_some_iff.mpr ⟨row, found, same⟩)
    have unchanged : changed = (rows, 0) := changeWhere_unmet unrepeated change unmet
    rw [if_neg holds, unchanged]
    rfl

/-- Nothing changes if the row with the key, where there is one, is as it would be. -/
theorem map_keyed_of_fixed (unrepeated : (rows.map key).reduceOption.Nodup) {change : ρ → ρ}
    (fixed : ∀ row, rows.find? (fun row => key row == some id) = some row → change row = row) :
    (rows.map fun row => if key row = some id then change row else row) = rows := by
  refine (List.map_congr_left fun row member => ?_).trans (List.map_id rows)
  by_cases chosen : key row = some id
  · have found := find?_of_keyed unrepeated member chosen
    rw [if_pos chosen, fixed row found]
    rfl
  · rw [if_neg chosen]
    rfl

/-- The row with the key is found changed. -/
theorem find?_map_chosen {change : ρ → ρ} (keeps : ∀ row, key (change row) = key row) :
    ((rows.map fun row => if key row = some id then change row else row).find?
        fun row => key row == some id) =
      (rows.find? fun row => key row == some id).map change := by
  induction rows with
  | nil => rfl
  | cons row rest ih =>
      by_cases chosen : key row = some id
      · simp [chosen, keeps]
      · simpa [chosen] using ih

/-- Only the cell of the row with the key becomes another. -/
theorem find?_map_keyed {change : ρ → ρ} {cell : ρ → Cell} {value : Cell}
    (keeps : ∀ row, key (change row) = key row) (puts : ∀ row, cell (change row) = value) :
    ((rows.map fun row => if key row = some id then change row else row).find?
        fun row => key row == some id).map cell =
      ((rows.find? fun row => key row == some id).map cell).map fun _ => value := by
  rw [find?_map_chosen keeps]
  cases rows.find? fun row => key row == some id with
  | none => rfl
  | some row => exact congrArg some (puts row)

/-- Rows with another key may change. -/
theorem find?_changeWhere_other {test : ρ → Bool} {change : ρ → ρ} {id : String}
    (keeps : ∀ row, key (change row) = key row)
    (other : ∀ row, key row = some id → test row = false) :
    (changeWhere test change rows).1.find? (fun row => key row == some id) =
      rows.find? fun row => key row == some id := by
  rw [find?_changeWhere keeps]
  cases found : rows.find? fun row => key row == some id with
  | none => rfl
  | some row =>
      have keyed := (mem_of_find? found).2
      simp [other row keyed]

theorem find?_append_other {new : ρ} {id : String} (other : key new ≠ some id) :
    (rows ++ [new]).find? (fun row => key row == some id) =
      rows.find? fun row => key row == some id := by
  rw [find?_append_new, if_neg other, Option.or_none]

end Rows

/-! ## Swaps -/

namespace GuardedColumn

variable {database : Database}

/-- A swap puts the new value in place if the column holds the expected one, and it
leaves everything as it was otherwise. -/
theorem swap_of_keys (column : GuardedColumn)
    (unrepeated : (column.keys database).reduceOption.Nodup) (id : Uuid)
    (expected new : column.Value) (fresh : Fresh) :
    column.swap id expected new fresh database =
      if column.held database id = some (column.stored expected) then
        (.ok .applied, column.put id new database)
      else (.ok .stale, database) := by
  cases column with
  | lastSeen =>
      exact changeWhere_guarded unrepeated id.text (by simp [stored]) _
        fun rows => { database with userRows := rows }
  | matchStatus =>
      exact changeWhere_guarded unrepeated id.text (by simp [stored]) _
        fun rows => { database with matchRows := rows }
  | requestStatus =>
      exact changeWhere_guarded unrepeated id.text (by simp [stored]) _
        fun rows => { database with requestRows := rows }

theorem swap_eq (column : GuardedColumn) (kept : database.KeepsSchema) (id : Uuid)
    (expected new : column.Value) (fresh : Fresh) :
    column.swap id expected new fresh database =
      if column.held database id = some (column.stored expected) then
        (.ok .applied, column.put id new database)
      else (.ok .stale, database) := by
  refine column.swap_of_keys ?_ id expected new fresh
  cases column with
  | lastSeen => exact kept.userIds
  | matchStatus => exact kept.matchIds
  | requestStatus => exact kept.requestIds

/-- What has been put into a row is held there. -/
theorem held_put (column : GuardedColumn) (id : Uuid) (new : column.Value)
    (database : Database) :
    column.held (column.put id new database) id =
      (column.held database id).map fun _ => column.stored new := by
  cases column with
  | lastSeen => exact find?_map_keyed (fun _ => rfl) (fun _ => rfl)
  | matchStatus => exact find?_map_keyed (fun _ => rfl) (fun _ => rfl)
  | requestStatus => exact find?_map_keyed (fun _ => rfl) (fun _ => rfl)

end GuardedColumn

/-! ## Jobs that leave a value alone -/

/-- The job may write to a column of the row with an identifier. -/
def Job.WritesTo (fresh : Fresh) (id : Uuid) : Job → GuardedColumn → Prop
  | .createUser _, .lastSeen => fresh.first = id
  | .swapLastSeen user _ _, .lastSeen => user = id
  | .createMatch _, .matchStatus => fresh.first = id
  | .swapMatchStatus pairing _ _, .matchStatus | .forceMatchStatus pairing _, .matchStatus =>
      pairing = id
  | .acceptRideRequest _, .matchStatus => fresh.second = id
  | .createRequest _, .requestStatus => fresh.first = id
  | .swapRequestStatus request _ _, .requestStatus => request = id
  | .acceptRideRequest acceptance, .requestStatus => acceptance.requestId = id
  | _, _ => False

theorem some_text_ne {id other : Uuid} (different : other ≠ id) :
    some other.text ≠ some id.text := by
  simpa [Uuid.text_inj] using different

namespace Effect

variable {fresh : Fresh} {before after : Database} {job : Job} {id : Uuid}
  {answer : Option (Except StoreError job.Result)}

theorem findUser?_spared (effect : Effect fresh before job answer after)
    (spares : ¬job.WritesTo fresh id .lastSeen) :
    after.findUser? id.text = before.findUser? id.text := by
  have frame := effect.frame
  cases effect with
  | read | abandoned | refused | declined => rfl
  | userCreated input after inserted =>
      obtain ⟨-, -, rfl⟩ := Database.insertUser_eq_ok.mp inserted
      exact find?_append_other (some_text_ne spares)
  | seenSwapped user expected new =>
      have other : id ≠ user := Ne.symm spares
      exact find?_changeWhere_other (fun _ => rfl) fun row keyed => by simp [keyed, other]
  | _ => exact congrArg (List.find? _) (frame.users fun writes => writes)

theorem findMatch?_spared (effect : Effect fresh before job answer after)
    (spares : ¬job.WritesTo fresh id .matchStatus) :
    after.findMatch? id.text = before.findMatch? id.text := by
  have frame := effect.frame
  cases effect with
  | read | abandoned | refused | declined => rfl
  | matchCreated input after inserted =>
      obtain ⟨-, -, -, rfl⟩ := Database.insertMatch_eq_ok.mp inserted
      exact find?_append_other (some_text_ne spares)
  | matchSwapped pairing expected new =>
      have other : id ≠ pairing := Ne.symm spares
      exact find?_changeWhere_other (fun _ => rfl) fun row keyed => by simp [keyed, other]
  | matchForced pairing new =>
      have other : id ≠ pairing := Ne.symm spares
      exact find?_changeWhere_other (fun _ => rfl) fun row keyed => by simp [keyed, other]
  | accepted acceptance after committed =>
      obtain ⟨row, offered, paired, -, offering, pairing, -, rfl⟩ := Database.accept_eq_ok committed
      obtain ⟨-, -, rfl⟩ := Database.insertOffer_eq_ok.mp offering
      obtain ⟨-, -, -, rfl⟩ := Database.insertMatch_eq_ok.mp pairing
      exact find?_append_other (some_text_ne spares)
  | _ => exact congrArg (List.find? _) (frame.pairings fun writes => writes)

theorem findRequest?_spared (effect : Effect fresh before job answer after)
    (spares : ¬job.WritesTo fresh id .requestStatus) :
    after.findRequest? id.text = before.findRequest? id.text := by
  have frame := effect.frame
  cases effect with
  | read | abandoned | refused | declined => rfl
  | requestCreated input after inserted =>
      obtain ⟨-, -, rfl⟩ := Database.insertRequest_eq_ok.mp inserted
      exact find?_append_other (some_text_ne spares)
  | requestSwapped request expected new =>
      have other : id ≠ request := Ne.symm spares
      exact find?_changeWhere_other (fun _ => rfl) fun row keyed => by simp [keyed, other]
  | accepted acceptance after committed =>
      obtain ⟨row, offered, paired, -, offering, pairing, -, rfl⟩ := Database.accept_eq_ok committed
      obtain ⟨-, -, rfl⟩ := Database.insertOffer_eq_ok.mp offering
      obtain ⟨-, -, -, rfl⟩ := Database.insertMatch_eq_ok.mp pairing
      have other : id ≠ acceptance.requestId := Ne.symm spares
      exact find?_changeWhere_other (fun _ => rfl) fun row keyed => by simp [keyed, other]
  | _ => exact congrArg (List.find? _) (frame.requests fun writes => writes)

/-- A job that does not write to a value leaves it as it is. -/
theorem held_spared (effect : Effect fresh before job answer after) {column : GuardedColumn}
    (spares : ¬job.WritesTo fresh id column) : column.held after id = column.held before id := by
  cases column with
  | lastSeen => exact congrArg (Option.map _) (effect.findUser?_spared spares)
  | matchStatus => exact congrArg (Option.map _) (effect.findMatch?_spared spares)
  | requestStatus => exact congrArg (Option.map _) (effect.findRequest?_spared spares)

end Effect

end Store

end Carpool
