import Carpool.Proofs.Store.Effect
import Mathlib.Data.List.Nodup
import Mathlib.Data.List.ReduceOption

/-!
# Tables

What the statements of the store do to its tables, row by row: when an insertion
succeeds and what it leaves, and which rows a change in place finds and keeps.
-/

namespace Carpool

namespace Store

namespace Database

/-! ## Rows under their keys -/

section Rows

variable {ρ : Type} {key : ρ → Option String} {rows : List ρ}

theorem mem_of_find? {id : String} {row : ρ}
    (found : rows.find? (fun row => key row == some id) = some row) :
    row ∈ rows ∧ key row = some id := by
  refine ⟨List.mem_of_find?_eq_some found, ?_⟩
  simpa using List.find?_some found

/-- If no key is used twice, the row that is found is the only one.  Rows without a
key do not count. -/
theorem find?_of_keyed (unrepeated : (rows.map key).reduceOption.Nodup) {id : String} {row : ρ}
    (member : row ∈ rows) (keyed : key row = some id) :
    rows.find? (fun row => key row == some id) = some row := by
  induction rows with
  | nil => contradiction
  | cons first rest ih =>
      rcases List.mem_cons.mp member with rfl | later
      · simp [keyed]
      · have repeated : some id ∈ rest.map key := keyed ▸ List.mem_map_of_mem later
        have other : key first ≠ some id := by
          intro same
          rw [List.map_cons, same, List.reduceOption_cons_of_some, List.nodup_cons] at unrepeated
          exact unrepeated.1 (List.reduceOption_mem_iff.mpr repeated)
        have left : (rest.map key).reduceOption.Nodup := by
          have shorter : (rest.map key).Sublist ((first :: rest).map key) := by simp
          exact List.Nodup.sublist (shorter.filterMap _) unrepeated
        rw [List.find?_cons_of_neg (by simpa using other)]
        exact ih left later

theorem nodup_reduceOption {keys : List (Option String)} (distinct : keys.Nodup) :
    keys.reduceOption.Nodup := by
  apply distinct.filterMap
  intro first second id isFirst isSecond
  exact (Option.mem_def.mp isFirst).trans (Option.mem_def.mp isSecond).symm

/-- Under distinct keys, the row that is found is the only one. -/
theorem find?_of_mem (distinct : (rows.map key).Nodup) {id : String} {row : ρ}
    (member : row ∈ rows) (keyed : key row = some id) :
    rows.find? (fun row => key row == some id) = some row :=
  find?_of_keyed (nodup_reduceOption distinct) member keyed

theorem find?_eq_none_iff {id : String} :
    rows.find? (fun row => key row == some id) = none ↔ some id ∉ rows.map key := by
  simp

/-- A new row is found under its own key, all others are found as before. -/
theorem find?_append_new (new : ρ) (id : String) :
    (rows ++ [new]).find? (fun row => key row == some id) =
      (rows.find? fun row => key row == some id).or
        (if key new = some id then some new else none) := by
  rw [List.find?_append, List.find?_singleton]
  simp

theorem find?_new {new : ρ} {id : String} (unused : key new ∉ rows.map key)
    (keyed : key new = some id) :
    (rows ++ [new]).find? (fun row => key row == some id) = some new := by
  rw [find?_append_new, find?_eq_none_iff.mpr (keyed ▸ unused), Option.none_or, if_pos keyed]

/-- A row that is there stays the one that is found. -/
theorem find?_append_of_found {new : ρ} {test : ρ → Bool} {row : ρ}
    (found : rows.find? test = some row) : (rows ++ [new]).find? test = some row := by
  rw [List.find?_append, found, Option.some_or]

theorem nodup_keys_append {new : ρ} (unrepeated : (rows.map key).reduceOption.Nodup)
    (unused : ¬((key new).isSome ∧ key new ∈ rows.map key)) :
    ((rows ++ [new]).map key).reduceOption.Nodup := by
  rw [List.map_append, List.map_singleton, List.reduceOption_append]
  cases keyed : key new with
  | none => simpa using unrepeated
  | some id =>
      have unused : id ∉ (rows.map key).reduceOption := by
        intro used
        apply unused
        rw [keyed]
        exact ⟨rfl, List.reduceOption_mem_iff.mp used⟩
      simpa [List.concat_eq_append] using unrepeated.concat unused

theorem nodup_append_new {σ : Type} {column : ρ → σ} {new : ρ}
    (distinct : (rows.map column).Nodup) (unused : column new ∉ rows.map column) :
    ((rows ++ [new]).map column).Nodup := by
  rw [List.map_append, List.map_singleton, ← List.concat_eq_append]
  exact distinct.concat unused

variable {test : ρ → Bool} {change : ρ → ρ}

theorem map_changeWhere {σ : Type} {column : ρ → σ}
    (keeps : ∀ row, column (change row) = column row) :
    (changeWhere test change rows).1.map column = rows.map column := by
  rw [changeWhere, List.map_map]
  apply List.map_congr_left
  intro row member
  dsimp only [Function.comp_apply]
  split
  · exact keeps row
  · rfl

theorem nodup_changeWhere {σ : Type} {column : ρ → σ} (distinct : (rows.map column).Nodup)
    (keeps : ∀ row, column (change row) = column row) :
    ((changeWhere test change rows).1.map column).Nodup := by
  rw [map_changeWhere keeps]
  exact distinct

theorem find?_changeWhere (keeps : ∀ row, key (change row) = key row) (id : String) :
    (changeWhere test change rows).1.find? (fun row => key row == some id) =
      (rows.find? fun row => key row == some id).map
        fun row => if test row then change row else row := by
  rw [changeWhere, List.find?_map]
  congr 2
  funext row
  dsimp only [Function.comp_apply]
  split
  · rw [keeps]
  · rfl

theorem mem_changeWhere {row : ρ} :
    row ∈ (changeWhere test change rows).1 ↔
      ∃ old ∈ rows, (if test old then change old else old) = row := by
  rw [changeWhere, List.mem_map]

theorem changeWhere_ne_zero (change : ρ → ρ) :
    (changeWhere test change rows).2 ≠ 0 ↔ ∃ row ∈ rows, test row = true := by
  rw [changeWhere, ← Nat.pos_iff_ne_zero, List.countP_pos_iff]

theorem changeWhere_of_none {change : ρ → ρ} (unmet : ∀ row ∈ rows, test row = false) :
    changeWhere test change rows = (rows, 0) := by
  have same : rows.map (fun row => if test row then change row else row) = rows := by
    refine (List.map_congr_left fun row member => ?_).trans (List.map_id rows)
    rw [unmet row member]
    rfl
  rw [changeWhere, same, List.countP_eq_zero.mpr fun row member => by simp [unmet row member]]

theorem changeWhere_of_zero {change : ρ → ρ} (unchanged : (changeWhere test change rows).2 = 0) :
    changeWhere test change rows = (rows, 0) := by
  have unmet := List.countP_eq_zero.mp unchanged
  rw [changeWhere_of_none]
  intro row member
  simpa using unmet row member

end Rows

variable {database after : Database}

/-! ## Insertions -/

theorem insertUser_eq_ok {row : UserRow} :
    database.insertUser row = .ok after ↔
      ¬(row.userId.isSome ∧ row.userId ∈ database.userRows.map UserRow.userId) ∧
        row.email ∉ database.userRows.map UserRow.email ∧
        after = { database with userRows := database.userRows ++ [row] } := by
  rw [insertUser]
  split
  · simp_all
  · split
    · simp_all
    · refine ⟨fun inserted => ⟨by simp_all, by simp_all, ?_⟩, fun allowed => ?_⟩
      · exact (Except.ok.inj inserted).symm
      · rw [allowed.2.2]

theorem insertOffer_eq_ok {row : OfferRow} :
    database.insertOffer row = .ok after ↔
      ¬(row.offerId.isSome ∧ row.offerId ∈ database.offerRows.map OfferRow.offerId) ∧
        database.refersToUser row ∧
        after = { database with offerRows := database.offerRows ++ [row] } := by
  rw [insertOffer]
  split
  · simp_all
  · split
    · simp_all
    · refine ⟨fun inserted => ⟨by simp_all, by simp_all, ?_⟩, fun allowed => ?_⟩
      · exact (Except.ok.inj inserted).symm
      · rw [allowed.2.2]

theorem insertRequest_eq_ok {row : RequestRow} :
    database.insertRequest row = .ok after ↔
      ¬(row.requestId.isSome ∧ row.requestId ∈ database.requestRows.map RequestRow.requestId) ∧
        (database.findUser? row.userId).isSome ∧
        after = { database with requestRows := database.requestRows ++ [row] } := by
  rw [insertRequest]
  split
  · simp_all
  · split
    · simp_all
    · rename_i present
      have present := Option.isSome_iff_ne_none.mpr (by simpa using present)
      refine ⟨fun inserted => ⟨by simp_all, present, ?_⟩, fun allowed => ?_⟩
      · exact (Except.ok.inj inserted).symm
      · rw [allowed.2.2]

theorem insertMatch_eq_ok {row : MatchRow} :
    database.insertMatch row = .ok after ↔
      row.riderId ≠ row.driverId ∧
        ¬(row.matchId.isSome ∧ row.matchId ∈ database.matchRows.map MatchRow.matchId) ∧
        (database.findOffer? row.rideId).isSome ∧
        after = { database with matchRows := database.matchRows ++ [row] } := by
  rw [insertMatch]
  split
  · simp_all
  · split
    · simp_all
    · split
      · simp_all
      · rename_i present
        have present := Option.isSome_iff_ne_none.mpr (by simpa using present)
        refine ⟨fun inserted => ⟨by simp_all, by simp_all, present, ?_⟩, fun allowed => ?_⟩
        · exact (Except.ok.inj inserted).symm
        · rw [allowed.2.2.2]

/-! ## Lookups after an insertion -/

theorem findRequest?_appended (database : Database) (row : RequestRow) (id : String) :
    ({ database with requestRows := database.requestRows ++ [row] } : Database).findRequest? id =
      (database.findRequest? id).or (if row.requestId = some id then some row else none) := by
  exact find?_append_new row id

/-! ## Rows that are changed in place -/

theorem swapRequestStatus_ne_zero {id expected new : String} :
    (database.swapRequestStatus id expected new).2 ≠ 0 ↔
      ∃ row ∈ database.requestRows, row.requestId = some id ∧ row.status = expected := by
  refine (changeWhere_ne_zero fun row => { row with status := new }).trans ?_
  simp

theorem swapMatchStatus_ne_zero {id expected new : String} :
    (database.swapMatchStatus id expected new).2 ≠ 0 ↔
      ∃ row ∈ database.matchRows, row.matchId = some id ∧ row.status = expected := by
  refine (changeWhere_ne_zero fun row => { row with status := new }).trans ?_
  simp

theorem swapMatchStatus_of_other {id expected new : String}
    (unmet : ∀ row ∈ database.matchRows, row.matchId = some id → row.status ≠ expected) :
    database.swapMatchStatus id expected new = (database, 0) := by
  rw [swapMatchStatus, changeWhere_of_none]
  intro row member
  by_cases chosen : row.matchId = some id
  · simp [unmet row member chosen]
  · simp [chosen]

theorem swapLastSeen_of_zero {id : String} {expected new : Int}
    (unchanged : (database.swapLastSeen id expected new).2 = 0) :
    (database.swapLastSeen id expected new).1 = database := by
  rw [swapLastSeen, changeWhere_of_zero unchanged]

theorem swapRequestStatus_of_zero {id expected new : String}
    (unchanged : (database.swapRequestStatus id expected new).2 = 0) :
    (database.swapRequestStatus id expected new).1 = database := by
  rw [swapRequestStatus, changeWhere_of_zero unchanged]

theorem swapMatchStatus_of_zero {id expected new : String}
    (unchanged : (database.swapMatchStatus id expected new).2 = 0) :
    (database.swapMatchStatus id expected new).1 = database := by
  rw [swapMatchStatus, changeWhere_of_zero unchanged]

/-! ## Lookups after a change in place -/

theorem findUser?_swapLastSeen (id key : String) (expected new : Int) :
    (database.swapLastSeen id expected new).1.findUser? key =
      (database.findUser? key).map fun row =>
        if row.userId == some id && row.lastSeen == .integer expected then
          { row with lastSeen := .integer new }
        else row := by
  refine find?_changeWhere ?_ key
  intro row
  rfl

theorem findRequest?_swapRequestStatus (id key expected new : String) :
    (database.swapRequestStatus id expected new).1.findRequest? key =
      (database.findRequest? key).map fun row =>
        if row.requestId == some id && row.status == expected then { row with status := new }
        else row := by
  refine find?_changeWhere ?_ key
  intro row
  rfl

theorem findMatch?_swapMatchStatus (id key expected new : String) :
    (database.swapMatchStatus id expected new).1.findMatch? key =
      (database.findMatch? key).map fun row =>
        if row.matchId == some id && row.status == expected then { row with status := new }
        else row := by
  refine find?_changeWhere ?_ key
  intro row
  rfl

theorem findMatch?_setMatchStatus (id key new : String) :
    (database.setMatchStatus id new).1.findMatch? key =
      (database.findMatch? key).map fun row =>
        if row.matchId == some id then { row with status := new } else row := by
  refine find?_changeWhere ?_ key
  intro row
  rfl

/-- A status is set on the match that is found afterwards, or on none. -/
theorem setMatchStatus_of_none {id new : String}
    (missing : (database.setMatchStatus id new).1.findMatch? id = none) :
    (database.setMatchStatus id new).1 = database := by
  rw [findMatch?_setMatchStatus, Option.map_eq_none_iff] at missing
  have unmet := List.find?_eq_none.mp missing
  rw [setMatchStatus, changeWhere_of_none]
  intro row member
  simpa using unmet row member

end Database

end Store

end Carpool
