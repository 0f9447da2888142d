import Carpool.Proofs.Store.References

/-!
# The constraints of the schema

What the schema promises of the tables, whatever texts the columns hold: keys and
email addresses are not used twice, references lead to rows, and nobody rides with
themselves.  The test that follows every maintenance decides it, and every job of
the store keeps it.
-/

namespace Carpool

namespace Store

/-- The tables keep all constraints.  Rows need not have a key, and rows without one
are never the same. -/
structure Database.KeepsSchema (database : Database) : Prop where
  userIds : (database.userRows.map UserRow.userId).reduceOption.Nodup
  emails : (database.userRows.map UserRow.email).Nodup
  offerIds : (database.offerRows.map OfferRow.offerId).reduceOption.Nodup
  requestIds : (database.requestRows.map RequestRow.requestId).reduceOption.Nodup
  matchIds : (database.matchRows.map MatchRow.matchId).reduceOption.Nodup
  references : database.Referential

/-! ## The test for the constraints -/

theorem allDistinct_iff {keys : List (Option String)} :
    allDistinct keys = true ↔ keys.reduceOption.Nodup := by
  induction keys with
  | nil => simp [allDistinct]
  | cons key rest ih =>
      cases key with
      | none => rw [allDistinct, List.reduceOption_cons_of_none, ih]
      | some value =>
          rw [allDistinct, List.reduceOption_cons_of_some, List.nodup_cons,
            List.reduceOption_mem_iff, ← ih]
          simp

theorem allDistinct_some_iff {values : List String} :
    allDistinct (values.map some) = true ↔ values.Nodup := by
  have kept : (values.map some).reduceOption = values := by simp [List.reduceOption]
  rw [allDistinct_iff, kept]

namespace Database

variable {database before after : Database}

theorem repeatedColumn?_eq_none :
    database.repeatedColumn? = none ↔
      (database.userRows.map UserRow.userId).reduceOption.Nodup ∧
        (database.userRows.map UserRow.email).Nodup ∧
        (database.offerRows.map OfferRow.offerId).reduceOption.Nodup ∧
        (database.requestRows.map RequestRow.requestId).reduceOption.Nodup ∧
        (database.matchRows.map MatchRow.matchId).reduceOption.Nodup := by
  rw [← allDistinct_iff, ← allDistinct_some_iff, ← allDistinct_iff, ← allDistinct_iff,
    ← allDistinct_iff, List.map_map, repeatedColumn?]
  generalize allDistinct (database.userRows.map UserRow.userId) = userIds
  generalize allDistinct (database.offerRows.map OfferRow.offerId) = offerIds
  generalize allDistinct (database.requestRows.map RequestRow.requestId) = requestIds
  generalize allDistinct (database.matchRows.map MatchRow.matchId) = matchIds
  change (if !userIds then _
    else if !allDistinct (database.userRows.map (some ∘ _)) then _ else _) = none ↔ _
  generalize allDistinct (database.userRows.map (some ∘ UserRow.email)) = emails
  cases userIds <;> cases emails <;> cases offerIds <;> cases requestIds <;> cases matchIds <;>
    simp

theorem refersToUser_iff {row : OfferRow} :
    database.refersToUser row = true ↔
      ∀ id, row.driverId = some id → some id ∈ database.userRows.map UserRow.userId := by
  rw [refersToUser]
  cases row.driverId with
  | none => simp
  | some driver => simp [← findUser?_isSome]

theorem referential_iff :
    database.Referential ↔
      database.keepsReferences = true ∧
        ∀ row ∈ database.matchRows, row.riderId ≠ row.driverId := by
  simp only [keepsReferences, Bool.and_eq_true, List.all_eq_true, refersToUser_iff,
    findUser?_isSome, findOffer?_isSome]
  constructor
  · intro kept
    exact ⟨⟨⟨kept.drivers, kept.owners⟩, kept.rides⟩, kept.apart⟩
  · rintro ⟨⟨⟨drivers, owners⟩, rides⟩, apart⟩
    exact ⟨owners, drivers, rides, apart⟩

/-- The contents pass the test that follows every maintenance if they keep the
constraints, and only then. -/
theorem keepsSchema_iff_checked (changed : Nat) :
    database.KeepsSchema ↔ database.checked changed = .ok (database, changed) := by
  have apart : (database.matchRows.any fun row => row.riderId == row.driverId) = false ↔
      ∀ row ∈ database.matchRows, row.riderId ≠ row.driverId := by
    simp [List.any_eq_false]
  constructor
  · intro kept
    obtain ⟨references, others⟩ := referential_iff.mp kept.references
    have unrepeated : database.repeatedColumn? = none := repeatedColumn?_eq_none.mpr
      ⟨kept.userIds, kept.emails, kept.offerIds, kept.requestIds, kept.matchIds⟩
    simp [checked, apart.mpr others, unrepeated, references]
  · intro passed
    rw [checked] at passed
    split at passed
    · contradiction
    · rename_i others
      split at passed
      · contradiction
      · rename_i unrepeated
        split at passed
        · rename_i references
          obtain ⟨userIds, emails, offerIds, requestIds, matchIds⟩ :=
            repeatedColumn?_eq_none.mp unrepeated
          have others := apart.mp (by simpa using others)
          have kept := referential_iff.mpr ⟨references, others⟩
          exact ⟨userIds, emails, offerIds, requestIds, matchIds, kept⟩
        · contradiction

/-! ## What the statements keep -/

theorem KeepsSchema.insertUser {row : UserRow} (kept : before.KeepsSchema)
    (inserted : before.insertUser row = .ok after) : after.KeepsSchema := by
  have references := kept.references.insertUser inserted
  obtain ⟨unused, newEmail, rfl⟩ := insertUser_eq_ok.mp inserted
  exact { kept with
    userIds := nodup_keys_append kept.userIds unused
    emails := nodup_append_new kept.emails newEmail
    references }

theorem KeepsSchema.insertOffer {row : OfferRow} (kept : before.KeepsSchema)
    (inserted : before.insertOffer row = .ok after) : after.KeepsSchema := by
  have references := kept.references.insertOffer inserted
  obtain ⟨unused, -, rfl⟩ := insertOffer_eq_ok.mp inserted
  exact { kept with
    offerIds := nodup_keys_append kept.offerIds unused
    references }

theorem KeepsSchema.insertRequest {row : RequestRow} (kept : before.KeepsSchema)
    (inserted : before.insertRequest row = .ok after) : after.KeepsSchema := by
  have references := kept.references.insertRequest inserted
  obtain ⟨unused, -, rfl⟩ := insertRequest_eq_ok.mp inserted
  exact { kept with
    requestIds := nodup_keys_append kept.requestIds unused
    references }

theorem KeepsSchema.insertMatch {row : MatchRow} (kept : before.KeepsSchema)
    (inserted : before.insertMatch row = .ok after) : after.KeepsSchema := by
  have references := kept.references.insertMatch inserted
  obtain ⟨-, unused, -, rfl⟩ := insertMatch_eq_ok.mp inserted
  exact { kept with
    matchIds := nodup_keys_append kept.matchIds unused
    references }

theorem KeepsSchema.swapLastSeen (kept : before.KeepsSchema) (id : String)
    (expected new : Int) : (before.swapLastSeen id expected new).1.KeepsSchema := by
  have sameIds : (before.swapLastSeen id expected new).1.userRows.map UserRow.userId =
      before.userRows.map UserRow.userId := map_changeWhere fun _ => rfl
  have emails : ((before.swapLastSeen id expected new).1.userRows.map UserRow.email).Nodup :=
    nodup_changeWhere kept.emails fun _ => rfl
  exact { kept with
    userIds := sameIds ▸ kept.userIds
    emails
    references := kept.references.swapLastSeen id expected new }

theorem KeepsSchema.swapRequestStatus (kept : before.KeepsSchema) (id expected new : String) :
    (before.swapRequestStatus id expected new).1.KeepsSchema := by
  have sameIds : (before.swapRequestStatus id expected new).1.requestRows.map
      RequestRow.requestId = before.requestRows.map RequestRow.requestId :=
    map_changeWhere fun _ => rfl
  exact { kept with
    requestIds := sameIds ▸ kept.requestIds
    references := kept.references.swapRequestStatus id expected new }

/-- The statuses of matches are under no constraint. -/
theorem KeepsSchema.changeMatches {test : MatchRow → Bool} {status : String}
    (kept : before.KeepsSchema)
    (changed : after = { before with matchRows :=
      (changeWhere test (fun row => { row with status := status }) before.matchRows).1 }) :
    after.KeepsSchema := by
  have references := kept.references.changeMatches changed
  subst changed
  have sameIds : (changeWhere test (fun row => { row with status := status })
      before.matchRows).1.map MatchRow.matchId = before.matchRows.map MatchRow.matchId :=
    map_changeWhere fun _ => rfl
  exact { kept with
    matchIds := sameIds ▸ kept.matchIds
    references }

theorem KeepsSchema.empty : Database.empty.KeepsSchema := by
  refine ⟨?_, ?_, ?_, ?_, ?_, .empty⟩ <;> simp [Database.empty]

end Database

/-! ## Every job -/

/-- Every job keeps the constraints, whatever it is given. -/
theorem Effect.keepsSchema {fresh : Fresh} {before after : Database} {job : Job}
    {answer : Option (Except StoreError job.Result)}
    (effect : Effect fresh before job answer after) (kept : before.KeepsSchema) :
    after.KeepsSchema := by
  cases effect with
  | read look planned => exact kept
  | abandoned => exact kept
  | refused violation => exact kept
  | declined acceptance => exact kept
  | userCreated input after inserted => exact kept.insertUser inserted
  | offerCreated input row after encoded inserted => exact kept.insertOffer inserted
  | requestCreated input after inserted => exact kept.insertRequest inserted
  | matchCreated input after inserted => exact kept.insertMatch inserted
  | seenSwapped id expected new => exact kept.swapLastSeen _ _ _
  | requestSwapped id expected new => exact kept.swapRequestStatus _ _ _
  | matchSwapped id expected new => exact kept.changeMatches rfl
  | matchForced id new => exact kept.changeMatches rfl
  | accepted acceptance after committed =>
      obtain ⟨row, offered, paired, -, offering, pairing, -, rfl⟩ :=
        Database.accept_eq_ok committed
      exact ((kept.insertOffer offering).insertMatch pairing).swapRequestStatus _ _ _

theorem Job.keepsSchema {fresh : Fresh} {patience : Patience} {database : Database} (job : Job)
    (kept : database.KeepsSchema) : (job.runWhile fresh patience database).2.KeepsSchema :=
  (Job.runWhile_effect rfl).keepsSchema kept

end Store

end Carpool
