import Carpool.Proofs.StatusMachine

/-!
# What is stored stays

No row is ever lost, and no call rewrites one: of a match only the status moves,
of a request only the status and only from active to matched, of a user only the
last visit, and of an offer nothing.  A login leaves the accounts that are there
as they are, whatever the identity provider says by then.
-/

namespace Carpool

open Store

namespace Store

/-- A table has a row, and no other under its key. -/
def HasRow {ρ : Type} (key : ρ → Option String) (rows : List ρ) (row : ρ) : Prop :=
  row ∈ rows ∧ ∀ other ∈ rows, key other = key row → other = row

theorem HasRow.of_mem {ρ : Type} {key : ρ → Option String} {rows : List ρ} {row : ρ}
    (distinct : (rows.map key).Nodup) (member : row ∈ rows) : HasRow key rows row :=
  ⟨member, fun _ otherMember same => List.inj_on_of_nodup_map distinct otherMember member same⟩

/-- Every row is there later, under its identifier, and only the column that may
move has moved. -/
structure Database.Retains (before after : Database) : Prop where
  users : ∀ row ∈ before.userRows, ∃ seen,
    HasRow UserRow.userId after.userRows { row with lastSeen := seen }
  offers : ∀ row ∈ before.offerRows, HasRow OfferRow.offerId after.offerRows row
  requests : ∀ row ∈ before.requestRows,
    HasRow RequestRow.requestId after.requestRows row ∨
      row.status = RequestStatus.active.name ∧
        HasRow RequestRow.requestId after.requestRows
          { row with status := RequestStatus.matched.name }
  pairings : ∀ row ∈ before.matchRows, ∃ status : MatchStatus,
    HasRow MatchRow.matchId after.matchRows { row with status := status.name }

theorem Database.Extends.retains {policy : CompletionPolicy} {before after : Database}
    (formed : before.WellFormed) (grown : before.Extends policy after) :
    before.Retains after where
  users row member := by
    obtain ⟨user, rfl, found⟩ := formed.find_user member
    obtain ⟨seen, foundAfter⟩ := grown.users found
    exact ⟨seen, .of_mem grown.formed.userDistinct (mem_of_find? foundAfter).1⟩
  offers row member := by
    obtain ⟨offer, -, found⟩ := formed.find_offer member
    exact .of_mem grown.formed.offerDistinct (mem_of_find? (grown.offers found)).1
  requests row member := by
    obtain ⟨request, rfl, found⟩ := formed.find_request member
    obtain ⟨status, leads, foundAfter⟩ := grown.requests request found
    have kept := HasRow.of_mem grown.formed.requestDistinct (mem_of_find? foundAfter).1
    rcases leads with rfl | ⟨active, rfl⟩
    · exact .inl kept
    · exact .inr ⟨RequestStatus.name_inj.mpr active, kept⟩
  pairings row member := by
    obtain ⟨record, rfl, found⟩ := formed.find_match member
    obtain ⟨status, -, foundAfter⟩ := grown.pairings record found
    exact ⟨status, .of_mem grown.formed.matchDistinct (mem_of_find? foundAfter).1⟩

/-- All accounts stay exactly as they are; at most one with a new address has
been added. -/
inductive Database.OnlySignsUp (before after : Database) : Prop
  | unchanged (same : after.userRows = before.userRows)
  | added (row : UserRow) (newAddress : row.email ∉ before.userRows.map UserRow.email)
      (appended : after.userRows = before.userRows ++ [row])

theorem Effect.onlySignsUp {policy : CompletionPolicy} {idToken : String} {fresh : Fresh}
    {before after : Database} {job : Job} {answer : Option (Except StoreError job.Result)}
    (effect : Effect fresh before job answer after)
    (entitled : Entitled policy (.login idToken) before job) : before.OnlySignsUp after := by
  cases entitled with
  | lookUp lookup =>
      refine .unchanged (effect.frame.users ?_)
      cases job <;> first | exact id | exact lookup.elim
  | signUp =>
      cases effect with
      | abandoned => exact .unchanged rfl
      | refused violation => exact .unchanged rfl
      | read look planned => cases planned
      | userCreated input after inserted =>
          obtain ⟨-, newAddress, rfl⟩ := Database.insertUser_eq_ok.mp inserted
          exact .added _ newAddress rfl

end Store

namespace System

variable {setup : Setup} {system : System}

/-- From a state of the system on, what is stored stays. -/
structure KeepsRecords (setup : Setup) (system : System) : Prop where
  /-- In every later state the rows of this one are still there. -/
  later : ∀ after, Reaches setup system after → system.database.Retains after.database
  /-- A step of a login leaves all accounts as they are. -/
  login : ∀ event after idToken, step setup system event = some after →
    system.served? event = some (.login idToken) →
    system.database.OnlySignsUp after.database

theorem step_onlySignsUp (reachable : Reachable setup system) {event : Event} {after : System}
    {idToken : String} (stepped : step setup system event = some after)
    (served : system.served? event = some (.login idToken)) :
    system.database.OnlySignsUp after.database := by
  have holds := (entitlements_lawful setup).holds reachable
  have unchanged : system.database.Extends setup.policy system.database := .refl holds.formed
  cases stepped_of_step stepped with
  | arrived operation => exact .unchanged rfl
  | left place => exact .unchanged rfl
  | timed given asks => exact .unchanged rfl
  | introspected given asks => exact .unchanged rfl
  | answered given asks ran =>
      have entitled := (holds.asking asks _ unchanged).1
      rw [served?, asks] at served
      obtain rfl := Option.some.inj served
      exact (Job.runWhile_effect ran).onlySignsUp entitled
  | abandoned given asks ran =>
      have entitled := (holds.asking asks _ unchanged).1
      rw [served?, asks] at served
      obtain rfl := Option.some.inj served
      exact (Job.runWhile_effect ran).onlySignsUp entitled

/-- In every run and between any two of its states, no record is lost and only
the one column of it moves that may move. -/
theorem records_never_lost (reachable : Reachable setup system) : KeepsRecords setup system where
  later after reaches := by
    have lawful := entitlements_lawful setup
    exact (lawful.grows reachable reaches).retains (lawful.holds reachable).formed
  login event after idToken stepped served := step_onlySignsUp reachable stepped served

/-- Two drivers have raced for a request, and a match and an offer are stored:
they stay from now on. -/
theorem race_keeps_records :
    ∃ system, run (Sample.setup .unrestricted) initial Sample.accepted = some system ∧
      system.database.matchRows.map MatchRow.status = [MatchStatus.accepted.name] ∧
      system.database.offerRows.length = 1 ∧ KeepsRecords (Sample.setup .unrestricted) system := by
  obtain ⟨system, ran, seen⟩ := Option.map_eq_some_iff.mp
    (by decide +kernel : (run (Sample.setup .unrestricted) initial Sample.accepted).map
      (fun system => (system.database.matchRows.map MatchRow.status,
        system.database.offerRows.length)) = some ([MatchStatus.accepted.name], 1))
  obtain ⟨paired, offered⟩ := Prod.mk.inj seen
  exact ⟨system, ran, paired, offered, records_never_lost ⟨Sample.accepted, ran⟩⟩

end System

end Carpool
