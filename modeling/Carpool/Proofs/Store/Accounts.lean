import Carpool.Proofs.Store.Evolution
import Carpool.Proofs.Text.Lowercase

/-!
# Accounts by address

Accounts are stored under the normal form of their address, no two under one,
and every spelling of the address finds the account.  Nothing but the last visit
of an account ever changes.
-/

namespace Carpool

namespace Store

namespace Database

/-- The account of a user is stored, whatever the last visit. -/
def HasAccount (database : Database) (user : User) : Prop :=
  ∃ seen, UserRow.ofUser { user with lastSeen := seen } ∈ database.userRows

/-- The tables are well formed, and the addresses of all accounts are in normal
form. -/
structure KeepsAddresses (database : Database) : Prop where
  formed : database.WellFormed
  normal : ∀ row ∈ database.userRows, normalEmail row.email = row.email

theorem KeepsAddresses.empty : Database.empty.KeepsAddresses where
  formed := .empty
  normal row member := by cases member

variable {database before after : Database} {user other : User}

/-- No two accounts share the normal form of their addresses. -/
theorem KeepsAddresses.distinct (keeps : database.KeepsAddresses) :
    (database.userRows.map fun row => normalEmail row.email).Nodup := by
  have same : database.userRows.map (fun row => normalEmail row.email) =
      database.userRows.map UserRow.email := List.map_congr_left keeps.normal
  rw [same]
  exact keeps.formed.emailDistinct

theorem HasAccount.normal (has : database.HasAccount user) (keeps : database.KeepsAddresses) :
    normalEmail user.email = user.email := by
  obtain ⟨seen, stored⟩ := has
  have normal := keeps.normal _ stored
  exact normal

theorem HasAccount.userId_eq (has : database.HasAccount user)
    (hasOther : database.HasAccount other) (formed : database.WellFormed)
    (same : user.email = other.email) : user.userId = other.userId := by
  obtain ⟨seen, stored⟩ := has
  obtain ⟨seenOther, storedOther⟩ := hasOther
  have row := List.inj_on_of_nodup_map formed.emailDistinct stored storedOther same
  have ids : some user.userId.text = some other.userId.text := congrArg UserRow.userId row
  exact Uuid.text_inj.mp (Option.some.inj ids)

/-- There is an account with an address. -/
def HasAddress (database : Database) (email : String) : Prop :=
  email ∈ database.userRows.map UserRow.email

/-- Under an unused identifier an account is refused only for its address. -/
theorem insertUser_eq_error {row : UserRow} {violation : Violation}
    (unused : row.userId ∉ database.userRows.map UserRow.userId)
    (refused : database.insertUser row = .error violation) :
    violation = .unique (.user .email) ∧ database.HasAddress row.email := by
  rw [insertUser] at refused
  split at refused
  · rename_i used
    obtain ⟨-, used⟩ := Bool.and_eq_true_iff.mp used
    obtain ⟨other, stored, same⟩ := List.any_eq_true.mp used
    exact absurd (List.mem_map.mpr ⟨other, stored, beq_iff_eq.mp same⟩) unused
  split at refused
  · rename_i taken
    obtain ⟨other, stored, same⟩ := List.any_eq_true.mp taken
    exact ⟨(Except.error.inj refused).symm, List.mem_map.mpr ⟨other, stored, beq_iff_eq.mp same⟩⟩
  · contradiction

theorem findUserByEmail?_eq_some {email : String} {row : UserRow}
    (found : database.findUserByEmail? email = some row) :
    row ∈ database.userRows ∧ row.email = email :=
  ⟨List.mem_of_find?_eq_some found, by simpa using List.find?_some found⟩

theorem findUserByEmail?_eq_none {email : String} :
    database.findUserByEmail? email = none ↔ ¬database.HasAddress email := by
  rw [findUserByEmail?, List.find?_eq_none, HasAddress]
  simp

/-- Whom a lookup finds has the account, and with the address in normal form. -/
theorem WellFormed.of_findUserByEmail (formed : database.WellFormed) {email : String}
    (read : (database.findUserByEmail? (normalEmail email)).mapM UserRow.decode =
      .ok (some user)) : database.HasAccount user ∧ user.email = normalEmail email := by
  obtain ⟨row, found, decoded⟩ := mapM_eq_ok_some.mp read
  obtain ⟨member, addressed⟩ := findUserByEmail?_eq_some found
  obtain ⟨stored, rfl⟩ := formed.userEncoded row member
  rw [UserRow.decode_ofUser] at decoded
  obtain rfl := Except.ok.inj decoded
  exact ⟨⟨stored.lastSeen, member⟩, addressed⟩

/-- A lookup by an address answers, and finds an account where there is one. -/
theorem WellFormed.exists_found (formed : database.WellFormed) (email : String) :
    ∃ found, (database.findUserByEmail? email).mapM UserRow.decode = .ok found ∧
      (found = none ↔ ¬database.HasAddress email) := by
  cases looked : database.findUserByEmail? email with
  | none => exact ⟨none, rfl, iff_of_true rfl (findUserByEmail?_eq_none.mp looked)⟩
  | some row =>
      obtain ⟨holder, rfl⟩ := formed.userEncoded row (findUserByEmail?_eq_some looked).1
      refine ⟨_, mapM_eq_ok_some.mpr ⟨_, rfl, UserRow.decode_ofUser holder⟩, ?_⟩
      refine iff_of_false (by simp) fun unknown => ?_
      rw [findUserByEmail?_eq_none.mpr unknown] at looked
      cases looked

/-- A lookup by any text answers, and finds an account by the spellings of its
address and by no other text. -/
theorem KeepsAddresses.findUserByEmail (keeps : database.KeepsAddresses)
    (has : database.HasAccount user) (email : String) :
    ∃ found, (database.findUserByEmail? (normalEmail email)).mapM UserRow.decode = .ok found ∧
      ((∃ seen, found = some { user with lastSeen := seen }) ↔
        normalEmail email = normalEmail user.email) := by
  have normal := has.normal keeps
  obtain ⟨seen, stored⟩ := has
  cases looked : database.findUserByEmail? (normalEmail email) with
  | none =>
      refine ⟨none, rfl, iff_of_false (by simp) fun same => ?_⟩
      refine findUserByEmail?_eq_none.mp looked ?_
      rw [same, normal]
      exact List.mem_map_of_mem stored
  | some row =>
      obtain ⟨member, addressed⟩ := findUserByEmail?_eq_some looked
      obtain ⟨holder, rfl⟩ := keeps.formed.userEncoded row member
      have read : (some (UserRow.ofUser holder)).mapM UserRow.decode =
          .ok (some { holder with lastSeen := holder.lastSeen.wholeSecond }) :=
        mapM_eq_ok_some.mpr ⟨_, rfl, UserRow.decode_ofUser holder⟩
      have address : holder.email = normalEmail email := addressed
      refine ⟨_, read, ?_⟩
      constructor
      · rintro ⟨visit, same⟩
        have email := congrArg User.email (Option.some.inj same)
        exact address.symm.trans (email.trans normal.symm)
      · intro same
        have row := List.inj_on_of_nodup_map keeps.formed.emailDistinct member stored
          (address.trans (same.trans normal))
        have decoded := congrArg UserRow.decode row
        rw [UserRow.decode_ofUser, UserRow.decode_ofUser] at decoded
        exact ⟨seen.wholeSecond, congrArg some (Except.ok.inj decoded)⟩

/-! ## What jobs do to accounts -/

/-- Of a user nothing but the last visit is swapped. -/
theorem mem_swapLastSeen {id : String} {expected : Int} {new : Instant} {row : UserRow} :
    row ∈ (database.swapLastSeen id expected new.second).1.userRows →
      ∃ old ∈ database.userRows, old.userId = row.userId ∧ old.email = row.email := by
  intro member
  obtain ⟨old, stored, rfl⟩ := mem_changeWhere.mp member
  refine ⟨old, stored, ?_⟩
  split <;> exact ⟨rfl, rfl⟩

theorem HasAccount.swapLastSeen (has : database.HasAccount user) (id : String) (expected : Int)
    (new : Instant) : (database.swapLastSeen id expected new.second).1.HasAccount user := by
  obtain ⟨seen, stored⟩ := has
  by_cases meant :
      (some user.userId.text == some id && Cell.integer seen.second == .integer expected) = true
  · exact ⟨new, mem_changeWhere.mpr ⟨_, stored, if_pos meant⟩⟩
  · exact ⟨seen, mem_changeWhere.mpr ⟨_, stored, if_neg meant⟩⟩

theorem HasAddress.swapLastSeen {email : String} (has : database.HasAddress email) (id : String)
    (expected : Int) (new : Instant) :
    (database.swapLastSeen id expected new.second).1.HasAddress email := by
  have same : (database.swapLastSeen id expected new.second).1.userRows.map UserRow.email =
      database.userRows.map UserRow.email := map_changeWhere fun _ => rfl
  rw [HasAddress, same]
  exact has

end Database

/-- The accounts after a job: as before, or one more, or one with another last
visit. -/
inductive AccountsMove (fresh : Fresh) (before after : Database) (job : Job) : Prop
  | same (users : after.userRows = before.userRows)
  | created (input : NewUser) (creates : job = .createUser input)
      (unused : ¬before.HasAddress (normalEmail input.email))
      (users : after.userRows = before.userRows ++ [.ofUser (fresh.user input)])
  | visited (id : Uuid) (expected new : Instant)
      (users : after = (before.swapLastSeen id.text expected.second new.second).1)

variable {fresh : Fresh} {patience : Patience} {before after : Database}

theorem Job.of_createUser {input : NewUser} {answer : Option (Except StoreError User)}
    (ran : (Job.createUser input).runWhile fresh patience before = (answer, after)) :
    Unwritten before answer after ∨
      answer = some (.ok (fresh.user input)) ∧
        before.insertUser (.ofUser (fresh.user input)) = .ok after := by
  cases Job.runWhile_effect ran with
  | read look planned => cases planned
  | abandoned => exact .inl .abandoned
  | refused violation => exact .inl (.refused violation)
  | userCreated input after inserted => exact .inr ⟨rfl, inserted⟩

/-- Under an unused identifier the creation of an account fails only where its
address is taken. -/
theorem Job.createUser_eq_error {input : NewUser} {error : StoreError}
    (unused : before.Unused fresh.first)
    (ran : (Job.createUser input).runWhile fresh patience before = (some (.error error), after)) :
    error = .violation (.unique (.user .email)) ∧ before.HasAddress (normalEmail input.email) := by
  have fails := (Job.runWhile_single rfl).symm.trans ran
  split at fails
  · cases fails
  dsimp only [Statement.run] at fails
  cases inserted : before.insertUser (.ofUser (fresh.user input)) with
  | ok database =>
      rw [inserted] at fails
      cases fails
  | error violation =>
      rw [inserted] at fails
      have same : StoreError.violation violation = error :=
        Except.error.inj (Option.some.inj (congrArg Prod.fst fails))
      have unstored := Database.find?_eq_none_iff.mp unused.user
      obtain ⟨rfl, taken⟩ := Database.insertUser_eq_error unstored inserted
      exact ⟨same.symm, taken⟩

variable {job : Job} {answer : Option (Except StoreError job.Result)} {user : User}

theorem Effect.accountsMove (effect : Effect fresh before job answer after) :
    AccountsMove fresh before after job := by
  by_cases writes : job.Writes .users
  · cases effect with
    | abandoned => exact .same rfl
    | refused violation => exact .same rfl
    | read look planned => exact .same rfl
    | userCreated input after inserted =>
        obtain ⟨-, unused, rfl⟩ := Database.insertUser_eq_ok.mp inserted
        exact .created input rfl unused rfl
    | seenSwapped id expected new => exact .visited id expected new rfl
    | _ => exact writes.elim
  · exact .same (effect.frame.users writes)

theorem Effect.keepsAddresses (effect : Effect fresh before job answer after)
    (keeps : before.KeepsAddresses) : after.KeepsAddresses where
  formed := effect.wellFormed keeps.formed
  normal row member := by
    cases effect.accountsMove with
    | same users => exact keeps.normal row (users ▸ member)
    | created input creates unused users =>
        rw [users] at member
        rcases List.mem_append.mp member with old | new
        · exact keeps.normal row old
        · rw [List.mem_singleton.mp new]
          exact normalEmail_normalEmail input.email
    | visited id expected new users =>
        subst users
        obtain ⟨old, stored, -, email⟩ := Database.mem_swapLastSeen member
        exact email ▸ keeps.normal old stored

theorem Effect.hasAddress (effect : Effect fresh before job answer after) {email : String}
    (has : before.HasAddress email) : after.HasAddress email := by
  cases effect.accountsMove with
  | same users =>
      rw [Database.HasAddress, users]
      exact has
  | created input creates unused users =>
      rw [Database.HasAddress, users, List.map_append]
      exact List.mem_append_left _ has
  | visited id expected new users =>
      subst users
      exact Database.HasAddress.swapLastSeen has _ _ new

theorem Effect.hasAccount (effect : Effect fresh before job answer after)
    (has : before.HasAccount user) : after.HasAccount user := by
  cases effect.accountsMove with
  | same users =>
      obtain ⟨seen, stored⟩ := has
      exact ⟨seen, users ▸ stored⟩
  | created input creates unused users =>
      obtain ⟨seen, stored⟩ := has
      exact ⟨seen, users ▸ List.mem_append_left _ stored⟩
  | visited id expected new users =>
      subst users
      exact has.swapLastSeen _ _ new

end Store

end Carpool
