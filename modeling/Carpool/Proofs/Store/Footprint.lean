import Carpool.Proofs.Store.GuardedColumns
import Carpool.Proofs.Store.Places
import Carpool.Proofs.Store.Reading

/-!
# The footprints of store jobs

Which places the jobs of the store write, and on which places their answers
depend: lookups on what they look for, swaps on the one value that they compare,
insertions on their own key and on the row that they refer to.
-/

namespace Carpool

namespace Store

/-- The places that a job may write. -/
def Job.touches (fresh : Fresh) : Job → List Place
  | .createUser _ => [.account fresh.first, .visit fresh.first]
  | .swapLastSeen id _ _ => [.visit id]
  | .createOffer _ => [.offer fresh.first]
  | .createRequest _ => [.request fresh.first]
  | .swapRequestStatus id _ _ => [.request id]
  | .createMatch _ => [.pairing fresh.first]
  | .swapMatchStatus id _ _ | .forceMatchStatus id _ => [.pairing id]
  | .acceptRideRequest acceptance =>
      [.offer fresh.first, .pairing fresh.second, .request acceptance.requestId]
  | _ => []

/-- The place of a guarded column in the row with an identifier. -/
def GuardedColumn.place : GuardedColumn → Uuid → Place
  | .lastSeen => .visit
  | .matchStatus => .pairing
  | .requestStatus => .request

variable {fresh : Fresh} {before after : Database}

/-! ## Places that a job leaves alone -/

theorem Job.touches_of_writesTo {job : Job} {id : Uuid} {column : GuardedColumn}
    (writes : job.WritesTo fresh id column) : column.place id ∈ job.touches fresh := by
  revert writes
  cases column <;> cases job <;>
    simp +contextual [Job.WritesTo, Job.touches, GuardedColumn.place]

namespace Effect

variable {job : Job} {answer : Option (Except StoreError job.Result)} {id : Uuid}

theorem findOffer?_spared (effect : Effect fresh before job answer after)
    (spares : .offer id ∉ job.touches fresh) :
    after.findOffer? id.text = before.findOffer? id.text := by
  have frame := effect.frame
  cases effect with
  | read | abandoned | refused | declined => rfl
  | offerCreated input row after encoded inserted =>
      obtain ⟨-, -, rfl⟩ := Database.insertOffer_eq_ok.mp inserted
      refine find?_append_other ?_
      rw [OfferRow.offerId_of_encoded encoded]
      exact some_text_ne fun same => spares (by simp [Job.touches, ← same, Fresh.offer])
  | accepted acceptance after committed =>
      obtain ⟨row, offered, paired, encoded, offering, pairing, -, rfl⟩ :=
        Database.accept_eq_ok committed
      obtain ⟨-, -, rfl⟩ := Database.insertOffer_eq_ok.mp offering
      obtain ⟨-, -, -, rfl⟩ := Database.insertMatch_eq_ok.mp pairing
      refine find?_append_other ?_
      rw [OfferRow.offerId_of_encoded encoded]
      exact some_text_ne fun same => spares (by simp [Job.touches, ← same, Fresh.accepted])
  | _ => exact congrArg (List.find? _) (frame.offers fun writes => writes)

theorem account_spared (effect : Effect fresh before job answer after)
    (spares : .account id ∉ job.touches fresh) :
    after.look (.account id) = before.look (.account id) := by
  have frame := effect.frame
  cases effect with
  | read | abandoned | refused | declined => rfl
  | userCreated input after inserted =>
      obtain ⟨-, -, rfl⟩ := Database.insertUser_eq_ok.mp inserted
      refine congrArg (Option.map _) (find?_append_other (some_text_ne fun same => spares ?_))
      simp [Job.touches, ← same, Fresh.user]
  | seenSwapped user expected new =>
      change Option.map _ ((before.swapLastSeen _ _ _).1.findUser? id.text) = Option.map _ _
      rw [Database.findUser?_swapLastSeen, Option.map_map]
      congr 1
      funext row
      dsimp only [Function.comp_apply]
      split <;> rfl
  | _ =>
      exact congrArg (Option.map _) (congrArg (List.find? _) (frame.users fun writes => writes))

theorem look_spared {place : Place} (effect : Effect fresh before job answer after)
    (spares : place ∉ job.touches fresh) : after.look place = before.look place := by
  have unwritten (column : GuardedColumn) (id : Uuid) (own : place = column.place id) :
      ¬job.WritesTo fresh id column :=
    fun writes => spares (own ▸ Job.touches_of_writesTo writes)
  cases place with
  | account id => exact effect.account_spared spares
  | visit id => exact congrArg (Option.map _) (effect.findUser?_spared (unwritten .lastSeen id rfl))
  | offer id => exact effect.findOffer?_spared spares
  | request id => exact effect.findRequest?_spared (unwritten .requestStatus id rfl)
  | pairing id => exact effect.findMatch?_spared (unwritten .matchStatus id rfl)

end Effect

/-! ## Jobs and their footprints -/

theorem Job.runWhile_of_run (job : Job) (fresh : Fresh) (database : Database) :
    job.runWhile fresh none database =
      (some (job.run fresh database).1, (job.run fresh database).2) := by
  cases ran : job.runWhile fresh none database with
  | mk answer after =>
      cases answer with
      | none => exact (Job.runWhile_ne_none ran).elim
      | some answer => rw [Job.run_of_runWhile ran]

theorem Job.run_effect (job : Job) (fresh : Fresh) (database : Database) :
    Effect fresh database job (some (job.run fresh database).1) (job.run fresh database).2 :=
  Job.runWhile_effect (Job.runWhile_of_run job fresh database)

variable {footprint : Footprint}

/-- A job keeps to a footprint that covers what it writes, if what the footprint
reads decides its answer and what it writes. -/
theorem KeepsTo.of_job (job : Job) (fresh : Fresh)
    (written : ∀ place ∈ job.touches fresh, place ∈ footprint.writes)
    (decided : ∀ {first second : Database}, first.WellFormed → second.WellFormed →
      first.AgreeOn footprint.reads second →
      (job.run fresh first).1 = (job.run fresh second).1 ∧
        ∀ place ∈ job.touches fresh,
          (job.run fresh first).2.look place = (job.run fresh second).2.look place) :
    KeepsTo footprint (job.run fresh) where
  formed {database} formed := (job.run_effect fresh database).wellFormed formed
  frame {database place} _ unwritten :=
    (job.run_effect fresh database).look_spared fun touched => unwritten (written place touched)
  answer formed formedToo agree := (decided formed formedToo agree).1
  write {first second} formed formedToo agree := by
    intro place writes
    by_cases touched : place ∈ job.touches fresh
    · exact (decided formed formedToo agree).2 place touched
    · rw [(job.run_effect fresh first).look_spared touched,
        (job.run_effect fresh second).look_spared touched]
      exact agree place (footprint.writes_subset writes)

/-! ### Lookups -/

theorem KeepsTo.of_read {job : Job} {look : Database → Except StoreError job.Result}
    (planned : job.plan fresh = .read look)
    (decided : ∀ {first second : Database}, first.AgreeOn footprint.reads second →
      look first = look second) : KeepsTo footprint (job.run fresh) := by
  refine (KeepsTo.of_look fun _ _ => decided).congr fun database _ => ?_
  rw [Job.run, planned]

theorem keepsTo_getUser {id : Uuid} (account : .account id ∈ footprint.reads)
    (visit : .visit id ∈ footprint.reads) : KeepsTo footprint ((Job.getUser id).run fresh) :=
  .of_read rfl fun agree => congrArg (Option.mapM UserRow.decode)
    (Database.findUser?_eq_of_look (agree _ account) (agree _ visit))

theorem keepsTo_getOffer {id : Uuid} (read : .offer id ∈ footprint.reads) :
    KeepsTo footprint ((Job.getOffer id).run fresh) :=
  .of_read rfl fun agree => congrArg (Option.mapM OfferRow.decode) (agree _ read)

theorem keepsTo_getRequest {id : Uuid} (read : .request id ∈ footprint.reads) :
    KeepsTo footprint ((Job.getRequest id).run fresh) :=
  .of_read rfl fun agree => congrArg (Option.mapM RequestRow.decode) (agree _ read)

theorem keepsTo_getMatch {id : Uuid} (read : .pairing id ∈ footprint.reads) :
    KeepsTo footprint ((Job.getMatch id).run fresh) :=
  .of_read rfl fun agree => congrArg (Option.mapM MatchRow.decode) (agree _ read)

/-! ### Changes in place -/

namespace GuardedColumn

variable {database : Database}

theorem answer_swap (column : GuardedColumn) (formed : database.WellFormed) (id : Uuid)
    (expected new : column.Value) (fresh : Fresh) :
    (column.swap id expected new fresh database).1 =
      if column.held database id = some (column.stored expected) then .ok .applied
      else .ok .stale := by
  have distinct : (column.keys database).Nodup := by
    cases column with
    | lastSeen => exact formed.userDistinct
    | matchStatus => exact formed.matchDistinct
    | requestStatus => exact formed.requestDistinct
  rw [column.swap_of_keys (Database.nodup_reduceOption distinct)]
  split <;> rfl

theorem held_eq_of_look {first second : Database} (column : GuardedColumn) {id : Uuid}
    (same : first.look (column.place id) = second.look (column.place id)) :
    column.held first id = column.held second id := by
  cases column with
  | lastSeen => exact same
  | matchStatus => exact congrArg (Option.map _) same
  | requestStatus => exact congrArg (Option.map _) same

theorem visit_swapLastSeen (database : Database) (id : Uuid) (expected new : Int) :
    ((database.swapLastSeen id.text expected new).1.findUser? id.text).map UserRow.lastSeen =
      ((database.findUser? id.text).map UserRow.lastSeen).map fun cell =>
        if cell == .integer expected then .integer new else cell := by
  rw [Database.findUser?_swapLastSeen]
  cases found : database.findUser? id.text with
  | none => rfl
  | some row =>
      have keyed := (Database.mem_of_find? found).2
      simp only [Option.map_some, keyed, beq_self_eq_true, Bool.true_and]
      split <;> rfl

/-- What a swap leaves in its place depends on nothing but what was there. -/
theorem look_swap {first second : Database} (column : GuardedColumn) {id : Uuid}
    (expected new : column.Value) (fresh : Fresh)
    (same : first.look (column.place id) = second.look (column.place id)) :
    (column.swap id expected new fresh first).2.look (column.place id) =
      (column.swap id expected new fresh second).2.look (column.place id) := by
  cases column with
  | lastSeen =>
      refine (visit_swapLastSeen first id _ _).trans (Eq.trans ?_
        (visit_swapLastSeen second id _ _).symm)
      exact congrArg (Option.map _) same
  | matchStatus =>
      refine (Database.findMatch?_swapMatchStatus id.text id.text _ _).trans (Eq.trans ?_
        (Database.findMatch?_swapMatchStatus id.text id.text _ _).symm)
      exact congrArg (Option.map _) same
  | requestStatus =>
      refine (Database.findRequest?_swapRequestStatus id.text id.text _ _).trans (Eq.trans ?_
        (Database.findRequest?_swapRequestStatus id.text id.text _ _).symm)
      exact congrArg (Option.map _) same

end GuardedColumn

theorem keepsTo_swap (column : GuardedColumn) {id : Uuid} (expected new : column.Value)
    (fresh : Fresh) (written : column.place id ∈ footprint.writes) :
    KeepsTo footprint (column.swap id expected new fresh) := by
  have decided {first second : Database} (formed : first.WellFormed) (formedToo : second.WellFormed)
      (agree : first.AgreeOn footprint.reads second) :
      (column.swap id expected new fresh first).1 = (column.swap id expected new fresh second).1 ∧
        ∀ place ∈ [column.place id], (column.swap id expected new fresh first).2.look place =
          (column.swap id expected new fresh second).2.look place := by
    have same := agree _ (footprint.writes_subset written)
    refine ⟨?_, List.forall_mem_singleton.mpr (column.look_swap expected new fresh same)⟩
    rw [column.answer_swap formed, column.answer_swap formedToo, column.held_eq_of_look same]
  have covered := List.forall_mem_singleton.mpr written
  cases column with
  | lastSeen => exact .of_job (.swapLastSeen id expected new) fresh covered decided
  | matchStatus => exact .of_job (.swapMatchStatus id expected new) fresh covered decided
  | requestStatus => exact .of_job (.swapRequestStatus id expected new) fresh covered decided

theorem Job.run_single {job : Job} {statement : Statement}
    {result : Report → Except StoreError job.Result} {database : Database}
    (planned : job.plan fresh = .write (.single statement result)) :
    job.run fresh database =
      match statement.run database with
      | .error violation => (.error (.violation violation), database)
      | .ok (after, report) => (result report, after) := by
  refine Job.run_of_runWhile ?_
  rw [Job.runWhile_single planned, if_neg (by simp)]
  cases statement.run database <;> rfl

theorem keepsTo_forceMatchStatus {id : Uuid} (new : MatchStatus)
    (written : .pairing id ∈ footprint.writes) :
    KeepsTo footprint ((Job.forceMatchStatus id new).run fresh) := by
  refine .of_job _ _ (List.forall_mem_singleton.mpr written) fun _ _ agree => ?_
  have same := agree _ (footprint.writes_subset written)
  have found {database : Database} := database.findMatch?_setMatchStatus id.text id.text new.name
  have sameAfter := found.trans ((congrArg (Option.map _) same).trans found.symm)
  rw [Job.run_single rfl, Job.run_single rfl]
  exact ⟨congrArg (Option.mapM MatchRow.decode) sameAfter, List.forall_mem_singleton.mpr sameAfter⟩

/-! ### Insertions -/

/-- An attempt to insert a row. -/
def inserting (insert : Database → Except Violation Database) (database : Database) :
    Except Violation Unit × Database :=
  match insert database with
  | .ok after => (.ok (), after)
  | .error violation => (.error violation, database)

/-- Some contents, or the first of the constraints that is broken. -/
def unlessBroken (constraints : List (Bool × Violation)) (after : Database) :
    Except Violation Database :=
  match constraints.find? Prod.fst with
  | some broken => .error broken.2
  | none => .ok after

theorem unlessBroken_cons (broken : Bool) (violation : Violation)
    (constraints : List (Bool × Violation)) (after : Database) :
    unlessBroken ((broken, violation) :: constraints) after =
      if broken then .error violation else unlessBroken constraints after := by
  cases broken <;> rfl

/-- An attempt to insert a row keeps to what covers the place of the row, if what is
read decides which constraints are broken and what gets there. -/
theorem KeepsTo.of_insertion {insert : Database → Except Violation Database} {own : Place}
    {constraints : Database → List (Bool × Violation)} {add : Database → Database}
    (owned : own ∈ footprint.writes)
    (inserts : ∀ database, insert database = unlessBroken (constraints database) (add database))
    (formed : ∀ {database after : Database}, database.WellFormed → insert database = .ok after →
      after.WellFormed)
    (elsewhere : ∀ {database : Database} {place : Place}, place ≠ own →
      (add database).look place = database.look place)
    (decided : ∀ {first second : Database}, first.AgreeOn footprint.reads second →
      constraints first = constraints second ∧ (add first).look own = (add second).look own) :
    KeepsTo footprint (inserting insert) := by
  refine .of_place owned (fun {database} wellFormed => ?_) (fun {database place} _ other => ?_)
    fun {first second} _ _ agree => ?_
  · rw [inserting]
    cases inserted : insert database with
    | error violation => exact wellFormed
    | ok after => exact formed wellFormed inserted
  · rw [inserting, inserts, unlessBroken]
    cases (constraints database).find? Prod.fst with
    | some broken => rfl
    | none => exact elsewhere other
  · obtain ⟨sameConstraints, same⟩ := decided agree
    rw [inserting, inserting, inserts, inserts, unlessBroken, unlessBroken, sameConstraints]
    cases (constraints second).find? Prod.fst with
    | some broken => exact ⟨rfl, agree own (footprint.writes_subset owned)⟩
    | none => exact ⟨rfl, same⟩

theorem find?_append_congr {ρ : Type} {test : ρ → Bool} {rows others : List ρ} (new : ρ)
    (same : rows.find? test = others.find? test) :
    (rows ++ [new]).find? test = (others ++ [new]).find? test := by
  rw [List.find?_append, List.find?_append, same]

namespace Database

theorem insertOffer_eq {offer : RideOffer} {row : OfferRow} {driver : Uuid}
    (encoded : OfferRow.ofOffer offer = .ok row) (driven : offer.driverId = some driver)
    (database : Database) :
    database.insertOffer row =
      unlessBroken
        [((database.findOffer? offer.offerId.text).isSome, .unique (.offer .offerId)),
          (!(database.findUser? driver.text).isSome, .foreignKey)]
        { database with offerRows := database.offerRows ++ [row] } := by
  obtain ⟨-, rfl⟩ := OfferRow.ofOffer_eq_ok.mp encoded
  rw [unlessBroken_cons, unlessBroken_cons, insertOffer, findOffer?, List.isSome_find?,
    refersToUser, driven]
  rfl

theorem insertRequest_eq (request : RideRequest) (database : Database) :
    database.insertRequest (.ofRequest request) =
      unlessBroken
        [((database.findRequest? request.requestId.text).isSome, .unique (.request .requestId)),
          (!(database.findUser? request.userId.text).isSome, .foreignKey)]
        { database with requestRows := database.requestRows ++ [.ofRequest request] } := by
  rw [unlessBroken_cons, unlessBroken_cons, insertRequest, findRequest?, List.isSome_find?,
    Option.not_isSome]
  rfl

theorem insertMatch_eq (record : Match) (database : Database) :
    database.insertMatch (.ofMatch record) =
      unlessBroken
        [(record.riderId.text == record.driverId.text, .riderIsDriver),
          ((database.findMatch? record.matchId.text).isSome, .unique (.pairing .matchId)),
          (!(database.findOffer? record.rideId.text).isSome, .foreignKey)]
        { database with matchRows := database.matchRows ++ [.ofMatch record] } := by
  rw [unlessBroken_cons, unlessBroken_cons, unlessBroken_cons, insertMatch, findMatch?,
    List.isSome_find?, Option.not_isSome]
  rfl

/-- Whether there is an account can be told without its last visit. -/
theorem findUser?_isSome_congr {first second : Database} {id : Uuid}
    (same : first.look (.account id) = second.look (.account id)) :
    (first.findUser? id.text).isSome = (second.findUser? id.text).isSome := by
  have alike := congrArg (Option.isSome (α := UserRow)) same
  rwa [look, look, Option.isSome_map, Option.isSome_map] at alike

end Database

theorem keepsTo_insertOffer {offer : RideOffer} {driver : Uuid}
    (driven : offer.driverId = some driver) (written : .offer offer.offerId ∈ footprint.writes)
    (read : .account driver ∈ footprint.reads) :
    KeepsTo footprint
      (inserting fun database => OfferRow.ofOffer offer >>= database.insertOffer) := by
  cases encoded : OfferRow.ofOffer offer with
  | error violation => exact .pure _
  | ok row =>
      refine .of_insertion written (Database.insertOffer_eq encoded driven)
        (fun formed => formed.insertOffer encoded) (fun {database place} other => ?_)
        fun {first second} agree => ?_
      · cases place with
        | offer id =>
            refine find?_append_other ?_
            rw [OfferRow.offerId_of_encoded encoded]
            exact some_text_ne fun same => other (same ▸ rfl)
        | _ => rfl
      · have sameOffer :
            first.findOffer? offer.offerId.text = second.findOffer? offer.offerId.text :=
          agree _ (footprint.writes_subset written)
        have account := Database.findUser?_isSome_congr (agree _ read)
        exact ⟨by rw [sameOffer, account], find?_append_congr row sameOffer⟩

theorem keepsTo_insertRequest {request : RideRequest}
    (written : .request request.requestId ∈ footprint.writes)
    (read : .account request.userId ∈ footprint.reads) :
    KeepsTo footprint (inserting fun database => database.insertRequest (.ofRequest request)) := by
  refine .of_insertion written (Database.insertRequest_eq request)
    Database.WellFormed.insertRequest (fun {database place} other => ?_)
    fun {first second} agree => ?_
  · cases place with
    | request id => exact find?_append_other (some_text_ne fun same => other (same ▸ rfl))
    | _ => rfl
  · have sameRequest :
        first.findRequest? request.requestId.text = second.findRequest? request.requestId.text :=
      agree _ (footprint.writes_subset written)
    have account := Database.findUser?_isSome_congr (agree _ read)
    exact ⟨by rw [sameRequest, account], find?_append_congr _ sameRequest⟩

theorem keepsTo_insertMatch {record : Match} (written : .pairing record.matchId ∈ footprint.writes)
    (read : .offer record.rideId ∈ footprint.reads) :
    KeepsTo footprint (inserting fun database => database.insertMatch (.ofMatch record)) := by
  refine .of_insertion written (Database.insertMatch_eq record) Database.WellFormed.insertMatch
    (fun {database place} other => ?_) fun {first second} agree => ?_
  · cases place with
    | pairing id => exact find?_append_other (some_text_ne fun same => other (same ▸ rfl))
    | _ => rfl
  · have samePairing :
        first.findMatch? record.matchId.text = second.findMatch? record.matchId.text :=
      agree _ (footprint.writes_subset written)
    have sameOffer : first.findOffer? record.rideId.text = second.findOffer? record.rideId.text :=
      agree _ read
    exact ⟨by rw [samePairing, sameOffer], find?_append_congr _ samePairing⟩

theorem KeepsTo.of_insert {job : Job} {statement : Statement}
    {result : Except StoreError job.Result} {insert : Database → Except Violation Database}
    (planned : job.plan fresh = .write (.single statement fun _ => result))
    (executes : ∀ database, statement.run database = (insert database).map Statement.inserted)
    (kept : KeepsTo footprint (inserting insert)) : KeepsTo footprint (job.run fresh) := by
  refine (kept.map fun inserted =>
    match inserted with
    | .ok () => result
    | .error violation => .error (.violation violation)).congr fun database _ => ?_
  rw [Job.run_single planned, executes, inserting]
  cases insert database <;> rfl

theorem keepsTo_createOffer {input : NewOffer} (written : .offer fresh.first ∈ footprint.writes)
    (read : .account input.driverId ∈ footprint.reads) :
    KeepsTo footprint ((Job.createOffer input).run fresh) := by
  have executes (database : Database) :
      (Statement.insertOffer (fresh.offer input)).run database =
        (OfferRow.ofOffer (fresh.offer input) >>= database.insertOffer).map Statement.inserted := by
    simp only [Statement.run]
    cases OfferRow.ofOffer (fresh.offer input) with
    | error violation => rfl
    | ok row =>
        dsimp only [bind, Except.bind]
        cases database.insertOffer row <;> rfl
  have kept : KeepsTo footprint
      (inserting fun database => OfferRow.ofOffer (fresh.offer input) >>= database.insertOffer) :=
    keepsTo_insertOffer rfl written read
  exact .of_insert rfl executes kept

theorem keepsTo_createRequest {input : NewRequest}
    (written : .request fresh.first ∈ footprint.writes)
    (read : .account input.userId ∈ footprint.reads) :
    KeepsTo footprint ((Job.createRequest input).run fresh) := by
  have kept : KeepsTo footprint
      (inserting fun database => database.insertRequest (.ofRequest (fresh.request input))) :=
    keepsTo_insertRequest written read
  exact .of_insert rfl (fun _ => rfl) kept

theorem keepsTo_createMatch {input : NewMatch} (written : .pairing fresh.first ∈ footprint.writes)
    (read : .offer input.rideId ∈ footprint.reads) :
    KeepsTo footprint ((Job.createMatch input).run fresh) := by
  have kept : KeepsTo footprint
      (inserting fun database => database.insertMatch (.ofMatch (fresh.newMatch input))) :=
    keepsTo_insertMatch written read
  exact .of_insert rfl (fun _ => rfl) kept

/-! ### Acceptances -/

/-- Go on with what follows an insertion. -/
def onward {α : Type} (next : Database → Except StoreError α × Database) :
    Except Violation Unit → Database → Except StoreError α × Database
  | .ok () => next
  | .error violation => fun database => (.error (.violation violation), database)

theorem KeepsTo.onward {α : Type} {act : Database → Except Violation Unit × Database}
    {next : Database → Except StoreError α × Database} (kept : KeepsTo footprint act)
    (goesOn : KeepsTo footprint next) :
    KeepsTo footprint fun database => Store.onward next (act database).1 (act database).2 := by
  refine kept.bind fun database _ => ?_
  cases (act database).1 with
  | ok _ => exact goesOn
  | error violation => exact .pure _

/-- The statements of an acceptance, one after the other. -/
def accepting (request : Uuid) (accepted : Accepted) (fresh : Fresh) (database : Database) :
    Except StoreError Swap × Database :=
  let offer := inserting (fun database => OfferRow.ofOffer accepted.offer >>= database.insertOffer)
  let pairing := inserting fun database => database.insertMatch (.ofMatch accepted.record)
  let swap := GuardedColumn.requestStatus.swap request RequestStatus.active .matched fresh
  onward (fun offered => onward swap (pairing offered).1 (pairing offered).2)
    (offer database).1 (offer database).2

theorem accept_iff_accepting (request : Uuid) (accepted : Accepted) (fresh : Fresh)
    (database : Database) :
    match database.accept request accepted with
    | .error violation =>
        (accepting request accepted fresh database).1 = .error (.violation violation)
    | .ok none => (accepting request accepted fresh database).1 = .ok .stale
    | .ok (some after) => accepting request accepted fresh database = (.ok .applied, after) := by
  simp only [Database.accept, accepting, inserting, bind, Except.bind]
  cases OfferRow.ofOffer accepted.offer with
  | error violation => rfl
  | ok row =>
      dsimp only
      cases database.insertOffer row with
      | error violation => rfl
      | ok offered =>
          dsimp only [onward]
          cases offered.insertMatch (.ofMatch accepted.record) with
          | error violation => rfl
          | ok paired =>
              by_cases gone : (paired.swapRequestStatus request.text RequestStatus.active.name
                RequestStatus.matched.name).2 = 0
              · simp only [pure, Except.pure, if_pos gone]
                exact congrArg Except.ok (if_pos gone)
              · simp only [pure, Except.pure, if_neg gone]
                exact Prod.ext (congrArg Except.ok (if_neg gone)) rfl

/-- An acceptance is undone unless the request was swapped. -/
theorem Job.run_acceptRideRequest (acceptance : Acceptance) (fresh : Fresh) (database : Database) :
    (Job.acceptRideRequest acceptance).run fresh database =
      let accepted := fresh.accepted acceptance
      let tried := accepting acceptance.requestId accepted fresh database
      (tried.1.map fun swap => if swap.isApplied then some accepted else none,
        if tried.1.toOption.any Swap.isApplied then tried.2 else database) := by
  refine Job.run_of_runWhile ?_
  have tried := accept_iff_accepting acceptance.requestId (fresh.accepted acceptance) fresh database
  rw [Job.runWhile_accept]
  rcases accepts : database.accept acceptance.requestId (fresh.accepted acceptance)
    with violation | (_ | after)
  all_goals
    rw [accepts] at tried
    dsimp only at tried ⊢
    rw [tried]
    rfl

theorem keepsTo_acceptRideRequest {acceptance : Acceptance}
    (offer : .offer fresh.first ∈ footprint.writes)
    (pairing : .pairing fresh.second ∈ footprint.writes)
    (request : .request acceptance.requestId ∈ footprint.writes)
    (driver : .account acceptance.driverId ∈ footprint.reads) :
    KeepsTo footprint ((Job.acceptRideRequest acceptance).run fresh) := by
  let accepted := fresh.accepted acceptance
  have offering : KeepsTo footprint
      (inserting fun database => OfferRow.ofOffer accepted.offer >>= database.insertOffer) :=
    keepsTo_insertOffer rfl offer driver
  have matching : KeepsTo footprint
      (inserting fun database => database.insertMatch (.ofMatch accepted.record)) :=
    keepsTo_insertMatch pairing (footprint.writes_subset offer)
  have swapping := keepsTo_swap .requestStatus RequestStatus.active .matched fresh request
  have tried : KeepsTo footprint (accepting acceptance.requestId accepted fresh) :=
    offering.onward (matching.onward swapping)
  exact ((tried.undone fun answer => answer.toOption.any Swap.isApplied).map
    fun answer => answer.map fun swap => if swap.isApplied then some accepted else none).congr
    fun database _ => Job.run_acceptRideRequest acceptance fresh database

end Store

end Carpool
