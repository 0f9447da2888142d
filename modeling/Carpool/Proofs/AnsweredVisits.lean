import Carpool.Proofs.LastSeen
import Carpool.Proofs.RowCodec
import Carpool.Proofs.Server.Caution
import Carpool.Proofs.Server.Visible
import Carpool.Proofs.Store.Growth
import Carpool.Proofs.Store.GuardedColumns

/-!
# Answered visits

A visit at some moment reads the account of its user and then replaces the last
visit that it found there, whatever other jobs come in between.  What it answers
is built from the account as it was read, of which only the last visit can have
changed since, and that is what the replacement compares.  Within a leap second
the answer shows the sixtieth second, and the account the one before.
-/

namespace Carpool

open Store

/-- Only a leap second is no whole second of its own. -/
theorem Instant.wholeSecond_eq_toSecond_iff {instant : Instant} :
    instant.wholeSecond = instant.toSecond ↔ instant.nanosecond < 1000000000 := by
  have parts : instant.wholeSecond = instant.toSecond ↔
      0 = instant.nanosecond - instant.nanosecond % 1000000000 := by
    rw [Instant.mk.injEq]
    exact and_iff_right rfl
  rw [parts]
  omega

namespace Store

/-! ## Accounts -/

namespace Database

variable {database : Database} {id : Uuid}

/-- A row of an account is there, and of its columns only the last visit may
have changed. -/
def KeepsAccount (database : Database) (id : Uuid) (row : UserRow) : Prop :=
  ∃ seen, database.findUser? id.text = some { row with lastSeen := seen }

/-- An account that was read is stored as its row. -/
theorem WellFormed.findUser?_of_getUser (formed : database.WellFormed) {user : User}
    (read : (database.findUser? id.text).mapM UserRow.decode = .ok (some user)) :
    database.findUser? id.text = some (.ofUser user) := by
  obtain ⟨row, found, decoded⟩ := mapM_eq_ok_some.mp read
  obtain ⟨stored, rfl⟩ := formed.userEncoded row (mem_of_find? found).1
  rw [UserRow.decode_ofUser] at decoded
  obtain rfl := Except.ok.inj decoded
  exact found

theorem findUser?_put (database : Database) (id : Uuid) (now : Instant) :
    (GuardedColumn.lastSeen.put id now database).findUser? id.text =
      (database.findUser? id.text).map fun row => { row with lastSeen := .integer now.second } :=
  find?_map_chosen fun _ => rfl

/-- The last visit is put into the row of the account, and shown to its second. -/
theorem KeepsAccount.getUser_put {user : User} (kept : database.KeepsAccount id (.ofUser user))
    (now : Instant) :
    ((GuardedColumn.lastSeen.put id now database).findUser? id.text).mapM UserRow.decode =
      .ok (some { user with lastSeen := now.wholeSecond }) := by
  obtain ⟨seen, found⟩ := kept
  have put : (GuardedColumn.lastSeen.put id now database).findUser? id.text =
      some (.ofUser { user with lastSeen := now }) := by
    rw [findUser?_put, found]
    rfl
  exact mapM_eq_ok_some.mpr ⟨_, put, UserRow.decode_ofUser _⟩

end Database

theorem Effect.keepsAccount {fresh : Fresh} {before after : Database} {job : Job}
    {answer : Option (Except StoreError job.Result)} {id : Uuid} {row : UserRow}
    (effect : Effect fresh before job answer after) (formed : before.WellFormed)
    (kept : before.KeepsAccount id row) : after.KeepsAccount id row := by
  obtain ⟨seen, found⟩ := kept
  have frame := effect.frame
  cases effect with
  | read | abandoned | refused | declined => exact ⟨seen, found⟩
  | userCreated input after inserted =>
      have grows : before.Extends .participants after := .insertUser formed inserted
      obtain ⟨later, foundAfter⟩ := grows.users found
      exact ⟨later, foundAfter⟩
  | seenSwapped user expected new =>
      have grows : before.Extends .participants _ :=
        .swapLastSeen formed user.text expected.second new
      obtain ⟨later, foundAfter⟩ := grows.users found
      exact ⟨later, foundAfter⟩
  | _ =>
      refine ⟨seen, Eq.trans ?_ found⟩
      exact congrArg (List.find? _) (frame.users fun writes => writes)

/-! ## The swap of a visit -/

/-- A swap that is answered has compared the last visit, and put the new one in
its place or changed nothing. -/
theorem Job.answered_swapLastSeen (fresh : Fresh) {patience : Patience} {before after : Database}
    {id : Uuid} {expected new : Instant} {answer : Except StoreError Swap}
    (kept : before.KeepsSchema)
    (ran : (Job.swapLastSeen id expected new).runWhile fresh patience before =
      (some answer, after)) :
    (answer, after) =
      if GuardedColumn.lastSeen.held before id = some (.integer expected.second) then
        (.ok .applied, GuardedColumn.lastSeen.put id new before)
      else (.ok .stale, before) := by
  have stays : (Job.swapLastSeen id expected new).runWhile fresh none before =
      (some answer, after) := by
    rw [Job.runWhile_single rfl] at ran ⊢
    split at ran
    · cases ran
    · rw [if_neg (by simp)]
      exact ran
  have swapped : GuardedColumn.lastSeen.swap id expected new fresh before = (answer, after) :=
    Job.run_of_runWhile stays
  exact swapped.symm.trans (GuardedColumn.lastSeen.swap_eq kept id expected new fresh)

end Store

namespace Server

variable {config : ServerConfig} {events : List Event} {server : Server} {number : Nat}
  {caller : Identity} {now : Instant} {reply : Except Failure User}

/-! ## The course of a visit -/

/-- How a visit is answered, by what its jobs found. -/
inductive Visit (caller : Identity) (now : Instant) : List Receipt → Except Failure User → Prop
  /-- There is no such user at the reading. -/
  | unknown {read : Receipt} (reads : read.job = .getUser caller.subject)
      (readOnly : read.after = read.before)
      (absent : read.before.findUser? caller.subject.text = none) :
      Visit caller now [read] (.error (.notFound .user caller.subject))
  /-- The last visit is no longer the one that was read. -/
  | overtaken {read swap : Receipt} {user : User} (reads : read.job = .getUser caller.subject)
      (readOnly : read.after = read.before)
      (account : read.before.findUser? caller.subject.text = some (.ofUser user))
      (swaps : swap.job = .swapLastSeen caller.subject user.lastSeen now.toSecond)
      (moved : GuardedColumn.lastSeen.held swap.before caller.subject ≠
        GuardedColumn.lastSeen.held read.before caller.subject)
      (refused : swap.after = swap.before) :
      Visit caller now [read, swap] (.error (.conflict .lastSeen))
  /-- The last visit is the one that was read, and the new one is put in its
  place. -/
  | recorded {read swap : Receipt} {user : User} (reads : read.job = .getUser caller.subject)
      (readOnly : read.after = read.before)
      (account : read.before.findUser? caller.subject.text = some (.ofUser user))
      (swaps : swap.job = .swapLastSeen caller.subject user.lastSeen now.toSecond)
      (same : GuardedColumn.lastSeen.held swap.before caller.subject =
        GuardedColumn.lastSeen.held read.before caller.subject)
      (kept : swap.before.KeepsAccount caller.subject (.ofUser user))
      (put : swap.after = GuardedColumn.lastSeen.put caller.subject now swap.before) :
      Visit caller now [read, swap] (.ok { user with lastSeen := now.toSecond })

/-- The jobs of a call after its first one come later in the run too. -/
theorem exists_split_of_own {read : Receipt} {rest : List Receipt}
    (own : server.receiptsOf number = read :: rest) :
    ∃ earlier later, server.receipts = earlier ++ read :: later ∧
      ∀ other ∈ rest, other ∈ later := by
  obtain ⟨earlier, later, split, -, -, rfl⟩ := List.filter_eq_cons_iff.mp own
  exact ⟨earlier, later, split, fun other member => (List.mem_filter.mp member).1⟩

/-- The account that was read is still there at all later jobs, but for its last
visit. -/
theorem keepsAccount_since (ran : run config (opening .empty) events = some server)
    {read : Receipt} {rest : List Receipt} {row : UserRow} {id : Uuid}
    (own : server.receiptsOf number = read :: rest) (readOnly : read.after = read.before)
    (account : read.before.findUser? id.text = some row) :
    ∀ other ∈ rest, other.before.KeepsAccount id row := by
  intro other member
  obtain ⟨earlier, later, split, inLater⟩ := exists_split_of_own own
  have formed := (kept_throughout Effect.wellFormed ran .empty).1 read (mem_receipts_of_own own)
  have holds : read.after.WellFormed ∧ read.after.KeepsAccount id row := by
    rw [readOnly]
    exact ⟨formed, row.lastSeen, account⟩
  have kept := kept_since (motive := fun database =>
      database.WellFormed ∧ database.KeepsAccount id row)
    (fun effect before => ⟨effect.wellFormed before.1, effect.keepsAccount before.1 before.2⟩)
    ran split holds
  exact (kept.1 other (inLater other member)).2

/-- What is left of a visit once the account has been read. -/
theorem visit_of_account (ran : run config (opening .empty) events = some server)
    {read : Receipt} {rest : List Receipt} {user : User} {later : List Exchange}
    (own : server.receiptsOf number = read :: rest) (reads : read.job = .getUser caller.subject)
    (readOnly : read.after = read.before)
    (account : read.before.findUser? caller.subject.text = some (.ofUser user))
    (named : user.userId = caller.subject)
    (leads : (Presence.record user now).Leads later (.done reply))
    (recorded : Recorded events number rest later) : Visit caller now (read :: rest) reply := by
  have kept := keepsAccount_since ran own readOnly account
  have seen : GuardedColumn.lastSeen.held read.before caller.subject =
      some (.integer user.lastSeen.second) :=
    congrArg (Option.map UserRow.lastSeen) account
  have compared {number : Nat} {errand : Errand} {fresh : Fresh} {before after : Database}
      {answer : Except StoreError Swap}
      (member : ⟨number, errand, .swapLastSeen user.userId user.lastSeen now.toSecond, fresh,
        some answer, before, after⟩ ∈ rest) :
      (answer, after) =
        if GuardedColumn.lastSeen.held before caller.subject =
            GuardedColumn.lastSeen.held read.before caller.subject then
          (.ok .applied, GuardedColumn.lastSeen.put caller.subject now before)
        else (.ok .stale, before) := by
    have listed := (mem_receiptsOf_iff.mp (own ▸ List.mem_cons_of_mem _ member)).1
    obtain ⟨patience, carried⟩ := (carriedOut ran).ran _ listed
    have schema : before.KeepsSchema := (kept_throughout Effect.keepsSchema ran .empty).1 _ listed
    rw [seen, ← named]
    exact Job.answered_swapLastSeen fresh schema carried
  rcases Call.Leads.of_go leads with ⟨-, through⟩ | ⟨error, rfl, -⟩ | ⟨swapped, last, rfl, came⟩
  · cases (through : Call.done reply = .ask _ _)
  all_goals
    obtain ⟨_, _, fresh, before, after, none, rfl, ended⟩ := recorded.of_store
    have outcome := compared List.mem_cons_self
    split at outcome
  · cases (Prod.mk.inj outcome).1
  · cases (Prod.mk.inj outcome).1
  · rename_i same
    obtain ⟨applied, put⟩ := Prod.mk.inj outcome
    obtain rfl : swapped = .applied := Except.ok.inj applied
    obtain ⟨rfl, answered⟩ := Call.leads_done_iff.mp came
    obtain rfl := Call.done.inj answered
    obtain rfl := ended.own_eq_nil
    exact .recorded reads readOnly account (congrArg (Job.swapLastSeen · _ _) named) same
      (kept _ List.mem_cons_self) put
  · rename_i moved
    obtain ⟨stale, refused⟩ := Prod.mk.inj outcome
    obtain rfl : swapped = .stale := Except.ok.inj stale
    obtain ⟨rfl, answered⟩ := Call.leads_done_iff.mp came
    obtain rfl := Call.done.inj answered
    obtain rfl := ended.own_eq_nil
    exact .overtaken reads readOnly account (congrArg (Job.swapLastSeen · _ _) named) moved refused

theorem visit_of_leads (ran : run config (opening .empty) events = some server)
    {transcript : List Exchange}
    (leads : (Presence.touchAt caller now : Call (Except Failure User)).Leads transcript
      (.done reply))
    (recorded : Recorded events number (server.receiptsOf number) transcript) :
    Visit caller now (server.receiptsOf number) reply := by
  rw [Presence.touchAt_record] at leads
  rcases Call.Leads.of_go leads with ⟨-, through⟩ | ⟨error, rfl, -⟩ | ⟨found, later, rfl, came⟩
  · cases (through : Call.done reply = .ask _ _)
  all_goals
    obtain ⟨_, _, fresh, before, after, rest, own, recordedOn⟩ := recorded.of_store
    have listed := mem_receipts_of_own own
    have formed : before.WellFormed := (kept_throughout Effect.wellFormed ran .empty).1 _ listed
    obtain ⟨patience, carried⟩ := (carriedOut ran).ran _ listed
    obtain ⟨answered, readOnly⟩ := Job.of_read rfl carried
  · obtain ⟨found, looked⟩ := formed.exists_getUser
    cases answered.trans looked
  · rw [own]
    cases found with
    | none =>
        obtain ⟨rfl, ended⟩ := Call.leads_done_iff.mp came
        obtain rfl := Call.done.inj ended
        obtain rfl := recordedOn.own_eq_nil
        exact .unknown rfl readOnly (mapM_eq_ok_none.mp answered.symm)
    | some user =>
        have account := formed.findUser?_of_getUser answered.symm
        have named := (formed.of_getUser answered.symm).1
        exact visit_of_account ran own rfl readOnly account named came recordedOn

/-! ## What a visit answers -/

/-- What a visit at some moment answers and leaves behind, by its jobs. -/
structure VisitAnswered (caller : Identity) (now : Instant) (own : List Receipt)
    (reply : Except Failure User) : Prop where
  answers : (∃ user, reply = .ok user) ∨ reply = .error (.notFound .user caller.subject) ∨
    reply = .error (.conflict .lastSeen)
  unknown : reply = .error (.notFound .user caller.subject) ↔
    ∃ read ∈ own, read.job = .getUser caller.subject ∧
      read.before.findUser? caller.subject.text = none
  overtaken : reply = .error (.conflict .lastSeen) ↔
    ∃ read swap expected, own = [read, swap] ∧ read.job = .getUser caller.subject ∧
      swap.job = .swapLastSeen caller.subject expected now.toSecond ∧
      GuardedColumn.lastSeen.held swap.before caller.subject ≠
        GuardedColumn.lastSeen.held read.before caller.subject
  failed : ∀ error, reply = .error error → Unchanged own
  /-- Only the last visit is changed, and whoever looks directly after sees the
  account that was answered, but within a leap second the second before it. -/
  recorded : ∀ user, reply = .ok user → user.lastSeen = now.toSecond ∧
    ∃ read swap, own = [read, swap] ∧ read.after = read.before ∧
      swap.after = GuardedColumn.lastSeen.put caller.subject now swap.before ∧
      (∀ given rest, Call.alone (Presence.me caller) (given :: rest) swap.after =
        some (.ok { user with lastSeen := now.wholeSecond }, swap.after)) ∧
      ({ user with lastSeen := now.wholeSecond } = user ↔ now.nanosecond < 1000000000)

/-- Whoever looks up the account after the swap sees the new visit to its whole
second. -/
theorem me_alone_put {database : Database} {user : User}
    (kept : database.KeepsAccount caller.subject (.ofUser user)) (given : Given)
    (rest : List Given) :
    Call.alone (Presence.me caller) (given :: rest)
        (GuardedColumn.lastSeen.put caller.subject now database) =
      some (.ok { user with lastSeen := now.wholeSecond },
        GuardedColumn.lastSeen.put caller.subject now database) := by
  rw [Presence.me_shape]
  exact Attempt.look_alone_ok rfl (kept.getUser_put now) rfl

/-- A visit that comes to its swap has found its user. -/
theorem found_of_swap {read swap : Receipt} {user : User} {expected new : Instant}
    (account : read.before.findUser? caller.subject.text = some (.ofUser user))
    (swaps : swap.job = .swapLastSeen caller.subject expected new) :
    ¬∃ other ∈ [read, swap], other.job = .getUser caller.subject ∧
      other.before.findUser? caller.subject.text = none := by
  rintro ⟨other, member, reads, absent⟩
  rcases List.mem_pair.mp member with rfl | rfl
  · cases account.symm.trans absent
  · cases swaps.symm.trans reads

theorem Visit.answered {own : List Receipt} (visit : Visit caller now own reply) :
    VisitAnswered caller now own reply := by
  cases visit with
  | @unknown read reads readOnly absent =>
      exact
        { answers := .inr (.inl rfl)
          unknown := iff_of_true rfl ⟨read, List.mem_cons_self, reads, absent⟩
          overtaken := iff_of_false (by simp) (by simp)
          failed := fun _ _ => Unchanged.nil.concat readOnly
          recorded := by simp }
  | @overtaken read swap user reads readOnly account swaps moved refused =>
      exact
        { answers := .inr (.inr rfl)
          unknown := iff_of_false (by simp) (found_of_swap account swaps)
          overtaken := iff_of_true rfl ⟨read, swap, _, rfl, reads, swaps, moved⟩
          failed := fun _ _ => (Unchanged.nil.concat readOnly).concat refused
          recorded := by simp }
  | @recorded read swap user reads readOnly account swaps same kept put =>
      refine
        { answers := .inl ⟨_, rfl⟩
          unknown := iff_of_false (by simp) (found_of_swap account swaps)
          overtaken := iff_of_false (by simp) ?_
          failed := by simp
          recorded := ?_ }
      · rintro ⟨_, _, _, two, -, -, moved⟩
        obtain ⟨rfl, rest⟩ := List.cons.inj two
        obtain rfl := List.singleton_inj.mp rest
        exact moved same
      · rintro _ ⟨⟩
        refine ⟨rfl, read, swap, rfl, readOnly, put, fun given rest => ?_, ?_⟩
        · rw [put]
          exact me_alone_put kept given rest
        · rw [User.mk.injEq, ← now.wholeSecond_eq_toSecond_iff]
          simp

/-- In every run, a visit that is through has been answered by what its two jobs
found, whatever other jobs came before, between and after them. -/
theorem visits_answered (ran : run config (opening .empty) events = some server)
    (through : server.slots number =
      some ⟨.operation (.touchAt caller now), .going (.done reply)⟩) :
    VisitAnswered caller now (server.receiptsOf number) reply := by
  obtain ⟨transcript, leads, recorded⟩ := leads_of_going ran through
  exact (visit_of_leads ran leads recorded).answered

/-- What a visit that is through has been asked for, and its answer. -/
def visitAnswer? (server : Server) (number : Nat) :
    Option (Identity × Instant × Except Failure User) :=
  match server.slots number with
  | some ⟨.operation (.touchAt caller now), .going (.done reply)⟩ => some (caller, now, reply)
  | _ => none

theorem slots_of_visitAnswer (answered : server.visitAnswer? number = some (caller, now, reply)) :
    server.slots number = some ⟨.operation (.touchAt caller now), .going (.done reply)⟩ := by
  rw [visitAnswer?] at answered
  split at answered
  · cases answered
    assumption
  · cases answered

end Server

/-!
## A visit within a leap second

The rider visits twice at once.  Both visits have read the account when the one
within the leap second is recorded, so the other one comes too late.
-/

namespace Sample

def leapVisits : List Server.Event :=
  opened ++
  .arrive 5 (.operation (.touchAt rider newYear)) :: serve 5 0 0 2 ++
  .arrive 6 (.operation (.touchAt rider leapMoment)) :: serve 6 0 0 2 ++
    serve 6 0 0 4 ++ serve 5 0 0 4

/-- The account as the visit within the leap second shows it. -/
def leapVisitor : User :=
  ⟨uuid 1, "rider@example", "", none, none, leapMoment.toSecond⟩

end Sample

namespace Server

theorem leapVisits_through :
    ∃ server, run Sample.config (opening .empty) Sample.leapVisits = some server ∧
      server.visitAnswer? 5 = some (Sample.rider, Sample.newYear, .error (.conflict .lastSeen)) ∧
      server.visitAnswer? 6 = some (Sample.rider, Sample.leapMoment, .ok Sample.leapVisitor) := by
  obtain ⟨server, ran, answers⟩ := Option.map_eq_some_iff.mp
    (by decide +kernel : (run Sample.config (opening .empty) Sample.leapVisits).map (fun server =>
        decide (server.visitAnswer? 5 =
            some (Sample.rider, Sample.newYear, .error (.conflict .lastSeen)) ∧
          server.visitAnswer? 6 = some (Sample.rider, Sample.leapMoment, .ok Sample.leapVisitor))) =
      some true)
  exact ⟨server, ran, of_decide_eq_true answers⟩

theorem leapVisits_answered :
    ∃ server, run Sample.config (opening .empty) Sample.leapVisits = some server ∧
      VisitAnswered Sample.rider Sample.newYear (server.receiptsOf 5)
        (.error (.conflict .lastSeen)) ∧
      VisitAnswered Sample.rider Sample.leapMoment (server.receiptsOf 6)
        (.ok Sample.leapVisitor) := by
  obtain ⟨server, ran, late, early⟩ := leapVisits_through
  exact ⟨server, ran, visits_answered ran (slots_of_visitAnswer late),
    visits_answered ran (slots_of_visitAnswer early)⟩

/-- The account that the visit within the leap second answers is not the one
that whoever looks directly after its swap is shown. -/
theorem leapVisit_shown_otherwise :
    ∃ server read swap, run Sample.config (opening .empty) Sample.leapVisits = some server ∧
      server.slots 6 = some ⟨.operation (.touchAt Sample.rider Sample.leapMoment),
        .going (.done (.ok Sample.leapVisitor))⟩ ∧
      server.receiptsOf 6 = [read, swap] ∧
      ∀ given rest, Call.alone (Presence.me Sample.rider) (given :: rest) swap.after ≠
        some (.ok Sample.leapVisitor, swap.after) := by
  obtain ⟨server, ran, -, early⟩ := leapVisits_through
  have through := slots_of_visitAnswer early
  obtain ⟨transcript, leads, recorded⟩ := leads_of_going ran through
  have answered := (visit_of_leads ran leads recorded).answered
  obtain ⟨-, read, swap, own, -, -, shown, same⟩ := answered.recorded _ rfl
  refine ⟨server, read, swap, ran, through, own, fun given rest otherwise => ?_⟩
  have sameAccount := (shown given rest).symm.trans otherwise
  have early := same.mp (Except.ok.inj (Prod.mk.inj (Option.some.inj sameAccount)).1)
  exact absurd early (by decide)

end Server

end Carpool
