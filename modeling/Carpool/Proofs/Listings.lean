import Carpool.Proofs.RowCodec
import Carpool.Proofs.Server.Visible
import Carpool.Proofs.Store.Constraints
import Carpool.Proofs.Store.Unchanged

/-!
# Listings

While the clock shows years of four digits, every listing of matches succeeds.
It answers each stored match that it is about once, as a lookup answers it, and
the latest first.  What a user takes part in is what the user rides in together
with what the user drives.
-/

namespace Carpool

open Store

namespace Store

/-! ## Reading rows -/

theorem mapM_map_eq_ok {ε α β ρ : Type} {encode : α → ρ} {decode : ρ → Except ε β} {value : α → β}
    {records : List α} (decoded : ∀ record ∈ records, decode (encode record) = .ok (value record)) :
    (records.map encode).mapM decode = .ok (records.map value) := by
  induction records with
  | nil => rfl
  | cons record records ih =>
      obtain ⟨first, rest⟩ := List.forall_mem_cons.mp decoded
      rw [List.map_cons, List.mapM_cons, first, ih rest]
      rfl

theorem decodeMatches_map {records : List Match}
    (storable : ∀ record ∈ records, record.createdAt.IsStorable) :
    decodeMatches (records.map MatchRow.ofMatch) = .ok records := by
  have readable : (records.map MatchRow.ofMatch).mapM MatchRow.readable =
      .ok (records.map fun record => record.matchId.text) :=
    mapM_map_eq_ok fun _ _ => rfl
  have decoded : (records.map MatchRow.ofMatch).mapM MatchRow.decode = .ok (records.map id) :=
    mapM_map_eq_ok fun record member => MatchRow.decode_of_storable (storable record member)
  rw [decodeMatches, readable, ok_bind, decoded, List.map_id]

/-! ## The latest first -/

/-- Of two matches the one listed first was not made before the other. -/
def LatestFirst (records : List Match) : Prop :=
  records.Pairwise fun first second => first.createdAt.isBefore second.createdAt = false

/-- Records in the order in which their rows are listed. -/
def sorted (records : List Match) : List Match :=
  records.mergeSort fun first second => Database.notEarlier (.ofMatch first) (.ofMatch second)

theorem map_sorted (records : List Match) :
    (sorted records).map MatchRow.ofMatch =
      (records.map MatchRow.ofMatch).mergeSort Database.notEarlier :=
  List.map_mergeSort fun _ _ _ _ => rfl

theorem sorted_perm (records : List Match) : (sorted records).Perm records :=
  List.mergeSort_perm records _

theorem notEarlier_iff {first second : MatchRow} :
    Database.notEarlier first second = true ↔
      ¬first.createdAt.toList < second.createdAt.toList := by
  rw [Database.notEarlier, Bool.not_eq_true', decide_eq_false_iff_not]

/-- Texts of times are compared, which for times that can be stored compares the
times. -/
theorem latestFirst_sorted {records : List Match}
    (storable : ∀ record ∈ records, record.createdAt.IsStorable) :
    LatestFirst (sorted records) := by
  have inOrder : (sorted records).Pairwise fun first second =>
      Database.notEarlier (.ofMatch first) (.ofMatch second) = true := by
    refine List.pairwise_mergeSort (fun first second third => ?_) (fun first second => ?_) records
    · simp only [notEarlier_iff]
      intro firstLater secondLater
      exact List.not_lt.mpr
        (List.le_trans (List.not_lt.mp secondLater) (List.not_lt.mp firstLater))
    · simp only [Bool.or_eq_true, notEarlier_iff]
      exact (List.le_total _ _).imp List.not_lt.mpr List.not_lt.mpr
  refine inOrder.imp_of_mem fun {first second} firstMember secondMember later => ?_
  have firstStorable := storable first ((sorted_perm records).mem_iff.mp firstMember)
  have secondStorable := storable second ((sorted_perm records).mem_iff.mp secondMember)
  have notBefore : ¬first.createdAt.storedChars < second.createdAt.storedChars := by
    rw [notEarlier_iff] at later
    simpa only [MatchRow.ofMatch, Instant.storedText, String.toList_ofList] using later
  rw [Instant.storedChars_lt_iff firstStorable.1 secondStorable.1, firstStorable.toMicrosecond_eq,
    secondStorable.toMicrosecond_eq] at notBefore
  exact eq_false_of_ne_true notBefore

/-- A listing answers some of the stored records, each of them once, and the
latest first. -/
structure Lists (listed chosen : List Match) : Prop where
  same : listed.Perm chosen
  latestFirst : LatestFirst listed

theorem lists_sorted {records chosen : List Match} (same : records.Perm chosen)
    (storable : ∀ record ∈ chosen, record.createdAt.IsStorable) :
    Lists (sorted records) chosen where
  same := (sorted_perm records).trans same
  latestFirst := latestFirst_sorted fun record member => storable record (same.mem_iff.mp member)

/-! ## Stored records -/

/-- Whoever asks for the job is answered this, and the job changes nothing. -/
def Job.Answers (job : Job) (database : Database) (result : job.Result) : Prop :=
  ∀ fresh patience, job.runWhile fresh patience database = (some (.ok result), database)

/-- These are the records of all rows of matches, and they are looked up under
their identifiers, which are all different. -/
structure Database.Stores (database : Database) (stored : List Match) : Prop where
  rows : database.matchRows = stored.map MatchRow.ofMatch
  distinct : (stored.map Match.matchId).Nodup
  lookedUp : ∀ record ∈ stored, (Job.getMatch record.matchId).Answers database (some record)

/-- What the three listings answer about an identifier, out of all stored
matches. -/
structure Database.Listings (database : Database) (stored : List Match) (key : Uuid)
    (byRide byRider forUser : List Match) : Prop where
  answersByRide : (Job.listMatchesByRide key).Answers database byRide
  answersByRider : (Job.listMatchesByRider key).Answers database byRider
  answersForUser : (Job.listMatchesForUser key).Answers database forUser
  onRide : Lists byRide (stored.filter fun record => record.rideId == key)
  riding : Lists byRider (stored.filter fun record => record.riderId == key)
  involving : Lists forUser (stored.filter fun record => record.involves key)
  /-- A user takes part in what the user rides in and in what the user drives,
  and nothing is both. -/
  together : forUser.Perm (byRider ++ stored.filter fun record => record.driverId == key)
  apart : ∀ record ∈ byRider, record.driverId ≠ key

theorem Job.answers_of_read {job : Job} {database : Database} {result : job.Result}
    {look : Database → Except StoreError job.Result}
    (planned : ∀ fresh, job.plan fresh = .read look) (looked : look database = .ok result) :
    job.Answers database result := by
  intro fresh patience
  rw [Job.runWhile_read (planned fresh), looked]

namespace Database

variable {database : Database} {stored : List Match}

/-- Matches that can be read are the rows of records that can be stored as they
are. -/
theorem ReadableMatches.exists_records (readable : database.ReadableMatches) :
    ∃ stored : List Match, database.matchRows = stored.map MatchRow.ofMatch ∧
      ∀ record ∈ stored, record.createdAt.IsStorable := by
  have each : ∀ row ∈ database.matchRows, ∃ record : Match,
      row = .ofMatch record ∧ record.createdAt.IsStorable := by
    intro row member
    obtain ⟨record, rfl, year⟩ := readable row member
    refine ⟨{ record with createdAt := record.createdAt.toMicrosecond }, ?_, ?_, ?_⟩
    · simp only [MatchRow.ofMatch, Instant.storedText_toMicrosecond]
    · exact hasFourDigitYear_toMicrosecond year
    · simp only [Instant.toMicrosecond, Instant.truncate]
      omega
  generalize database.matchRows = rows at each
  induction rows with
  | nil => exact ⟨[], rfl, by simp⟩
  | cons row rows ih =>
      obtain ⟨⟨record, rfl, storable⟩, rest⟩ := List.forall_mem_cons.mp each
      obtain ⟨stored, rfl, allStorable⟩ := ih rest
      exact ⟨record :: stored, rfl, List.forall_mem_cons.mpr ⟨storable, allStorable⟩⟩

theorem WellFormed.stores (formed : database.WellFormed)
    (rows : database.matchRows = stored.map MatchRow.ofMatch)
    (storable : ∀ record ∈ stored, record.createdAt.IsStorable) : database.Stores stored where
  rows := rows
  distinct := by
    have keys := formed.matchDistinct
    rw [rows, List.map_map] at keys
    refine List.Nodup.of_map (fun id => some id.text) ?_
    rw [List.map_map]
    exact keys
  lookedUp record member := by
    have found : database.findMatch? record.matchId.text = some (.ofMatch record) :=
      find?_of_mem formed.matchDistinct (rows ▸ List.mem_map_of_mem member) rfl
    refine Job.answers_of_read (fun _ => rfl) (mapM_eq_ok_some.mpr ?_)
    exact ⟨_, found, MatchRow.decode_of_storable (storable record member)⟩

/-! ## What listings answer -/

theorem filter_rows {test : MatchRow → Bool} {chosen : Match → Bool} {records : List Match}
    (same : ∀ record ∈ records, test (.ofMatch record) = chosen record) :
    (records.map MatchRow.ofMatch).filter test =
      (records.filter chosen).map MatchRow.ofMatch := by
  rw [List.filter_map]
  exact congrArg _ (List.filter_congr same)

/-- Rows that a listing picks are listed as the records of those rows. -/
theorem exists_listed {rows : List MatchRow} {records chosen : List Match}
    (picked : rows = records.map MatchRow.ofMatch) (same : records.Perm chosen)
    (storable : ∀ record ∈ chosen, record.createdAt.IsStorable) :
    ∃ listed, decodeMatches (rows.mergeSort notEarlier) = .ok listed ∧ Lists listed chosen := by
  have lists := lists_sorted same storable
  refine ⟨_, ?_, lists⟩
  rw [picked, ← map_sorted, decodeMatches_map]
  exact fun record member => storable record (lists.same.mem_iff.mp member)

/-- Who drives in a match does not ride in it. -/
theorem drives_only {record : Match} (apart : record.riderId ≠ record.driverId) (key : Uuid) :
    (record.driverId == key && !(record.riderId == key)) = (record.driverId == key) := by
  by_cases drives : record.driverId = key
  · have other : record.riderId ≠ key := fun rides => apart (rides.trans drives.symm)
    rw [beq_eq_false_iff_ne.mpr other, Bool.not_false, Bool.and_true]
  · rw [beq_eq_false_iff_ne.mpr drives, Bool.false_and]

/-- So a match involves a user in one role only. -/
theorem involving_perm (stored : List Match) (key : Uuid)
    (apart : ∀ record ∈ stored, record.riderId ≠ record.driverId) :
    (stored.filter (·.riderId == key) ++ stored.filter (·.driverId == key)).Perm
      (stored.filter (·.involves key)) := by
  have parts := List.filter_append_perm (·.riderId == key) (stored.filter (·.involves key))
  rw [List.filter_filter, List.filter_filter] at parts
  have riding : stored.filter (fun record => record.riderId == key && record.involves key) =
      stored.filter (·.riderId == key) :=
    List.filter_congr fun record _ => by simp +contextual [Match.involves]
  have driving : stored.filter (fun record => !(record.riderId == key) && record.involves key) =
      stored.filter (·.driverId == key) := by
    refine List.filter_congr fun record member => ?_
    rw [← drives_only (apart record member), Match.involves]
    cases record.riderId == key <;> simp
  rwa [riding, driving] at parts

theorem exists_listings (rows : database.matchRows = stored.map MatchRow.ofMatch)
    (storable : ∀ record ∈ stored, record.createdAt.IsStorable)
    (apart : ∀ record ∈ stored, record.riderId ≠ record.driverId) (key : Uuid) :
    ∃ byRide byRider forUser, database.Listings stored key byRide byRider forUser := by
  have inText (id : Uuid) : (id.text == key.text) = (id == key) :=
    Bool.eq_iff_iff.mpr (by simp [Uuid.text_inj])
  have chosenStorable (chosen : Match → Bool) :
      ∀ record ∈ stored.filter chosen, record.createdAt.IsStorable :=
    fun record member => storable record (List.mem_filter.mp member).1
  have latestInserted (chosen : Match → Bool) :
      (stored.reverse.filter chosen).Perm (stored.filter chosen) :=
    stored.reverse_perm.filter chosen
  have rideRows : database.matchRows.reverse.filter (·.rideId == key.text) =
      (stored.reverse.filter (·.rideId == key)).map MatchRow.ofMatch := by
    rw [rows, ← List.map_reverse]
    exact filter_rows fun record _ => inText record.rideId
  have riderRows : database.matchRows.reverse.filter (·.riderId == key.text) =
      (stored.reverse.filter (·.riderId == key)).map MatchRow.ofMatch := by
    rw [rows, ← List.map_reverse]
    exact filter_rows fun record _ => inText record.riderId
  have userRows : database.matchRows.filter (·.riderId == key.text) ++
        database.matchRows.filter (fun row => row.driverId == key.text && row.riderId != key.text) =
      (stored.filter (·.riderId == key) ++ stored.filter (·.driverId == key)).map
        MatchRow.ofMatch := by
    rw [rows, List.map_append, filter_rows fun record _ => inText record.riderId]
    refine congrArg _ (filter_rows fun record member => ?_)
    change (record.driverId.text == key.text && !(record.riderId.text == key.text)) = _
    rw [inText, inText, drives_only (apart record member)]
  obtain ⟨byRide, ridesRead, byRideLists⟩ :=
    exists_listed rideRows (latestInserted _) (chosenStorable _)
  obtain ⟨byRider, ridersRead, byRiderLists⟩ :=
    exists_listed riderRows (latestInserted _) (chosenStorable _)
  obtain ⟨forUser, userRead, forUserLists⟩ :=
    exists_listed userRows (involving_perm stored key apart) (chosenStorable _)
  refine ⟨byRide, byRider, forUser, ?_⟩
  exact
    { answersByRide := Job.answers_of_read (fun _ => rfl) ridesRead
      answersByRider := Job.answers_of_read (fun _ => rfl) ridersRead
      answersForUser := Job.answers_of_read (fun _ => rfl) userRead
      onRide := byRideLists
      riding := byRiderLists
      involving := forUserLists
      together := by
        refine forUserLists.same.trans ((involving_perm stored key apart).symm.trans ?_)
        exact byRiderLists.same.symm.append_right _
      apart := by
        intro record member drives
        obtain ⟨isStored, rides⟩ := List.mem_filter.mp (byRiderLists.same.mem_iff.mp member)
        exact apart record isStored ((beq_iff_eq.mp rides).trans drives.symm) }

end Database

end Store

namespace Server

/-! ## Listings in a run -/

variable {config : ServerConfig} {server : Server} {events : List Event}

/-- Whatever a job stores is of a year of four digits. -/
def Event.HasFourDigitYear : Event → Prop
  | .issue _ fresh => fresh.now.HasFourDigitYear
  | _ => True

instance : DecidablePred Event.HasFourDigitYear
  | .issue _ fresh => inferInstanceAs (Decidable (_ ≤ fresh.now.date.year ∧ _))
  | .arrive _ _ | .leave _ | .tell _ _ | .report _ _ | .work => inferInstanceAs (Decidable True)

theorem readableMatches (years : ∀ event ∈ events, event.HasFourDigitYear)
    (ran : run config (opening .empty) events = some server) :
    server.database.ReadableMatches := by
  obtain ⟨extra, last, steps, ranOn, -, settles, -⟩ := exists_settled ran
  rw [← settles]
  refine (carriedOut ranOn).chained.keeps (fun receipt member readable => ?_) .empty
  obtain ⟨earlier, later, split⟩ := List.append_of_mem member
  obtain ⟨-, issued, -⟩ := asked_of_receipts ranOn split
  have issuedBefore : .issue receipt.number receipt.fresh ∈ events := by
    rcases List.mem_append.mp issued with inRun | inExtra
    · exact inRun
    · cases steps _ inExtra
  exact (effect_of_receipts ranOn member).readableMatches (years _ issuedBefore) readable

/-- In every run in which the clock shows years of four digits, all listings
answer what they are about, the latest first. -/
theorem listings_latest_first (years : ∀ event ∈ events, event.HasFourDigitYear)
    (ran : run config (opening .empty) events = some server) :
    ∃ stored, server.database.Stores stored ∧ ∀ key, ∃ byRide byRider forUser,
      server.database.Listings stored key byRide byRider forUser := by
  have formed := (kept_throughout Effect.wellFormed ran .empty).2
  have kept := (kept_throughout Effect.keepsSchema ran .empty).2
  obtain ⟨stored, rows, storable⟩ := (readableMatches years ran).exists_records
  refine ⟨stored, formed.stores rows storable, Database.exists_listings rows storable ?_⟩
  intro record member same
  refine kept.references.apart _ (rows ▸ List.mem_map_of_mem member) ?_
  exact congrArg Uuid.text same

end Server

/-!
## A driver who also rides

Two users ride with the driver, one within a leap second and one right after it,
and before that the driver rode with one of them.
-/

namespace Sample

/-- A job of one statement is issued at some moment and carried out. -/
def serveAt (number created : Nat) (now : Instant) : List Server.Event :=
  .issue number ⟨uuid created, uuid 0, now⟩ :: List.replicate 4 .work

def busyDriver : List Server.Event :=
  opened ++
  .arrive 5 (.job (.createOffer ⟨uuid 2, "A", "B", .zero, moment, 3, .active⟩)) ::
    serveAt 5 5 firstMicrosecond ++
  .arrive 6 (.job (.createMatch ⟨uuid 1, uuid 2, uuid 5, .requested⟩)) :: serveAt 6 6 leapMoment ++
  .arrive 7 (.job (.createMatch ⟨uuid 3, uuid 2, uuid 5, .requested⟩)) :: serveAt 7 7 newYear ++
  .arrive 8 (.job (.createMatch ⟨uuid 2, uuid 3, uuid 5, .completed⟩)) ::
    serveAt 8 8 firstMicrosecond

end Sample

namespace Server

theorem busyDriver_listed :
    ∃ server, run Sample.config (opening .empty) Sample.busyDriver = some server ∧
      server.database.matchRows.length = 3 ∧
      ∃ stored, server.database.Stores stored ∧ ∀ key, ∃ byRide byRider forUser,
        server.database.Listings stored key byRide byRider forUser := by
  have busy : ((run Sample.config (opening .empty) Sample.busyDriver).map fun server =>
      server.database.matchRows.length) = some 3 := by
    decide +kernel
  obtain ⟨server, ran, matched⟩ := Option.map_eq_some_iff.mp busy
  refine ⟨server, ran, matched, listings_latest_first ?_ ran⟩
  decide +kernel

end Server

end Carpool
