import Carpool.Proofs.Linearization.Simulation

/-!
# Calls among each other

Calls on rides that are under way at the same time, question by question in any
order, come out as if each of them had run alone at one of its store jobs, as
long as their callers stay and new records get new identifiers.
-/

namespace Carpool

open Store

namespace System

variable {setup : Setup} {start system final : System} {schedule : List Turn}
  {moments : List Moment} {database : Database} {operations : List Operation}

theorem opening_onRides (onRides : ∀ operation ∈ operations, operation.OnRides) :
    ∀ call ∈ (opening setup database operations).running, call.operation.OnRides := by
  intro call member
  obtain ⟨operation, listed, rfl⟩ := List.mem_map.mp member
  exact onRides operation listed

theorem opening_holds (formed : database.WellFormed) :
    (entitlements setup.policy).Holds (opening setup database operations) where
  formed := formed
  kept call member := by
    obtain ⟨operation, -, rfl⟩ := List.mem_map.mp member
    exact (entitlements_lawful setup).keeps operation formed
  granted entry member := by cases member
  formedBefore entry member := by cases member
  effects entry member := by cases member

theorem Simulates.opening (formed : database.WellFormed)
    (onRides : ∀ operation ∈ operations, operation.OnRides)
    (patient : ∀ turn ∈ schedule, turn.given.patience = none) :
    Simulates setup (opening setup database operations) schedule 0
      (opening setup database operations) [] where
  played := rfl
  distinct := .nil
  inOrder := .nil
  passed moment member := by cases member
  ownTurn moment member := by cases member
  atJob moment member := by cases member
  sequential := by
    refine ⟨_, rfl, rfl, fun place => ?_⟩
    cases begun : (System.opening setup database operations).running[place]? with
    | none => exact .absent (by simp)
    | some call =>
        obtain ⟨operation, listed, rfl⟩ := List.mem_map.mp (List.mem_of_getElem? begun)
        have patientOn : ∀ given ∈ Turn.givens place schedule, given.patience = none := by
          intro given member
          obtain ⟨turn, own, rfl⟩ := List.mem_map.mp member
          exact patient turn (List.mem_filter.mp own).1
        exact .pending (by simp) (fun _ earlier passed => absurd passed (Nat.not_lt_zero earlier))
          (operation_atomic setup (onRides operation listed) _ database formed patientOn)

theorem exists_simulates (formed : database.WellFormed)
    (onRides : ∀ operation ∈ operations, operation.OnRides)
    (patient : ∀ turn ∈ schedule, turn.given.patience = none)
    (played : play setup (opening setup database operations) schedule = some final)
    (fresh : ∀ entry ∈ final.history, entry.job.DrawsUnused entry.fresh entry.before)
    (position : Nat) (bound : position ≤ schedule.length) :
    ∃ system moments, Simulates setup (opening setup database operations) schedule position
      system moments := by
  induction position with
  | zero => exact ⟨_, _, .opening formed onRides patient⟩
  | succ position ih =>
      obtain ⟨system, moments, simulates⟩ := ih (Nat.le_of_succ_le bound)
      have turnAt : schedule[position]? = some schedule[position] := List.getElem?_eq_getElem bound
      obtain ⟨after, playedOn, finishes⟩ := play_take played (position + 1)
      have stepped : System.step setup system schedule[position].event = some after := by
        rw [List.take_add_one, turnAt, play_append, simulates.played, Option.bind_some,
          Option.toList_some, play_cons] at playedOn
        obtain ⟨next, stepped, same⟩ := Option.bind_eq_some_iff.mp playedOn
        obtain rfl := Option.some.inj same
        exact stepped
      have holds := (entitlements_lawful setup).holds_later (opening_holds formed)
        ⟨_, simulates.played⟩
      have past : after.history <+: final.history := Reaches.history_prefix ⟨_, finishes⟩
      obtain ⟨more, simulatesOn⟩ := simulates.step holds (opening_onRides onRides) turnAt
        (patient _ (List.getElem_mem bound)) stepped
        fun entry member => fresh entry (past.subset member)
      exact ⟨after, _, simulatesOn⟩

/-- Once all calls are through, the sequential run has come to the same end. -/
theorem Simulates.linearizes
    (simulates : Simulates setup start schedule schedule.length final moments)
    (finished : ∀ call ∈ final.running, call.Finished) :
    Linearizes setup start schedule final moments := by
  obtain ⟨last, sequential, same, slots⟩ := simulates.sequential
  have ends (place : Nat) : last.running[place]? = final.running[place]? ∧
      (place ∈ moments.map Moment.place ↔ place < start.running.length) := by
    have slot := slots place
    generalize begun : start.running[place]? = beginning at slot
    generalize ended : final.running[place]? = ending at slot ⊢
    generalize last.running[place]? = alone at slot ⊢
    cases slot with
    | absent waiting =>
        exact ⟨rfl, iff_of_false waiting (not_lt.mpr (List.getElem?_eq_none_iff.mp begun))⟩
    | @pending operation whole rest asked waiting unasked pending =>
        obtain ⟨result, rfl⟩ : ∃ result, rest = .done result :=
          finished _ (List.mem_of_getElem? ended)
        exact pending.elim
    | @settled operation whole rest result placed settled =>
        obtain ⟨reply, rfl⟩ : ∃ reply, rest = .done reply :=
          finished _ (List.mem_of_getElem? ended)
        obtain rfl : reply = result := settled
        exact ⟨rfl, iff_of_true placed (List.getElem?_eq_some_iff.mp begun).1⟩
  refine ⟨?_, simulates.inOrder, simulates.ownTurn, ?_, last, sequential, same, ?_⟩
  · refine (List.perm_ext_iff_of_nodup simulates.distinct List.nodup_range).mpr fun place => ?_
    rw [List.mem_range]
    exact (ends place).2
  · intro moment member
    refine (simulates.atJob moment member).imp_right fun ⟨untouched, _⟩ position job => ?_
    obtain ⟨given, -, -, -, -, turned, -⟩ := id job
    exact untouched position (List.getElem?_eq_some_iff.mp turned).1 job
  · exact List.ext_getElem? fun place => (ends place).1

/-- Calls on rides are linearizable. -/
theorem calls_linearizable (reachable : Reachable setup system)
    (onRides : ∀ operation ∈ operations, operation.OnRides)
    (patient : ∀ turn ∈ schedule, turn.given.patience = none)
    (played : play setup (opening setup system.database operations) schedule = some final)
    (finished : ∀ call ∈ final.running, call.Finished)
    (fresh : ∀ entry ∈ final.history, entry.job.DrawsUnused entry.fresh entry.before) :
    ∃ moments, Linearizes setup (opening setup system.database operations) schedule final
      moments := by
  have formed := ((entitlements_lawful setup).holds reachable).formed
  obtain ⟨last, moments, simulates⟩ :=
    exists_simulates formed onRides patient played fresh schedule.length (Nat.le_refl _)
  obtain rfl : final = last := by
    have playedAll := simulates.played
    rw [List.take_length] at playedAll
    exact Option.some.inj (played.symm.trans playedAll)
  exact ⟨moments, simulates.linearizes finished⟩

end System

namespace Sample

def acceptances : List Operation :=
  [.acceptRideRequest driver (uuid 4), .acceptRideRequest rival (uuid 4)]

/-- They read it in turn; the rival is the first to write. -/
def interleaved : List System.Turn :=
  [⟨0, fresh 0 0⟩, ⟨1, fresh 0 0⟩, ⟨1, fresh 5 6⟩, ⟨0, fresh 7 8⟩]

end Sample

namespace System

/-- The race comes out as if one driver had accepted after the other. -/
theorem race_linearizable :
    ∃ system final moments,
      run (Sample.setup .participants) initial Sample.published = some system ∧
      play (Sample.setup .participants)
        (opening (Sample.setup .participants) system.database Sample.acceptances)
        Sample.interleaved =
          some final ∧
      Linearizes (Sample.setup .participants)
        (opening (Sample.setup .participants) system.database Sample.acceptances) Sample.interleaved
        final moments := by
  obtain ⟨system, ran, raced⟩ := Option.map_eq_some_iff.mp
    (by decide +kernel : (run (Sample.setup .participants) initial Sample.published).map
      (fun system =>
        (play (Sample.setup .participants)
          (opening (Sample.setup .participants) system.database Sample.acceptances)
          Sample.interleaved).map fun final =>
            decide ((∀ call ∈ final.running, call.Finished) ∧
              ∀ entry ∈ final.history, entry.job.DrawsUnused entry.fresh entry.before)) =
      some (some true))
  obtain ⟨final, played, checked⟩ := Option.map_eq_some_iff.mp raced
  obtain ⟨finished, fresh⟩ := of_decide_eq_true checked
  obtain ⟨moments, linearizes⟩ := calls_linearizable ⟨Sample.published, ran⟩
    (by simp [Sample.acceptances, Operation.OnRides]) (by simp [Sample.interleaved, Sample.fresh])
    played finished fresh
  exact ⟨system, final, moments, ran, played, linearizes⟩

end System

end Carpool
