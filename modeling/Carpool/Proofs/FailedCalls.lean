import Carpool.Proofs.Server.Caution

/-!
# Failed calls

A call that comes to an end without success has changed nothing, whatever made it
fail and whatever other calls did in the meantime; and a call that only looks
things up changes nothing in any case.
-/

namespace Carpool

open Store

namespace Server

variable {config : ServerConfig} {server : Server}

/-- A call is through, and has not been answered with success. -/
def hasFailed (server : Server) (number : Nat) : Bool :=
  match server.slots number with
  | some ⟨errand, .going (.done reply)⟩ => errand.fails reply
  | _ => false

/-- What failed calls and calls that only look things up leave behind. -/
structure FailuresLeaveNothing (server : Server) : Prop where
  /-- None of the jobs of a call that failed has changed a row. -/
  failed : ∀ number, server.hasFailed number = true → Unchanged (server.receiptsOf number)
  /-- No job of a call that only looks things up has changed a row, whether or
  not the call is through or anybody still waits for it. -/
  reading : ∀ number slot, server.slots number = some slot → slot.errand.IsRead →
    Unchanged (server.receiptsOf number)

theorem unchanged_of_failed (holds : (caution True config).Holds server) {number : Nat}
    (failed : server.hasFailed number = true) : Unchanged (server.receiptsOf number) := by
  rw [hasFailed] at failed
  split at failed
  · rename_i errand reply found
    obtain ⟨-, ⟨unchanged, -⟩ | concludes⟩ := holds.going found
    · exact unchanged
    · have succeeded : errand.fails reply = false := concludes trivial
      rw [succeeded] at failed
      cases failed
  · cases failed

/-- In every run from the empty store, in which the clock leaves time enough,
failures and lookups change nothing. -/
theorem failures_leave_nothing {events : List Event}
    (timely : ∀ event ∈ events, event.Timely config)
    (ran : run config (opening .empty) events = some server) : server.FailuresLeaveNothing := by
  have holds : (caution True config).Holds server := by
    refine (caution_lawful True config).holds (fun _ => .empty) ?_ ran
    exact fun event member _ => timely event member
  exact ⟨fun number failed => unchanged_of_failed holds failed,
    fun number slot found reads => (holds.tells found).1 reads⟩

end Server

namespace Sample

/-- Both others find the request active.  The one who comes later with the
acceptance inserts an offer and a match too, before it turns out that it is too
late. -/
def contested : List Server.Event :=
  opened ++ .arrive 5 (.operation (.acceptRideRequest driver (uuid 4))) :: serve 5 0 0 2 ++
    .arrive 6 (.operation (.acceptRideRequest rival (uuid 4))) :: serve 6 0 0 2 ++
    serve 6 5 6 9 ++ serve 5 7 8 7

end Sample

namespace Server

theorem lost_race_leaves_nothing :
    ∃ server, run Sample.config (opening .empty) Sample.contested = some server ∧
      server.hasFailed 5 = true ∧ (server.receiptsOf 5).length = 2 ∧
      server.FailuresLeaveNothing := by
  have lost : ((run Sample.config (opening .empty) Sample.contested).map fun server =>
      (server.hasFailed 5, (server.receiptsOf 5).length)) = some (true, 2) := by
    decide +kernel
  obtain ⟨server, ran, found⟩ := Option.map_eq_some_iff.mp lost
  obtain ⟨failed, asked⟩ := Prod.mk.inj found
  refine ⟨server, ran, failed, asked, failures_leave_nothing ?_ ran⟩
  decide +kernel

end Server

end Carpool
