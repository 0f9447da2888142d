import Carpool.Service.Matching

/-!
# Presence

Users see their own account and record when they were last seen.
-/

namespace Carpool

namespace Presence

def me (caller : Identity) : Attempt Failure User := do
  let found ← Matching.ask (.getUser caller.subject)
  Matching.require .user caller.subject found

/-- Record that the caller was seen at a time.  It fails when another visit was
recorded since the account was read. -/
def touchAt (caller : Identity) (now : Instant) : Attempt Failure User := do
  let user ← me caller
  let seen := now.toSecond
  let swap ←
    Matching.ask (.swapLastSeen user.userId user.lastSeen seen)
  match swap with
  | .applied => pure { user with lastSeen := seen }
  | .stale => throw (.conflict .lastSeen)

def touch (caller : Identity) : Attempt Failure User := do
  let now ← Attempt.clock
  touchAt caller now

end Presence

end Carpool
