import RecordFarm.Network
import RecordFarm.Service
/-!
# Waiting for a socket

Using a socket is an attempt, which may have to wait. Here attempts become calls: one that waits
until the socket can be used, one that waits for an address to be bound, and one that waits until
what was pushed has been taken.
-/

namespace RecordFarm

namespace Attempt

variable {τ α : Type}

/-- The attempt as a step of a call: it answers the call, or the call has to wait, up to a moment
if there is one. -/
def progress (attempt : Attempt α) (until? : Option Nat) (net : Network) :
    Progress τ α × Network :=
  match attempt with
  | blocked => (.waiting until?, net)
  | failed cause => (.finished (.error cause), net)
  | done result net => (.finished (.ok result), net)

def step (attempt : Network → Attempt α) (_ : Unit) (net : Network) : Progress Unit α × Network :=
  (attempt net).progress none net

/-- One step of a call that waits, up to a moment, for an address to be bound. -/
def stepUntil (attempt : Network → Attempt α) (uri : String) (deadline : Nat) (_ : Unit)
    (net : Network) : Progress Unit α × Network :=
  ((attempt net).orNotBound uri (deadline ≤ net.now)).progress (some deadline) net

end Attempt

/-- One step of a call that waits until what was pushed has been taken, or until nothing was for
too long. The answer is how much is left. -/
def PushSocket.lingerStep (socket : PushSocket) (patience : Nat) (l : PushSocket.Lingering)
    (net : Network) : Progress PushSocket.Lingering Nat × Network :=
  match l.next? socket patience net with
  | none => (.finished (.ok (socket.queued net)), net)
  | some next => (if next = l then .waiting (some l.deadline) else .working next, net)

end RecordFarm
