import RecordFarm.Connection
import RecordFarm.Crew
/-!
# Handles

Who starts a thread keeps a handle of it: to know its name, to ask it to exit once, and to join it.
-/

namespace RecordFarm

/-- What is kept of a thread that was started. -/
structure Handle where
  /-- The number of the thread in its crew. -/
  thread : Nat
  name : String
  /-- How the element can be asked to exit, as long as it was not. -/
  connector? : Option Connector
  deriving DecidableEq, Repr

variable {ω σ τ : Type}

def Crew.launch (S : Strategy ω σ τ) (crew : Crew ω σ τ) (strategy : σ) :
    Handle × Crew ω σ τ :=
  ({ thread := crew.threads.length
     name := S.name strategy
     connector? := S.connector? strategy },
    crew.spawn strategy)

namespace Handle

/-- Begins to ask the element to exit. Nothing is asked of an element that is stopping already, that
was asked before, or that nobody can reach. -/
def requestExit (h : Handle) (crew : Crew ω σ τ) : Option Asking × Handle :=
  match h.connector?, (crew.threads[h.thread]?).any fun thread => thread.lifecycle.isLive with
  | some connector, true => (some (.start connector .exitRequest), { h with connector? := none })
  | _, _ => (none, h)

def lifecycle? (h : Handle) (crew : Crew ω σ τ) : Option Lifecycle :=
  crew.threads[h.thread]?.map Element.lifecycle

def result? (h : Handle) (crew : Crew ω σ τ) : Option (Except Error Stats) :=
  (crew.outcome? h.thread).map fun outcome => outcome.join h.name

end Handle

end RecordFarm
