import RecordFarm.Service
/-!
# Servers that take their identity from a caller

A peer speaks under an identity. It may have been given one. If it was not, it goes by that of
whoever calls it, until somebody connects it: from then on it keeps the identity that it had in this
call, whoever makes the others.
-/

namespace RecordFarm

/-- A call, and the identity of the thread that makes it. -/
structure By (κ : Type) where
  caller : ClientId
  call : κ
  deriving DecidableEq, Repr

/-- A server whose identity may not be fixed yet. -/
structure Adopting (σ : Type) where
  fixed : Option ClientId := none
  server : σ
  deriving DecidableEq, Repr

variable {ω κ σ τ α : Type}

/-- The identity that it goes by when this caller speaks to it. -/
def Adopting.identity (s : Adopting σ) (caller : ClientId) : ClientId := s.fixed.getD caller

/-- The server that acts under the fixed identity, or under its caller's. The calls that connect it
fix the identity. -/
def Service.adopting (A : Service ω κ σ τ α) (connects : κ → Bool) (named : ClientId → σ → σ) :
    Service ω (By κ) (Adopting σ) (By κ × τ) α where
  start asked := (asked, A.start asked.call)
  step := fun (asked, task) s w =>
    let id := s.identity asked.caller
    let (progress, server, w) := A.step task (named id s.server) w
    (progress.mapTask fun rest => (asked, rest),
      { fixed := if connects asked.call then some id else s.fixed, server }, w)

end RecordFarm
