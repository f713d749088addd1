import RecordFarm.Element
/-!
# Putting servers together

A server that was written for a small world also works in a larger one that holds it
(`Lens`, `Service.within`). Two servers of the same calls make one whose state is the state of
either (`Service.either`). Both keep what the parts do, step by step.
-/

namespace RecordFarm

/-- Where a smaller world lies in a larger one. -/
structure Lens (Ω ω : Type) where
  get : Ω → ω
  set : Ω → ω → Ω

inductive EitherTask (κ τ υ : Type) where
  | begin (call : κ)
  | left (rest : τ)
  | right (rest : υ)

variable {Ω ω κ σ τ α σ' τ' : Type}

namespace Service

/-- The same server in a larger world. -/
def within (A : Service ω κ σ τ α) (l : Lens Ω ω) : Service Ω κ σ τ α where
  start := A.start
  step task s w :=
    let (progress, s, inner) := A.step task s (l.get w)
    (progress, s, l.set w inner)

def leftStep (A : Service ω κ σ τ α) (task : τ) (s : σ) (w : ω) :
    Progress (EitherTask κ τ τ') α × (σ ⊕ σ') × ω :=
  let (progress, s, w) := A.step task s w
  (progress.mapTask .left, .inl s, w)

def rightStep (B : Service ω κ σ' τ' α) (task : τ') (s : σ') (w : ω) :
    Progress (EitherTask κ τ τ') α × (σ ⊕ σ') × ω :=
  let (progress, s, w) := B.step task s w
  (progress.mapTask .right, .inr s, w)

/-- One server for the states of two. A task of the one server means nothing to the other. -/
def either (A : Service ω κ σ τ α) (B : Service ω κ σ' τ' α) :
    Service ω κ (σ ⊕ σ') (EitherTask κ τ τ') α where
  start := .begin
  step
    | .begin call, .inl s, w => A.leftStep (A.start call) s w
    | .begin call, .inr s, w => B.rightStep (B.start call) s w
    | .left task, .inl s, w => A.leftStep task s w
    | .right task, .inr s, w => B.rightStep task s w
    | _, s, w => (.panicked, s, w)

end Service

namespace Source

def within (A : Source ω σ τ) (l : Lens Ω ω) : Source Ω σ τ :=
  { A.toService.within l with connector? := A.connector? }

def either (A : Source ω σ τ) (B : Source ω σ' τ') :
    Source ω (σ ⊕ σ') (EitherTask SourceCall τ τ') :=
  { A.toService.either B.toService with
    connector? := Sum.elim A.connector? B.connector? }

end Source

namespace Sink

def within (A : Sink ω σ τ) (l : Lens Ω ω) : Sink Ω σ τ :=
  { A.toService.within l with
    connector? := A.connector?
    wantsInput := fun s w =>
      let (wants, s, inner) := A.wantsInput s (l.get w)
      (wants, s, l.set w inner)
    isDrained := fun s w => A.isDrained s (l.get w) }

def either (A : Sink ω σ τ) (B : Sink ω σ' τ') : Sink ω (σ ⊕ σ') (EitherTask SinkCall τ τ') :=
  { A.toService.either B.toService with
    connector? := Sum.elim A.connector? B.connector?
    wantsInput := fun
      | .inl s, w => let (wants, s, w) := A.wantsInput s w; (wants, .inl s, w)
      | .inr s, w => let (wants, s, w) := B.wantsInput s w; (wants, .inr s, w)
    isDrained := Sum.elim A.isDrained B.isDrained }

end Sink

namespace Strategy

def within (A : Strategy ω σ τ) (l : Lens Ω ω) : Strategy Ω σ τ :=
  { A.toService.within l with
    name := A.name
    connector? := A.connector? }

def either (A : Strategy ω σ τ) (B : Strategy ω σ' τ') :
    Strategy ω (σ ⊕ σ') (EitherTask HookCall τ τ') :=
  { A.toService.either B.toService with
    name := Sum.elim A.name B.name
    connector? := Sum.elim A.connector? B.connector? }

end Strategy

end RecordFarm
