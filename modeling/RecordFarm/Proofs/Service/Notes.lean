import RecordFarm.Proofs.Service.Views

/-!
# Servers that write down what they do

A server that takes notes writes into the world which call it was asked and what it answered. It
writes into a list that others may write into as well, so the notes of several servers stand in the
order in which things happened. Seen without its notes it does what it does without taking any
(`Service.noted_shows`, `Sink.noted_shows`).
-/

namespace RecordFarm

variable {ω ξ σ τ α κ υ ε : Type}

inductive Note (ξ α : Type) where
  | asked (call : ξ)
  | answered (call : ξ) (result : Except Error α)

namespace Service

/-- What is still to be written about a call: nothing once its server is busy with it. -/
def due (write : Note ξ α → List ε) (call : ξ) (busy : Bool) : List ε :=
  if busy then [] else write (.asked call)

/-- The server that takes notes. Beside its state it keeps whether it is in the middle of a call. -/
def noted (A : Service ω ξ σ τ α) (write : Note ξ α → List ε) :
    Service (ω × List ε) ξ (σ × Bool) (ξ × τ) α where
  start call := (call, A.start call)
  step := fun (call, task) (s, busy) (w, events) =>
    let events := events ++ due write call busy
    match A.step task s w with
    | (.waiting until?, s, w) => (.waiting until?, (s, true), (w, events))
    | (.working rest, s, w) => (.working (call, rest), (s, true), (w, events))
    | (.finished result, s, w) =>
      (.finished result, (s, false), (w, events ++ write (.answered call result)))
    | (.panicked, s, w) => (.panicked, (s, false), (w, events))

/-- A service that is noted shows the service. -/
theorem noted_shows (A : Service ω ξ σ τ α) (write : Note ξ α → List ε) :
    (A.noted write).Shows A Prod.snd Prod.fst Prod.fst where
  start _ := rfl
  step := by
    rintro ⟨call, task⟩ ⟨s, busy⟩ ⟨w, events⟩
    simp only [noted]
    rcases A.step task s w with ⟨progress, s', w'⟩
    cases progress <;> rfl

/-- What a step on a call comes to if the server takes notes. -/
inductive Noted (write : Note ξ α → List ε) (call : ξ) (busy : Bool) (events : List ε) :
    Progress (ξ × τ) α × (σ × Bool) × (ω × List ε) → Prop where
  | waiting (until? : Option Nat) (s : σ) (w : ω) :
      Noted write call busy events
        (.waiting until?, (s, true), (w, events ++ due write call busy))
  | working (rest : τ) (s : σ) (w : ω) :
      Noted write call busy events
        (.working (call, rest), (s, true), (w, events ++ due write call busy))
  | finished (result : Except Error α) (s : σ) (w : ω) :
      Noted write call busy events
        (.finished result, (s, false),
          (w, events ++ due write call busy ++ write (.answered call result)))
  | panicked (s : σ) (w : ω) :
      Noted write call busy events (.panicked, (s, false), (w, events ++ due write call busy))

theorem noted_step (A : Service ω ξ σ τ α) (write : Note ξ α → List ε) (call : ξ) (task : τ)
    (s : σ × Bool) (w : ω × List ε) :
    Noted write call s.2 w.2 ((A.noted write).step (call, task) s w) := by
  obtain ⟨s, busy⟩ := s
  obtain ⟨w, events⟩ := w
  simp only [noted]
  rcases A.step task s w with ⟨progress, s', w'⟩
  cases progress with
  | waiting until? => exact .waiting until? s' w'
  | working rest => exact .working rest s' w'
  | finished result => exact .finished result s' w'
  | panicked => exact .panicked s' w'

end Service

def Source.noted (A : Source ω σ τ) (write : Note SourceCall Reply → List ε) :
    Source (ω × List ε) (σ × Bool) (SourceCall × τ) where
  toService := A.toService.noted write
  connector? s := A.connector? s.1

/-- The sink that takes notes. It also writes down whether it takes more input whenever it says
so. -/
def Sink.noted (B : Sink ω κ υ) (write : Note SinkCall Reply → List ε) (tell : Bool → List ε) :
    Sink (ω × List ε) (κ × Bool) (SinkCall × υ) where
  toService := B.toService.noted write
  connector? s := B.connector? s.1
  wantsInput := fun (s, busy) (w, events) =>
    match B.wantsInput s w with
    | (wants, s, w) => (wants, (s, busy), (w, events ++ tell wants))
  isDrained s w := B.isDrained s.1 w.1

theorem Sink.noted_shows (B : Sink ω κ υ) (write : Note SinkCall Reply → List ε)
    (tell : Bool → List ε) : (B.noted write tell).Shows B Prod.snd Prod.fst Prod.fst where
  toShows := B.toService.noted_shows write
  wantsInput _ _ := rfl
  isDrained _ _ := rfl

def Strategy.noted (S : Strategy ω σ τ) (write : Note HookCall HookReply → List ε) :
    Strategy (ω × List ε) (σ × Bool) (HookCall × τ) where
  toService := S.toService.noted write
  name s := S.name s.1
  connector? s := S.connector? s.1

end RecordFarm
