import RecordFarm.Element
/-!
# Threads and who waits for them

A crew is a row of element threads that share a world with the one thread that started them. That
thread makes calls of its own. While a call has to wait, the crew moves, every thread a step in
turn; when nobody can move, the time passes up to the first moment that somebody waits for. A
call that nobody can ever answer is stuck.
-/

namespace RecordFarm

/-- A world whose time can be let pass. -/
class Clock (ω : Type) where
  waitUntil : ω → Nat → ω

def earlier : Option Nat → Option Nat → Option Nat
  | some a, some b => some (min a b)
  | some a, none => some a
  | none, b => b

/-- A row of threads and the world they share. -/
structure Crew (ω σ τ : Type) where
  world : ω
  threads : List (Element σ τ) := []

namespace Crew

variable {ω σ τ ρ θ α : Type}

/-- What a round of steps has to show. -/
structure Sweep (ω σ τ : Type) where
  crew : Crew ω σ τ
  /-- Whether anybody could do anything. -/
  moved : Bool := false
  /-- The first moment that somebody waits for. -/
  alarm : Option Nat := none

def spawn (crew : Crew ω σ τ) (strategy : σ) : Crew ω σ τ :=
  { crew with threads := crew.threads ++ [{ strategy }] }

/-- The thread with this number takes a step, if it can. -/
def Sweep.visit (S : Strategy ω σ τ) (s : Sweep ω σ τ) (number : Nat) : Sweep ω σ τ :=
  match s.crew.threads[number]? with
  | none => s
  | some thread =>
    let (turn, thread, world) := thread.step S s.crew.world
    let crew := { world, threads := s.crew.threads.set number thread }
    match turn with
    | .moved => { s with crew, moved := true }
    | .waiting until? => { s with crew, alarm := earlier s.alarm until? }
    | .over => { s with crew }

def sweep (S : Strategy ω σ τ) (crew : Crew ω σ τ) : Sweep ω σ τ :=
  (List.range crew.threads.length).foldl (Sweep.visit S) { crew }

/-- Lets the threads move until all of them wait, for so many rounds at most. -/
def settle (S : Strategy ω σ τ) : Nat → Crew ω σ τ → Crew ω σ τ
  | 0, crew => crew
  | fuel + 1, crew =>
    let s := crew.sweep S
    if s.moved then settle S fuel s.crew else s.crew

/-- Lets the threads move, or the time pass; nothing if neither helps. -/
def yieldTo [Clock ω] (S : Strategy ω σ τ) (crew : Crew ω σ τ) (until? : Option Nat) :
    Option (Crew ω σ τ) :=
  let s := crew.sweep S
  if s.moved then some s.crew
  else (earlier s.alarm until?).map fun moment =>
    { s.crew with world := Clock.waitUntil s.crew.world moment }

inductive Answer (α : Type) where
  | returned (result : Except Error α)
  | panicked
  /-- Nobody can ever answer. -/
  | stuck

/-- Makes a call, in so many steps at most. -/
def call [Clock ω] (S : Strategy ω σ τ) (step : θ → ρ → ω → Progress θ α × ρ × ω) :
    Nat → θ → ρ → Crew ω σ τ → Answer α × ρ × Crew ω σ τ
  | 0, _, s, crew => (.stuck, s, crew)
  | fuel + 1, task, s, crew =>
    match step task s crew.world with
    | (.finished result, s, world) => (.returned result, s, { crew with world })
    | (.panicked, s, world) => (.panicked, s, { crew with world })
    | (.working rest, s, world) => call S step fuel rest s { crew with world }
    | (.waiting until?, s, world) =>
      match yieldTo S { crew with world } until? with
      | none => (.stuck, s, { crew with world })
      | some crew => call S step fuel task s crew

def outcome? (crew : Crew ω σ τ) (number : Nat) : Option Outcome :=
  crew.threads[number]?.bind Element.outcome?

def await [Clock ω] (S : Strategy ω σ τ) (number : Nat) : Nat → Crew ω σ τ → Crew ω σ τ
  | 0, crew => crew
  | fuel + 1, crew =>
    if (crew.outcome? number).isSome then crew
    else
      match yieldTo S crew none with
      | none => crew
      | some crew => await S number fuel crew

end Crew

/-- A step of an element that runs on the calling thread, as a step of a call. -/
def Element.callStep {ω σ τ : Type} (S : Strategy ω σ τ) (_ : Unit) (e : Element σ τ) (w : ω) :
    Progress Unit Outcome × Element σ τ × ω :=
  match e.step S w with
  | (.waiting until?, e, w) => (.waiting until?, e, w)
  | (.moved, e, w) => (.working (), e, w)
  | (.over, e, w) => (.finished (.ok (e.outcome?.getD .panicked)), e, w)

end RecordFarm
