import RecordFarm.Element
/-!
# Joining a farm

Whoever waits for a farm looks again and again which of its elements have ended, and joins those.
The first failure in the order of joining is the failure of the farm; when it is met, the
elements that have not ended by then are asked to exit, because their peers may never speak to
them again. All elements are joined in any case.

A round looks at all elements once. It is a function of what has ended, so it can be run on every
order of events.
-/

namespace RecordFarm

namespace Farm

inductive Place where
  | distributor
  | worker (index : Nat)
  | collector
  deriving DecidableEq, Repr

/-- The places of a farm with so many workers, in joining order. -/
def places (workers : Nat) : List Place :=
  .distributor :: (List.range workers).map .worker ++ [.collector]

structure Summary where
  distributor : Stats := {}
  workers : List Stats := []
  collector : Stats := {}
  deriving DecidableEq, Repr

namespace Summary

def put (summary : Summary) (place : Place) (stats : Stats) : Summary :=
  match place with
  | .distributor => { summary with distributor := stats }
  | .worker index => { summary with workers := summary.workers.set index stats }
  | .collector => { summary with collector := stats }

/-- The messages with records that all workers have handled. -/
def workerItems (summary : Summary) : Nat :=
  (summary.workers.map Stats.process).foldr (· + ·) 0

end Summary

structure Join where
  /-- The elements not yet joined, in joining order. -/
  pending : List Place
  /-- The elements that were joined, oldest first, and what each of them came to. -/
  joined : List (Place × Except Error Stats) := []
  summary : Summary
  failure : Option Error := none
  deriving Repr

namespace Join

def new (workers : Nat) : Join where
  pending := places workers
  summary := { workers := List.replicate workers {} }

def joinOne (j : Join) (place : Place) (result : Except Error Stats) : Join :=
  let j := { j with joined := j.joined ++ [(place, result)] }
  match result with
  | .ok stats => { j with summary := j.summary.put place stats }
  | .error cause => { j with failure := some (j.failure.getD cause) }

/-- The elements that wait to be joined and have ended. -/
def finished (j : Join) (ended : Place → Option (Except Error Stats)) :
    List (Place × Except Error Stats) :=
  j.pending.filterMap fun place => (ended place).map fun result => (place, result)

/-- Joins what has ended, and names the elements that are now asked to exit. -/
def round (j : Join) (ended : Place → Option (Except Error Stats)) : Join × List Place :=
  let running := j.pending.filter fun place => (ended place).isNone
  let joined := (j.finished ended).foldl (fun j (place, result) => j.joinOne place result)
    { j with pending := running }
  (joined, if j.failure.isNone && joined.failure.isSome then running else [])

def result? (j : Join) : Option (Except Error Summary) :=
  match j.pending, j.failure with
  | _ :: _, _ => none
  | [], some cause => some (.error cause)
  | [], none => some (.ok j.summary)

end Join

end Farm

end RecordFarm
