import RecordFarm.Connection
import RecordFarm.Crew
import RecordFarm.Element.Pipeline
import RecordFarm.Fanin.Collector
import RecordFarm.Fanin.Producer
import RecordFarm.Farm.Join
import RecordFarm.Farm.Layout
import RecordFarm.Fanout.Client
import RecordFarm.Fanout.Dispenser
/-!
# Farms

A farm runs one source through many workers into one sink:

    source ─► distributor ─┬─► worker 0 ─┬─► collector ─► sink
                           ├─► worker 1 ─┤
                           └─► …         ┘

The distributor serves the workers through a dispenser, each worker runs its own processor, and
pushes what it makes into the collector. All of them are elements on their own threads, and
`stepAt` is one step of one of them. `turn` is a fair way of running them all: everyone takes a
step in turn, and only when nobody can does the joining look around, or the time pass.
-/

namespace RecordFarm

namespace Farm

/-- The element that serves the workers. -/
abbrev Distributor (σ τ : Type) :=
  Element (Pipeline σ Unit Fanout.Dispenser) (Pipeline.Task τ Fanout.Dispenser.Task)

/-- An element that runs a processor. -/
abbrev Worker (π : Type) :=
  Element (Pipeline Fanout.Client π Fanin.Producer)
    (Pipeline.Task Fanout.Client.Task Fanin.Producer.Task)

/-- The element that feeds the sink. -/
abbrev Gatherer (κ υ : Type) :=
  Element (Pipeline Fanin.Collector Unit κ) (Pipeline.Task Fanin.Collector.Task υ)

def distributorStrategy {σ τ : Type} (A : Source Network σ τ) :
    Strategy Network (Pipeline σ Unit Fanout.Dispenser) (Pipeline.Task τ Fanout.Dispenser.Task) :=
  Pipeline.strategy A .passThrough Fanout.Dispenser.sink

def workerStrategy {π : Type} (P : Processor π) :
    Strategy Network (Pipeline Fanout.Client π Fanin.Producer)
      (Pipeline.Task Fanout.Client.Task Fanin.Producer.Task) :=
  Pipeline.strategy Fanout.Client.source P Fanin.Producer.sink

def collectorStrategy {κ υ : Type} (B : Sink Network κ υ) :
    Strategy Network (Pipeline Fanin.Collector Unit κ) (Pipeline.Task Fanin.Collector.Task υ) :=
  Pipeline.strategy Fanin.Collector.source .passThrough B

end Farm

/-- A running farm: `σ`, `π` and `κ` are the states of its source, its processors and its sink,
`τ` and `υ` the tasks of the source and the sink. -/
structure Farm (σ τ π κ υ : Type) where
  net : Network
  distributor : Farm.Distributor σ τ
  workers : List (Farm.Worker π)
  collector : Farm.Gatherer κ υ
  join : Farm.Join
  /-- The elements that are still to be asked to exit. -/
  toAsk : List Farm.Place := []
  /-- The request that is on its way. -/
  asking : Option Asking := none

namespace Farm

variable {σ τ π κ υ : Type}

structure Parts (σ τ π κ υ : Type) where
  source : Source Network σ τ
  processor : Processor π
  sink : Sink Network κ υ

def identify : List π → Network → List (ClientId × π) × Network
  | [], net => ([], net)
  | p :: rest, net =>
    let (id, net) := net.freshIdentity
    let (rest, net) := identify rest net
    ((id, p) :: rest, net)

/-- The farm of a source, one processor for each worker, and a sink. Every worker has an identity
of its own, under which it asks for records and pushes results. -/
def new (net : Network) (layout : Layout) (source : σ) (processors : List π) (sink : κ) :
    Farm σ τ π κ υ :=
  let (workers, net) := identify processors net
  let queue : Fanout.Queue := { expected := workers.length }
  { net
    distributor :=
      { strategy :=
          { name := "distributor"
            source
            processor := ()
            sink := .new layout.distributorUri queue layout.highWaterMark } }
    workers := workers.zipIdx.map fun ((identity, processor), index) =>
      { strategy :=
          { name := s!"worker-{index}"
            source := { uri := layout.distributorUri, identity }
            processor
            sink := { uri := layout.collectorUri, identity } } }
    collector :=
      { strategy :=
          { name := "collector"
            source := { uri := layout.collectorUri, expected := workers.length }
            processor := ()
            sink } }
    join := .new workers.length }

def stepAt (parts : Parts σ τ π κ υ) (f : Farm σ τ π κ υ) : Place → Turn × Farm σ τ π κ υ
  | .distributor =>
    let (turn, distributor, net) := f.distributor.step (distributorStrategy parts.source) f.net
    (turn, { f with distributor, net })
  | .worker index =>
    match f.workers[index]? with
    | none => (.over, f)
    | some worker =>
      let (turn, worker, net) := worker.step (workerStrategy parts.processor) f.net
      (turn, { f with workers := f.workers.set index worker, net })
  | .collector =>
    let (turn, collector, net) := f.collector.step (collectorStrategy parts.sink) f.net
    (turn, { f with collector, net })

def ended (f : Farm σ τ π κ υ) : Place → Option (Except Error Stats)
  | .distributor => f.distributor.outcome?.map (·.join f.distributor.strategy.name)
  | .worker index =>
    f.workers[index]?.bind fun worker => worker.outcome?.map (·.join worker.strategy.name)
  | .collector => f.collector.outcome?.map (·.join f.collector.strategy.name)

/-- How the element at a place can be asked to exit: not at all when it is stopping already or
when nobody can reach it. -/
def exitWay (parts : Parts σ τ π κ υ) (f : Farm σ τ π κ υ) : Place → Option Connector
  | .distributor =>
    if f.distributor.lifecycle.isLive then
      (distributorStrategy parts.source).connector? f.distributor.strategy
    else none
  | .worker index =>
    f.workers[index]?.bind fun worker =>
      if worker.lifecycle.isLive then (workerStrategy parts.processor).connector? worker.strategy
      else none
  | .collector =>
    if f.collector.lifecycle.isLive then
      (collectorStrategy parts.sink).connector? f.collector.strategy
    else none

/-- What a turn of the whole farm has to show. -/
structure Sweep (σ τ π κ υ : Type) where
  farm : Farm σ τ π κ υ
  /-- Whether anybody could do anything. -/
  moved : Bool := false
  /-- The first moment that somebody waits for. -/
  alarm : Option Nat := none

def Sweep.visit (parts : Parts σ τ π κ υ) (s : Sweep σ τ π κ υ) (place : Place) :
    Sweep σ τ π κ υ :=
  match s.farm.stepAt parts place with
  | (.moved, farm) => { s with farm, moved := true }
  | (.waiting until?, farm) => { s with farm, alarm := earlier s.alarm until? }
  | (.over, farm) => { s with farm }

def sweep (parts : Parts σ τ π κ υ) (f : Farm σ τ π κ υ) : Sweep σ τ π κ υ :=
  (places f.workers.length).foldl (Sweep.visit parts) { farm := f }

/-- Lets the time pass up to an alarm, if there is one. -/
def sleep (alarm : Option Nat) (f : Farm σ τ π κ υ) : Option (Farm σ τ π κ υ) :=
  alarm.map fun moment => { f with net := f.net.waitUntil moment }

/-- One turn of who waits for the farm, when all elements are waiting too: a step of the request
on its way, the next request, or a look at what has ended. Nothing, if nobody can ever move. -/
def attend (parts : Parts σ τ π κ υ) (alarm : Option Nat) (f : Farm σ τ π κ υ) :
    Option (Farm σ τ π κ υ) :=
  match f.asking, f.toAsk with
  | some asking, _ =>
    match asking.step f.net with
    | (.waiting until?, _) => sleep (earlier alarm until?) f
    | (.working rest, net) => some { f with asking := some rest, net }
    | (_, net) => some { f with asking := none, net }
  | none, place :: toAsk =>
    some { f with toAsk, asking := (f.exitWay parts place).map (Asking.start · .exitRequest) }
  | none, [] =>
    let (join, toAsk) := f.join.round f.ended
    if join.pending.length < f.join.pending.length then some { f with join, toAsk }
    else sleep alarm f

/-- One turn of everybody. Nothing, if nobody can ever move again. -/
def turn (parts : Parts σ τ π κ υ) (f : Farm σ τ π κ υ) : Option (Farm σ τ π κ υ) :=
  let s := f.sweep parts
  if s.moved then some s.farm else s.farm.attend parts s.alarm

def turns (parts : Parts σ τ π κ υ) : Nat → Farm σ τ π κ υ → Farm σ τ π κ υ
  | 0, f => f
  | fuel + 1, f =>
    if f.join.pending.isEmpty then f
    else
      match f.turn parts with
      | none => f
      | some f => turns parts fuel f

def result? (f : Farm σ τ π κ υ) : Option (Except Error Summary) := f.join.result?

end Farm

end RecordFarm
