import RecordFarm.Network
import RecordFarm.Service
/-!
# The collecting side of the fan-in

A collector is a source. It binds the reading end of a pipe and hands out what its producers push
into it, one record at a time. Every producer ends its own stream, which means nothing here: the
stream of the collector ends when as many producers as expected have come, all of them have
gone, and no record is left.
-/

namespace RecordFarm

namespace Fanin

/-- The collecting side of the fan-in. -/
structure Collector where
  uri : String
  pull : Option PullSocket := none
  /-- Records received and not yet handed out. -/
  records : List Bytes := []
  /-- The producers that are there. -/
  producers : List ClientId := []
  /-- Every producer that ever came. -/
  seen : List ClientId := []
  /-- So many producers have to come before the stream can end. -/
  expected : Nat := 1
  deriving DecidableEq, Repr

namespace Collector

/-- What is left of a call: all of it. -/
abbrev Task := SourceCall

abbrev Stepped := Progress Task Reply × Collector × Network

def answer (result : Except Error Reply) (s : Collector) (net : Network) : Stepped :=
  (.finished result, s, net)

/-- Whether everyone who was expected has come and everyone has gone. -/
def isComplete (s : Collector) : Bool :=
  s.producers.isEmpty && decide (s.expected ≤ s.seen.length)

/-- Takes a message in. One that is neither records nor membership is handed out as it is. -/
def takeIn (m : Message) (s : Collector) (net : Network) : Stepped :=
  match m.kind with
  | .process =>
    match m.records with
    | .error cause => answer (.error cause) s net
    | .ok records => (.working .next, { s with records := s.records ++ records }, net)
  | .registration =>
    match m.identity with
    | .error cause => answer (.error cause) s net
    | .ok id =>
      (.working .next,
        { s with seen := s.seen.insert id, producers := s.producers.insert id }, net)
  | .unregistration =>
    match m.identity with
    | .error cause => answer (.error cause) s net
    | .ok id => (.working .next, { s with producers := s.producers.filter (· ≠ id) }, net)
  | .endOfStream => (.working .next, s, net)
  | _ => answer (.ok (some m)) s net

/-- Hands out a record or the end, or takes the next message in. -/
def next (s : Collector) (net : Network) : Stepped :=
  match s.records with
  | record :: records => answer (.ok (some (.process [record]))) { s with records } net
  | [] =>
    if s.isComplete then answer (.ok (some .endOfStream)) s net
    else
      match s.pull with
      | none => answer (.error (.notConnected s.uri)) s net
      | some pull =>
        match pull.recv net with
        | .blocked => (.waiting none, s, net)
        | .failed cause => answer (.error cause) s net
        | .done frames net =>
          match Message.ofFrames frames with
          | .error cause => answer (.error cause) s net
          | .ok m => takeIn m s net

def close (s : Collector) (net : Network) : Stepped :=
  match s.pull with
  | none => answer (.ok none) s net
  | some pull => answer (.ok none) { s with pull := none } (pull.close net)

def step : Task → Collector → Network → Stepped
  | .connect, s, net =>
    match PullSocket.bind net s.uri with
    | .blocked => (.waiting none, s, net)
    | .failed cause => answer (.error cause) s net
    | .done pull net => answer (.ok none) { s with pull := some pull } net
  | .disconnect, s, net => close s net
  | .release, s, net => close s net
  | .next, s, net => next s net
  | .register _, s, net => answer SourceCall.ignored s net
  | .unregister _, s, net => answer SourceCall.ignored s net

def source : Source Network Collector Task where
  start := id
  step := step
  connector? s := some ⟨[.push s.uri]⟩

end Collector

end Fanin

end RecordFarm
