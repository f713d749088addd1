import RecordFarm.Network
import RecordFarm.Service
/-!
# Pulling from a pipe

A puller is a source. It connects to a bound writing end and hands out one record at a time. Once
the end of the stream has come it is the end for ever, and the pipe is not looked at again.
-/

namespace RecordFarm

/-- A source that pulls from a pipe. -/
structure Puller where
  uri : String
  pull : Option PullSocket := none
  /-- Records received and not yet handed out. -/
  records : List Bytes := []
  /-- Whether the end of the stream was received. -/
  ended : Bool := false
  deriving DecidableEq, Repr

namespace Puller

inductive Task where
  | begin (call : SourceCall)
  /-- Waiting for the address, up to a moment. -/
  | connecting (deadline : Nat)
  deriving DecidableEq, Repr

abbrev Stepped := Progress Task Reply × Puller × Network

def answer (result : Except Error Reply) (s : Puller) (net : Network) : Stepped :=
  (.finished result, s, net)

/-- Takes a message in. One that is neither records nor the end is handed out as it is. -/
def takeIn (m : Message) (s : Puller) (net : Network) : Stepped :=
  match m.kind with
  | .process =>
    match m.records with
    | .error cause => answer (.error cause) s net
    | .ok records => (.working (.begin .next), { s with records := s.records ++ records }, net)
  | .endOfStream => (.working (.begin .next), { s with ended := true }, net)
  | _ => answer (.ok (some m)) s net

/-- Hands out a record or the end, or takes the next message in. -/
def next (s : Puller) (net : Network) : Stepped :=
  match s.records with
  | record :: records => answer (.ok (some (.process [record]))) { s with records } net
  | [] =>
    if s.ended then answer (.ok (some .endOfStream)) s net
    else
      match s.pull with
      | none => answer (.error (.notConnected s.uri)) s net
      | some pull =>
        match pull.recv net with
        | .blocked => (.waiting none, s, net)
        | .failed cause => answer (.error cause) s net
        | .done frames net =>
          match Message.ofFrames frames with
          | .error cause => answer (.error cause) s net
          | .ok m => takeIn m s net

def close (s : Puller) (net : Network) : Stepped :=
  match s.pull with
  | none => answer (.ok none) s net
  | some pull => answer (.ok none) { s with pull := none } (pull.close net)

def step : Task → Puller → Network → Stepped
  | .begin .connect, s, net =>
    (.working (.connecting (net.now + net.limits.connectTimeout)), s, net)
  | .begin .disconnect, s, net => close s net
  | .begin .release, s, net => close s net
  | .begin .next, s, net => next s net
  | .begin (.register _), s, net => answer SourceCall.ignored s net
  | .begin (.unregister _), s, net => answer SourceCall.ignored s net
  | .connecting deadline, s, net =>
    match (PullSocket.connect net s.uri).orNotBound s.uri (deadline ≤ net.now) with
    | .blocked => (.waiting (some deadline), s, net)
    | .failed cause => answer (.error cause) s net
    | .done pull net => answer (.ok none) { s with pull := some pull } net

def source : Source Network Puller Task where
  start := .begin
  step := step
  connector? _ := none

end Puller

end RecordFarm
