import RecordFarm.Network
import RecordFarm.Service.Adopting
/-!
# The pushing side of the fan-in

A producer is a sink. It registers with a collector under its identity, pushes what it is sent,
with the records of each message gathered into one batch, and unregisters when it leaves.
-/

namespace RecordFarm

namespace Fanin

/-- The pushing side of the fan-in. -/
structure Producer where
  uri : String
  identity : ClientId
  push : Option PushSocket := none
  /-- How many messages were pushed, registrations apart. -/
  sent : Nat := 0
  deriving DecidableEq, Repr

namespace Producer

inductive Task where
  | begin (call : SinkCall)
  /-- Waiting for the address, up to a moment. -/
  | connecting (deadline : Nat)
  /-- Connected; the registration is to be sent. -/
  | registering (push : PushSocket)
  /-- These frames are to be pushed. -/
  | pushing (frames : Frames)
  /-- The unregistration is to be sent. -/
  | leaving (push : PushSocket)
  deriving DecidableEq, Repr

abbrev Stepped := Progress Task Reply × Producer × Network

def answer (result : Except Error Reply) (s : Producer) (net : Network) : Stepped :=
  (.finished result, s, net)

def leave (s : Producer) (net : Network) : Stepped :=
  match s.push with
  | none => answer (.ok none) s net
  | some push => (.working (.leaving push), { s with push := none }, net)

/-- Sends a last or first word through a socket that the producer does not own at the time. The
socket is kept only if it is the first word and was sent. -/
def speak (push : PushSocket) (m : Message) (keep : Bool) (s : Producer) (net : Network) :
    Stepped :=
  match m.toFrames with
  | .error cause => answer (.error cause) s (push.close net)
  | .ok frames =>
    match push.send frames net with
    | .blocked => (.waiting none, s, net)
    | .failed cause => answer (.error cause) s (push.close net)
    | .done () net =>
      if keep then answer (.ok none) { s with push := some push } net
      else answer (.ok none) s (push.close net)

def step : Task → Producer → Network → Stepped
  | .begin .connect, s, net =>
    (.working (.connecting (net.now + net.limits.connectTimeout)), s, net)
  | .begin .disconnect, s, net => leave s net
  | .begin .release, s, net => leave s net
  | .begin (.send m), s, net =>
    match m.toFramesBatched with
    | .error cause => answer (.error cause) s net
    | .ok frames => (.working (.pushing frames), s, net)
  | .begin call, s, net => answer call.refused s net
  | .connecting deadline, s, net =>
    match (PushSocket.connect net s.uri).orNotBound s.uri (deadline ≤ net.now) with
    | .blocked => (.waiting (some deadline), s, net)
    | .failed cause => answer (.error cause) s net
    | .done push net => (.working (.registering push), s, net)
  | .registering push, s, net => speak push (.registration s.identity) true s net
  | .pushing frames, s, net =>
    match s.push with
    | none => answer (.error (.notConnected s.uri)) s net
    | some push =>
      match push.send frames net with
      | .blocked => (.waiting none, s, net)
      | .failed cause => answer (.error cause) s net
      | .done () net => answer (.ok none) { s with sent := s.sent + 1 } net
  | .leaving push, s, net => speak push (.unregistration s.identity) false s net

def sink : Sink Network Producer Task where
  start := .begin
  step := step
  connector? _ := none
  wantsInput s net := (true, s, net)
  isDrained _ _ := true

/-- The producer that may have to take its identity from whoever connects it. -/
def adopting : Service Network (By SinkCall) (Adopting Producer) (By SinkCall × Task) Reply :=
  sink.toService.adopting (· == .connect) fun identity s => { s with identity }

end Producer

end Fanin

end RecordFarm
