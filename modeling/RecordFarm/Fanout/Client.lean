import RecordFarm.Network
import RecordFarm.Service.Adopting
/-!
# The asking side of the fan-out

A client is a source. It registers with a dispenser under its identity and hands out one record at
a time. When it has none left it asks for the next message and waits for it, so it never has more
than one request open. When it leaves it unregisters.
-/

namespace RecordFarm

namespace Fanout

/-- The asking side of the fan-out. -/
structure Client where
  uri : String
  identity : ClientId
  dealer : Option DealerSocket := none
  /-- Records received and not yet handed out. -/
  records : List Bytes := []
  /-- Whether the end of the stream was received. -/
  ended : Bool := false
  deriving DecidableEq, Repr

namespace Client

inductive Task where
  | begin (call : SourceCall)
  /-- Waiting for the address, up to a moment. -/
  | connecting (deadline : Nat)
  /-- Connected; the registration is to be sent. -/
  | registering (dealer : DealerSocket)
  /-- A request was sent; its answer is to come. -/
  | awaiting
  /-- The unregistration is to be sent. -/
  | leaving (dealer : DealerSocket)
  deriving DecidableEq, Repr

abbrev Stepped := Progress Task Reply × Client × Network

def answer (result : Except Error Reply) (s : Client) (net : Network) : Stepped :=
  (.finished result, s, net)

/-- Takes leave of the dispenser, if there is one. Records not yet handed out are dropped. -/
def leave (s : Client) (net : Network) : Stepped :=
  match s.dealer with
  | none => answer (.ok none) s net
  | some dealer => (.working (.leaving dealer), { s with dealer := none, records := [] }, net)

def next (s : Client) (net : Network) : Stepped :=
  match s.records with
  | record :: records => answer (.ok (some (.process [record]))) { s with records } net
  | [] =>
    if s.ended then answer (.ok (some .endOfStream)) s net
    else
      match s.dealer with
      | none => answer (.error (.notConnected s.uri)) s net
      | some dealer =>
        match (Message.dataRequest s.identity).toFrames with
        | .error cause => answer (.error cause) s net
        | .ok frames =>
          match dealer.send frames net with
          | .blocked => (.waiting none, s, net)
          | .failed cause => answer (.error cause) s net
          | .done () net => (.working .awaiting, s, net)

def takeIn (frames : Frames) (s : Client) (net : Network) : Stepped :=
  match Message.ofFrames frames with
  | .error cause => answer (.error cause) s net
  | .ok m =>
    match m.kind with
    | .process =>
      match m.records with
      | .error cause => answer (.error cause) s net
      | .ok records => (.working (.begin .next), { s with records := s.records ++ records }, net)
    | .endOfStream => (.working (.begin .next), { s with ended := true }, net)
    | _ => answer (.ok (some m)) s net

/-- Sends a last or first word through a socket that the client does not own at the time. The
socket is kept only if it is the first word and was sent. -/
def speak (dealer : DealerSocket) (m : Message) (keep : Bool) (s : Client) (net : Network) :
    Stepped :=
  match m.toFrames with
  | .error cause => answer (.error cause) s (dealer.close net)
  | .ok frames =>
    match dealer.send frames net with
    | .blocked => (.waiting none, s, net)
    | .failed cause => answer (.error cause) s (dealer.close net)
    | .done () net =>
      if keep then answer (.ok none) { s with dealer := some dealer } net
      else answer (.ok none) s (dealer.close net)

def step : Task → Client → Network → Stepped
  | .begin .connect, s, net =>
    if s.dealer.isSome then answer (.ok none) s net
    else (.working (.connecting (net.now + net.limits.connectTimeout)), s, net)
  | .begin .disconnect, s, net => leave s net
  | .begin .release, s, net => leave s net
  | .begin .next, s, net => next s net
  | .begin (.register _), s, net => answer SourceCall.ignored s net
  | .begin (.unregister _), s, net => answer SourceCall.ignored s net
  | .connecting deadline, s, net =>
    match (DealerSocket.connect net s.uri s.identity).orNotBound s.uri (deadline ≤ net.now) with
    | .blocked => (.waiting (some deadline), s, net)
    | .failed cause => answer (.error cause) s net
    | .done dealer net => (.working (.registering dealer), s, net)
  | .registering dealer, s, net => speak dealer (.registration s.identity) true s net
  | .awaiting, s, net =>
    match s.dealer with
    | none => answer (.error (.notConnected s.uri)) s net
    | some dealer =>
      match dealer.recv net with
      | .blocked => (.waiting none, s, net)
      | .failed cause => answer (.error cause) s net
      | .done frames net => takeIn frames s net
  | .leaving dealer, s, net => speak dealer (.unregistration s.identity) false s net

def source : Source Network Client Task where
  start := .begin
  step := step
  connector? _ := none

/-- The client that may have to take its identity from whoever connects it. -/
def adopting : Service Network (By SourceCall) (Adopting Client) (By SourceCall × Task) Reply :=
  source.toService.adopting (· == .connect) fun identity s => { s with identity }

end Client

end Fanout

end RecordFarm
