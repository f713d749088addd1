import RecordFarm.Fanout.Queue
import RecordFarm.Network
import RecordFarm.Service
/-!
# The serving side of the fan-out

A dispenser is a sink. It binds a router, and hands the messages it is sent to the clients that
ask for them, as its queue decides. When the end of the stream has been handed out it runs down:
the call that reached the end goes on to answer its clients by itself until all of them have
left. A request to exit cuts this short; it is kept for the element to find.
-/

namespace RecordFarm

namespace Fanout

/-- The serving side of the fan-out. -/
structure Dispenser where
  uri : String
  router : Option RouterSocket := none
  queue : Queue := {}
  /-- With so many messages queued the dispenser wants no more input. -/
  highWaterMark : Nat := 1024
  /-- Whether it has begun to run down. -/
  ranDown : Bool := false
  /-- The exit request that cut the rundown short. -/
  heldExit : Option Message := none
  /-- How many messages were handed out. -/
  delivered : Nat := 0

namespace Dispenser

/-- A dispenser before it is bound. The mark is at least one. -/
def new (uri : String) (queue : Queue) (highWaterMark : Nat) : Dispenser where
  uri
  queue
  highWaterMark := max highWaterMark 1

inductive Task where
  | begin (call : SinkCall)
  /-- These deliveries, and then, if the dispenser is running down, the peers' next message. -/
  | deliver (due : List Delivery) (runningDown : Bool)
  deriving DecidableEq, Repr

abbrev Stepped := Progress Task Reply × Dispenser × Network

def answer (result : Except Error Reply) (s : Dispenser) (net : Network) : Stepped :=
  (.finished result, s, net)

/-- The queue has done its part, and its deliveries are due. -/
def afterQueue (runningDown : Bool) (outcome : Except Violation (List Delivery) × Queue)
    (s : Dispenser) (net : Network) : Stepped :=
  let s := { s with queue := outcome.2 }
  match outcome.1 with
  | .error cause => answer (.error cause) s net
  | .ok due => (.working (.deliver due runningDown), s, net)

def receive (s : Dispenser) (net : Network) : Attempt (Except Error Message) :=
  match s.router with
  | none => .done (.error (.notConnected s.uri)) net
  | some router =>
    match router.recv net with
    | .blocked => .blocked
    | .failed cause => .done (.error cause) net
    | .done (_, frames) net => .done ((Message.ofFrames frames).mapError .violation) net

/-- Takes what a peer said last, if it spoke; otherwise waits, or says that nobody spoke. -/
def nextMessage (waits : Bool) (s : Dispenser) (net : Network) : Stepped :=
  match s.heldExit with
  | some m => answer (.ok (some m)) { s with heldExit := none } net
  | none =>
    match s.receive net with
    | .blocked => if waits then (.waiting none, s, net) else answer (.ok none) s net
    | .failed cause => answer (.error cause) s net
    | .done (.ok m) net => answer (.ok (some m)) s net
    | .done (.error cause) net => answer (.error cause) s net

def close (s : Dispenser) (net : Network) : Dispenser × Network :=
  match s.router with
  | none => (s, net)
  | some router => ({ s with router := none }, router.close net)

/-- Answers one message that arrived while running down. -/
def runDown (m : Message) (s : Dispenser) (net : Network) : Stepped :=
  match m.kind with
  | .registration =>
    match m.identity with
    | .error cause => answer (.error cause) s net
    | .ok id => (.working (.deliver [] true), { s with queue := s.queue.register id }, net)
  | .unregistration =>
    match m.identity with
    | .error cause => answer (.error cause) s net
    | .ok id => afterQueue true (s.queue.unregister id) s net
  | .dataRequest =>
    match m.identity with
    | .error cause => answer (.error cause) s net
    | .ok id => afterQueue true (s.queue.request id) s net
  | .exitRequest => answer (.ok none) { s with heldExit := some m } net
  | _ => (.working (.deliver [] true), s, net)

def step : Task → Dispenser → Network → Stepped
  | .begin .connect, s, net =>
    match RouterSocket.bind net s.uri with
    | .blocked => (.waiting none, s, net)
    | .failed cause => answer (.error cause) s net
    | .done router net => answer (.ok none) { s with router := some router } net
  | .begin .disconnect, s, net => let (s, net) := s.close net; answer (.ok none) s net
  | .begin .release, s, net => let (s, net) := s.close net; answer (.ok none) s net
  | .begin (.send m), s, net => afterQueue false (s.queue.send m) s net
  | .begin .poll, s, net => nextMessage false s net
  | .begin .get, s, net => nextMessage true s net
  | .begin (.request id), s, net => afterQueue false (s.queue.request id) s net
  | .begin (.register id), s, net =>
    answer (.ok none) { s with queue := s.queue.register id } net
  | .begin (.unregister id), s, net => afterQueue false (s.queue.unregister id) s net
  | .deliver ((id, m) :: due) runningDown, s, net =>
    match m.toFramesBatched with
    | .error cause => answer (.error cause) s net
    | .ok frames =>
      match s.router with
      | none => answer (.error (.notConnected s.uri)) s net
      | some router =>
        match router.sendTo id frames net with
        | .blocked => (.waiting none, s, net)
        | .failed (.unknownPeer peer) =>
          -- A client may leave between its last request and the end of the stream.
          if m.isEnd then (.working (.deliver due runningDown), s, net)
          else answer (.error (TransportError.unknownPeer peer)) s net
        | .failed cause => answer (.error cause) s net
        | .done () net =>
          (.working (.deliver due runningDown), { s with delivered := s.delivered + 1 }, net)
  | .deliver [] false, s, net =>
    if s.queue.rundown && !s.ranDown then
      (.working (.deliver [] true), { s with ranDown := true }, net)
    else answer (.ok none) s net
  | .deliver [] true, s, net =>
    if s.queue.isDrained then answer (.ok none) s net
    else
      match s.receive net with
      | .blocked => (.waiting none, s, net)
      | .failed cause => answer (.error cause) s net
      | .done (.error cause) net => answer (.error cause) s net
      | .done (.ok m) net => runDown m s net

/-- Whether fewer messages are queued than the mark. -/
def wantsInput (s : Dispenser) : Bool := s.queue.messages.length < s.highWaterMark

def sink : Sink Network Dispenser Task where
  start := .begin
  step := step
  connector? s := some ⟨[.dealer s.uri]⟩
  wantsInput s net := (s.wantsInput, s, net)
  isDrained s _ := s.queue.isDrained

end Dispenser

end Fanout

end RecordFarm
