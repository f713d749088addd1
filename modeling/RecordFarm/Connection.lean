import RecordFarm.Network
import RecordFarm.Service
/-!
# Speaking to an element from outside

A connector is opened to get a connection, and a connection takes messages for the element. A
connector may know several ways: all that can be opened are, and a message goes through each of
them, because the element may be waiting at any one. It is enough if one way works; otherwise the
last failure counts.
-/

namespace RecordFarm

/-- One opened way to an element. -/
inductive Link where
  | push (socket : PushSocket)
  | dealer (socket : DealerSocket)
  | inbox (socket : InboxSocket)
  /-- To an element of this name that takes no messages. -/
  | refusing (element : String)
  deriving DecidableEq, Repr

structure Connection where
  links : List Link
  deriving DecidableEq, Repr

namespace Link

/-- Sends a message; `none` while it has to wait. -/
def send (link : Link) (m : Message) (net : Network) : Option (Except Error Unit × Network) :=
  match link with
  | refusing element => some (.error (Violation.oneWay element m.kind), net)
  | inbox socket => socket.send m net
  | push socket =>
    match m.toFrames with
    | .error cause => some (.error cause, net)
    | .ok frames =>
      match socket.send frames net with
      | .blocked => none
      | .failed cause => some (.error cause, net)
      | .done () net => some (.ok (), net)
  | dealer socket =>
    match m.toFrames with
    | .error cause => some (.error cause, net)
    | .ok frames =>
      match socket.send frames net with
      | .blocked => none
      | .failed cause => some (.error cause, net)
      | .done () net => some (.ok (), net)

def close (link : Link) (net : Network) : Network :=
  match link with
  | push socket => socket.close net
  | dealer socket => socket.close net
  | inbox _ => net
  | refusing _ => net

end Link

namespace Connection

def close (connection : Connection) (net : Network) : Network :=
  connection.links.foldl (fun net link => link.close net) net

/-- What is left of sending a message. -/
structure Sending where
  message : Message
  links : List Link
  /-- Whether a link has taken the message. -/
  delivered : Bool := false
  lastError : Option Error := none
  deriving DecidableEq, Repr

def send (connection : Connection) (m : Message) : Sending where
  message := m
  links := connection.links

def Sending.step (s : Sending) (net : Network) : Progress Sending Unit × Network :=
  match s.links with
  | [] =>
    match s.delivered, s.lastError with
    | false, some cause => (.finished (.error cause), net)
    | _, _ => (.finished (.ok ()), net)
  | link :: links =>
    match link.send s.message net with
    | none => (.waiting none, net)
    | some (.ok (), net) => (.working { s with links, delivered := true }, net)
    | some (.error cause, net) => (.working { s with links, lastError := some cause }, net)

end Connection

structure Opening where
  routes : List Route
  /-- The links opened so far, newest first. -/
  opened : List Link := []
  lastError : Option Error := none
  /-- The moment up to which the first route may wait for its address. -/
  deadline : Option Nat := none
  /-- The identity under which the first route connects, if it needs one. -/
  identity : Option ClientId := none
  deriving DecidableEq, Repr

def Connector.open (connector : Connector) : Opening where
  routes := connector.routes

namespace Opening

def opens (s : Opening) (routes : List Route) (link : Link) : Opening where
  routes
  opened := link :: s.opened
  lastError := s.lastError

def skips (s : Opening) (routes : List Route) (cause : Error) : Opening where
  routes
  opened := s.opened
  lastError := some cause

def step (s : Opening) (net : Network) : Progress Opening Connection × Network :=
  match s.routes with
  | [] =>
    match s.opened, s.lastError with
    | [], some cause => (.finished (.error cause), net)
    | opened, _ => (.finished (.ok ⟨opened.reverse⟩), net)
  | .nowhere :: routes =>
    (.working (s.skips routes (.notConnected "no element channels")), net)
  | .inbox number :: routes => (.working (s.opens routes (.inbox ⟨number⟩)), net)
  | .push uri :: routes =>
    let deadline := s.deadline.getD (net.now + net.limits.connectTimeout)
    match (PushSocket.connect net uri).orNotBound uri (deadline ≤ net.now) with
    | .blocked =>
      if s.deadline.isSome then (.waiting (some deadline), net)
      else (.working { s with deadline := some deadline }, net)
    | .failed cause => (.working (s.skips routes cause), net)
    | .done socket net => (.working (s.opens routes (.push socket)), net)
  | .dealer uri :: routes =>
    match s.identity with
    | none =>
      -- A number of its own keeps the connection apart from the clients of the element.
      let (identity, net) := net.freshIdentity
      (.working { s with identity := some identity }, net)
    | some identity =>
      let deadline := s.deadline.getD (net.now + net.limits.connectTimeout)
      match (DealerSocket.connect net uri identity).orNotBound uri (deadline ≤ net.now) with
      | .blocked =>
        if s.deadline.isSome then (.waiting (some deadline), net)
        else (.working { s with deadline := some deadline }, net)
      | .failed cause => (.working (s.skips routes cause), net)
      | .done socket net => (.working (s.opens routes (.dealer socket)), net)

end Opening

/-- What is left of opening a connector for a single message. -/
inductive Asking where
  | opening (rest : Opening) (m : Message)
  | sending (connection : Connection) (rest : Connection.Sending)
  deriving DecidableEq, Repr

namespace Asking

def start (connector : Connector) (m : Message) : Asking := .opening connector.open m

/-- Opens further, or sends further. What goes wrong is not reported. -/
def step : Asking → Network → Progress Asking Unit × Network
  | .opening rest m, net =>
    match rest.step net with
    | (.waiting until?, net) => (.waiting until?, net)
    | (.working rest, net) => (.working (.opening rest m), net)
    | (.finished (.ok connection), net) => (.working (.sending connection (connection.send m)), net)
    | (.finished (.error _), net) => (.finished (.ok ()), net)
    | (.panicked, net) => (.panicked, net)
  | .sending connection rest, net =>
    match rest.step net with
    | (.waiting until?, net) => (.waiting until?, net)
    | (.working rest, net) => (.working (.sending connection rest), net)
    | (.finished _, net) => (.finished (.ok ()), connection.close net)
    | (.panicked, net) => (.panicked, net)

end Asking

end RecordFarm
