import RecordFarm.Message
import RecordFarm.Wire
/-!
# The network inside a process

All sockets of a process share one network: a registry of bound addresses, and the queues behind
them. A socket holds the number of its queue and never an address, so a queue outlives its
address: who is connected to an endpoint keeps speaking to that endpoint, also when the address
is bound again.

* A *router* takes requests from many dealers and answers each one by its identity, through the
  mailbox that was connected last under that identity.
* A *pipe* goes one way. Either its reading end is bound and many push into it, or its writing end
  is bound and whoever comes first takes the next frames.
* An *inbox* is a queue of messages for one reader, who has no address.

Every queue is bounded. The network also keeps the time and hands out identities.
-/

namespace RecordFarm

/-- A row of frames that waits to be received. -/
abbrev Mailbox := List Frames

/-- An endpoint that answers by identity. -/
structure Router where
  uri : String
  /-- Requests with the identity of who sent them, oldest first. -/
  inbound : List (ClientId × Frames) := []
  /-- Answers, one mailbox for each dealer that ever connected. -/
  mailboxes : List Mailbox := []
  /-- The mailbox of each connected identity. -/
  peers : List (ClientId × Nat) := []
  isOpen : Bool := true
  deriving DecidableEq, Repr

/-- An endpoint that goes one way. -/
structure Pipe where
  uri : String
  queue : Mailbox := []
  /-- Whether the socket that bound it lives. -/
  isOpen : Bool := true
  deriving DecidableEq, Repr

/-- A queue of messages for one reader. -/
structure Inbox where
  capacity : Nat
  queue : List Message := []
  isOpen : Bool := true
  deriving DecidableEq, Repr

inductive Endpoint where
  | router (number : Nat)
  /-- A pipe whose reading end is bound. -/
  | pull (number : Nat)
  /-- A pipe whose writing end is bound. -/
  | push (number : Nat)
  deriving DecidableEq, Repr

def Endpoint.role : Endpoint → String
  | router _ => "router"
  | pull _ => "pull"
  | push _ => "push"

/-- Sizes and times, the times in milliseconds. -/
structure Limits where
  /-- How many rows of frames a queue holds. -/
  capacity : Nat
  /-- How long connecting waits for the address to be bound. -/
  connectTimeout : Nat
  /-- How long a closing push endpoint waits for the next frames to be taken. -/
  linger : Nat
  deriving DecidableEq, Repr

structure Network where
  limits : Limits
  /-- The bound addresses. -/
  bound : List (String × Endpoint) := []
  routers : List Router := []
  pipes : List Pipe := []
  inboxes : List Inbox := []
  /-- Milliseconds since the start. -/
  now : Nat := 0
  /-- How many identities were handed out. -/
  identities : Nat := 0
  deriving DecidableEq, Repr

/-- What trying to use a socket comes to. Only success changes the network. -/
inductive Attempt (α : Type) where
  /-- It has to wait until somebody else does something. -/
  | blocked
  | failed (cause : TransportError)
  | done (result : α) (after : Network)

/-- Gives up waiting for an address when its time is over. -/
def Attempt.orNotBound {α : Type} (attempt : Attempt α) (uri : String) (timeIsOver : Bool) :
    Attempt α :=
  match attempt with
  | blocked => if timeIsOver then failed (.notBound uri) else blocked
  | other => other

namespace Network

/-- Whether one more entry fits into a queue. Even the smallest queue has room for one. -/
def hasRoom (queued capacity : Nat) : Bool := queued < max capacity 1

def lookup (net : Network) (uri : String) : Option Endpoint := net.bound.lookup uri

def isBound (net : Network) (uri : String) : Bool := (net.lookup uri).isSome

def unbind (net : Network) (uri : String) : Network :=
  { net with bound := net.bound.filter fun entry => entry.1 != uri }

def modifyRouter (net : Network) (number : Nat) (change : Router → Router) : Network :=
  { net with routers := net.routers.modify number change }

def modifyPipe (net : Network) (number : Nat) (change : Pipe → Pipe) : Network :=
  { net with pipes := net.pipes.modify number change }

def modifyInbox (net : Network) (number : Nat) (change : Inbox → Inbox) : Network :=
  { net with inboxes := net.inboxes.modify number change }

/-- Handed-out identities are counted from here, far from numbers that people choose. -/
def firstIdentity : Nat := 0x8000000000000000

def freshIdentity (net : Network) : ClientId × Network :=
  (⟨UInt64.ofNat (firstIdentity + net.identities)⟩, { net with identities := net.identities + 1 })

def waitUntil (net : Network) (moment : Nat) : Network := { net with now := max net.now moment }

end Network

/-! ### Routers and dealers -/

/-- The bound end of a router. -/
structure RouterSocket where
  number : Nat
  uri : String
  deriving DecidableEq, Repr

namespace RouterSocket

def bind (net : Network) (uri : String) : Attempt RouterSocket :=
  if net.isBound uri then .failed (.addressInUse uri)
  else
    let number := net.routers.length
    .done ⟨number, uri⟩
      { net with
        bound := (uri, .router number) :: net.bound
        routers := net.routers ++ [{ uri }] }

/-- The next request, with the identity of who sent it. -/
def recv (socket : RouterSocket) (net : Network) : Attempt (ClientId × Frames) :=
  match net.routers[socket.number]? with
  | none => .failed (.disconnected socket.uri)
  | some router =>
    match router.inbound with
    | [] => .blocked
    | request :: inbound =>
      .done request (net.modifyRouter socket.number fun router => { router with inbound })

/-- Puts frames into the mailbox of an identity. When there is no room, whoever sends tries again
later and looks the identity up anew each time. It makes a difference to one who would keep the
mailbox that was found first only if the identity connects again while the mailbox is full: the
frames then go to the new connection. -/
def sendTo (socket : RouterSocket) (id : ClientId) (frames : Frames) (net : Network) :
    Attempt Unit :=
  match net.routers[socket.number]? with
  | none => .failed (.unknownPeer id)
  | some router =>
    match router.peers.lookup id with
    | none => .failed (.unknownPeer id)
    | some mailbox =>
      match router.mailboxes[mailbox]? with
      | none => .failed (.unknownPeer id)
      | some waiting =>
        if Network.hasRoom waiting.length net.limits.capacity then
          .done () (net.modifyRouter socket.number fun router =>
            { router with mailboxes := router.mailboxes.modify mailbox (· ++ [frames]) })
        else .blocked

def peerCount (socket : RouterSocket) (net : Network) : Nat :=
  match net.routers[socket.number]? with
  | none => 0
  | some router => router.peers.length

/-- Frees the address and lets go of all dealers. -/
def close (socket : RouterSocket) (net : Network) : Network :=
  (net.modifyRouter socket.number fun router =>
    { router with inbound := [], peers := [], isOpen := false }).unbind socket.uri

end RouterSocket

/-- A client's end of a router. -/
structure DealerSocket where
  /-- The router it is connected to. -/
  number : Nat
  mailbox : Nat
  identity : ClientId
  uri : String
  deriving DecidableEq, Repr

namespace DealerSocket

/-- Connects under an identity. A dealer that is connected under it already gets no more
answers. Blocks while nothing is bound at the address. -/
def connect (net : Network) (uri : String) (identity : ClientId) : Attempt DealerSocket :=
  match net.lookup uri with
  | none => .blocked
  | some (.router number) =>
    match net.routers[number]? with
    | none => .blocked
    | some router =>
      let mailbox := router.mailboxes.length
      .done ⟨number, mailbox, identity, uri⟩ (net.modifyRouter number fun router =>
        { router with
          mailboxes := router.mailboxes ++ [[]]
          peers := (identity, mailbox) :: router.peers.filter fun peer => peer.1 ≠ identity })
  | some other => .failed (.roleMismatch uri "router" other.role)

def send (socket : DealerSocket) (frames : Frames) (net : Network) : Attempt Unit :=
  match net.routers[socket.number]? with
  | none => .failed (.disconnected socket.uri)
  | some router =>
    if !router.isOpen then .failed (.disconnected socket.uri)
    else if Network.hasRoom router.inbound.length net.limits.capacity then
      .done () (net.modifyRouter socket.number fun router =>
        { router with inbound := router.inbound ++ [(socket.identity, frames)] })
    else .blocked

/-- The next answer. Answers that have arrived are not lost when the connection is. -/
def recv (socket : DealerSocket) (net : Network) : Attempt Frames :=
  match net.routers[socket.number]? with
  | none => .failed (.disconnected socket.uri)
  | some router =>
    match router.mailboxes[socket.mailbox]? with
    | some (frames :: _) =>
      .done frames (net.modifyRouter socket.number fun router =>
        { router with mailboxes := router.mailboxes.modify socket.mailbox List.tail })
    | _ =>
      if router.peers.any fun peer => peer.2 == socket.mailbox then .blocked
      else .failed (.disconnected socket.uri)

/-- Takes the identity off the router. -/
def close (socket : DealerSocket) (net : Network) : Network :=
  net.modifyRouter socket.number fun router =>
    { router with peers := router.peers.filter fun peer => peer.1 ≠ socket.identity }

end DealerSocket

/-! ### Pushing and pulling -/

/-- The reading end of a pipe. -/
structure PullSocket where
  number : Nat
  uri : String
  /-- Whether this end was bound, and not connected. -/
  isBinder : Bool
  deriving DecidableEq, Repr

/-- The writing end of a pipe. -/
structure PushSocket where
  number : Nat
  uri : String
  /-- Whether this end was bound, and not connected. -/
  isBinder : Bool
  deriving DecidableEq, Repr

/-- The next frames of a pipe, or the word that nobody writes into it any more. -/
def Pipe.recv (pipe : Pipe) (number : Nat) (net : Network) : Attempt Frames :=
  match pipe.queue with
  | frames :: queue => .done frames (net.modifyPipe number fun pipe => { pipe with queue })
  | [] => if pipe.isOpen then .blocked else .failed (.disconnected pipe.uri)

/-- Puts frames into a pipe that somebody may still read. -/
def Pipe.send (pipe : Pipe) (number : Nat) (frames : Frames) (net : Network) : Attempt Unit :=
  if !pipe.isOpen then .failed (.disconnected pipe.uri)
  else if Network.hasRoom pipe.queue.length net.limits.capacity then
    .done () (net.modifyPipe number fun pipe => { pipe with queue := pipe.queue ++ [frames] })
  else .blocked

namespace PullSocket

def bind (net : Network) (uri : String) : Attempt PullSocket :=
  if net.isBound uri then .failed (.addressInUse uri)
  else
    let number := net.pipes.length
    .done ⟨number, uri, true⟩
      { net with
        bound := (uri, .pull number) :: net.bound
        pipes := net.pipes ++ [{ uri }] }

/-- Connects to a bound writing end. Blocks while nothing is bound at the address. -/
def connect (net : Network) (uri : String) : Attempt PullSocket :=
  match net.lookup uri with
  | none => .blocked
  | some (.push number) => .done ⟨number, uri, false⟩ net
  | some other => .failed (.roleMismatch uri "push" other.role)

def recv (socket : PullSocket) (net : Network) : Attempt Frames :=
  match net.pipes[socket.number]? with
  | none => .failed (.disconnected socket.uri)
  | some pipe => pipe.recv socket.number net

/-- Gives up reading. If this end was bound, the address is free again. Nobody can read then what
is left in the pipe, but those who write into it still see it queued. -/
def close (socket : PullSocket) (net : Network) : Network :=
  if socket.isBinder then
    (net.modifyPipe socket.number fun pipe => { pipe with isOpen := false }).unbind socket.uri
  else net

end PullSocket

namespace PushSocket

def bind (net : Network) (uri : String) : Attempt PushSocket :=
  if net.isBound uri then .failed (.addressInUse uri)
  else
    let number := net.pipes.length
    .done ⟨number, uri, true⟩
      { net with
        bound := (uri, .push number) :: net.bound
        pipes := net.pipes ++ [{ uri }] }

def connect (net : Network) (uri : String) : Attempt PushSocket :=
  match net.lookup uri with
  | none => .blocked
  | some (.pull number) => .done ⟨number, uri, false⟩ net
  | some other => .failed (.roleMismatch uri "pull" other.role)

def send (socket : PushSocket) (frames : Frames) (net : Network) : Attempt Unit :=
  match net.pipes[socket.number]? with
  | none => .failed (.disconnected socket.uri)
  | some pipe => pipe.send socket.number frames net

def queued (socket : PushSocket) (net : Network) : Nat :=
  match net.pipes[socket.number]? with
  | none => 0
  | some pipe => pipe.queue.length

/-- How many rows of frames a closing socket still sees queued, and how long they may stay so. -/
structure Lingering where
  left : Nat
  deadline : Nat
  deriving DecidableEq, Repr

def linger (socket : PushSocket) (patience : Nat) (net : Network) : Lingering where
  left := socket.queued net
  deadline := net.now + patience

/-- Goes on waiting: nothing once the waiting is over, because everything was taken or because
nothing was for too long. -/
def Lingering.next? (l : Lingering) (socket : PushSocket) (patience : Nat) (net : Network) :
    Option Lingering :=
  let left := socket.queued net
  if left = 0 then none
  else if left < l.left then some { left, deadline := net.now + patience }
  else if l.deadline ≤ net.now then none
  else some l

/-- Gives up writing. If this end was bound, the address is free again; what was sent can still be
read. -/
def close (socket : PushSocket) (net : Network) : Network :=
  if socket.isBinder then
    (net.modifyPipe socket.number fun pipe => { pipe with isOpen := false }).unbind socket.uri
  else net

end PushSocket

/-! ### Inboxes -/

structure InboxSocket where
  number : Nat
  deriving DecidableEq, Repr

namespace InboxSocket

def new (net : Network) (capacity : Nat) : InboxSocket × Network :=
  (⟨net.inboxes.length⟩, { net with inboxes := net.inboxes ++ [{ capacity }] })

def waiting (socket : InboxSocket) (net : Network) : List Message :=
  match net.inboxes[socket.number]? with
  | none => []
  | some inbox => inbox.queue

def recv (socket : InboxSocket) (net : Network) : Option (Message × Network) :=
  match socket.waiting net with
  | [] => none
  | m :: queue => some (m, net.modifyInbox socket.number fun inbox => { inbox with queue })

/-- Puts a message in; `none` while there is no room for it. -/
def send (socket : InboxSocket) (m : Message) (net : Network) :
    Option (Except Error Unit × Network) :=
  match net.inboxes[socket.number]? with
  | none => some (.error .sendClosed, net)
  | some inbox =>
    if !inbox.isOpen then some (.error .sendClosed, net)
    else if Network.hasRoom inbox.queue.length inbox.capacity then
      some (.ok (), net.modifyInbox socket.number fun inbox =>
        { inbox with queue := inbox.queue ++ [m] })
    else none

def drain (socket : InboxSocket) (net : Network) : Network :=
  net.modifyInbox socket.number fun inbox => { inbox with queue := [] }

/-- Nobody reads the inbox any more. -/
def close (socket : InboxSocket) (net : Network) : Network :=
  net.modifyInbox socket.number fun inbox => { inbox with queue := [], isOpen := false }

end InboxSocket

end RecordFarm
