import RecordFarm.Message
/-!
# The fan-out queue

The queue decides which client gets which message. It knows no transport: each operation gives
the deliveries that are now due.

* A message goes to the oldest waiting request, one message for each request.
* A barrier goes to every registered client once. While it is in progress, the request of a client
  that does not have it is answered with it, and the request of one that has it is deferred. When
  every registered client has it, the deferred requests wait again.
* The end of the stream has to be the last message. When it is reached the queue runs down: from
  then on every request is answered with the end.
-/

namespace RecordFarm

namespace Fanout

/-- A message that is due to a client. -/
abbrev Delivery := ClientId × Message

structure Barrier where
  message : Message
  /-- The clients that have it. -/
  served : List ClientId
  /-- Requests to be looked at again afterwards, oldest first. -/
  deferred : List ClientId
  deriving DecidableEq, Repr

/-- Answers requests while the barrier is in progress. -/
def Barrier.serve : Barrier → List ClientId → List Delivery × Barrier
  | b, [] => ([], b)
  | b, id :: rest =>
    if id ∈ b.served then
      Barrier.serve { b with deferred := b.deferred ++ [id] } rest
    else
      let (due, after) := Barrier.serve { b with served := id :: b.served } rest
      ((id, b.message) :: due, after)

/-- Whether each of these clients has the barrier. -/
def Barrier.isComplete (b : Barrier) (clients : List ClientId) : Bool :=
  clients.all fun id => id ∈ b.served

/-- Messages on their way to clients that ask for them. -/
structure Queue where
  /-- Messages not yet delivered, oldest first. -/
  messages : List Message := []
  /-- Requests not yet answered, oldest first. -/
  waiting : List ClientId := []
  /-- The registered clients. -/
  clients : List ClientId := []
  /-- Every client that ever registered. -/
  seen : List ClientId := []
  /-- So many clients have to come before the queue counts as drained. -/
  expected : Nat := 0
  /-- The barrier in progress. -/
  barrier : Option Barrier := none
  /-- Whether the end of the stream was reached. -/
  rundown : Bool := false
  /-- Which messages are barriers. -/
  isBarrier : Message → Bool := fun m => m.kind == .barrier

namespace Queue

inductive Round where
  /-- Nothing can be done. -/
  | idle
  /-- Deliveries are due. -/
  | served (due : List Delivery) (after : Queue)
  /-- The end of the stream was reached, but it was not the last message. -/
  | misplacedEnd (after : Queue)

/-- The next thing to be done for the waiting requests. -/
def round (q : Queue) : Round :=
  if q.rundown then
    match q.waiting with
    | [] => .idle
    | waiting => .served (waiting.map fun id => (id, .endOfStream)) { q with waiting := [] }
  else
    match q.barrier with
    | some barrier =>
      let (due, barrier) := barrier.serve q.waiting
      if barrier.isComplete q.clients then
        .served due { q with barrier := none, waiting := barrier.deferred }
      else
        match q.waiting with
        | [] => .idle
        | _ => .served due { q with barrier := some barrier, waiting := [] }
    | none =>
      match q.messages, q.waiting with
      | [], _ => .idle
      | _, [] => .idle
      | m :: messages, id :: waiting =>
        if m.isEnd then
          if messages.isEmpty then .served [] { q with messages, rundown := true }
          else .misplacedEnd { q with messages }
        else
          let barrier := if q.isBarrier m then some ⟨m, [id], []⟩ else none
          .served [(id, m)] { q with messages, waiting, barrier }

/-- A bound on the rounds that are left: each one uses up a message, a barrier or the waiting
requests. -/
def load (q : Queue) : Nat :=
  4 * q.messages.length + 2 * q.barrier.toList.length + min 1 q.waiting.length

/-- A round that is served lightens the queue, which is what ends the service. -/
theorem round_decreases {q after : Queue} {due : List Delivery} (h : q.round = .served due after) :
    after.load < q.load := by
  unfold round at h
  cases hwaiting : q.waiting <;> simp only [hwaiting] at h
  all_goals repeat' split at h
  all_goals simp only [reduceCtorEq, Round.served.injEq] at h
  all_goals obtain ⟨_, rfl⟩ := h
  all_goals simp_all only [load, List.length_nil, List.length_cons, Option.toList_some,
    Option.toList_none]
  all_goals omega

/-- Does all that can be done, behind the deliveries that are due already. -/
def serve (q : Queue) (due : List Delivery) : Except Violation (List Delivery) × Queue :=
  match _h : q.round with
  | .idle => (.ok due, q)
  | .served more after => serve after (due ++ more)
  | .misplacedEnd after => (.error (.endNotLast after.messages.length due.length), after)
termination_by q.load
decreasing_by exact round_decreases _h

def flush (q : Queue) : Except Violation (List Delivery) × Queue := q.serve []

/-- Queues a message. After the end of the stream nothing can be sent. -/
def send (q : Queue) (m : Message) : Except Violation (List Delivery) × Queue :=
  if q.rundown then (.error (.afterEnd m.kind), q)
  else flush { q with messages := q.messages ++ [m] }

def request (q : Queue) (id : ClientId) : Except Violation (List Delivery) × Queue :=
  flush { q with waiting := q.waiting ++ [id] }

def register (q : Queue) (id : ClientId) : Queue :=
  { q with seen := q.seen.insert id, clients := q.clients.insert id }

/-- A client goes, and its requests with it. This may complete a barrier. -/
def unregister (q : Queue) (id : ClientId) : Except Violation (List Delivery) × Queue :=
  let others := fun other : ClientId => decide (other ≠ id)
  flush
    { q with
      clients := q.clients.filter others
      waiting := q.waiting.filter others
      barrier := q.barrier.map fun b => { b with deferred := b.deferred.filter others } }

def isRegistered (q : Queue) (id : ClientId) : Bool := id ∈ q.clients

/-- Whether the queue owes nothing to anybody: it runs down, everyone who was expected has come,
and everyone has gone. -/
def isDrained (q : Queue) : Bool :=
  q.rundown && q.clients.isEmpty && decide (q.expected ≤ q.seen.length)

/-- The number of requests that have no answer yet. -/
def pendingRequests (q : Queue) : Nat :=
  q.waiting.length + (q.barrier.map fun b => b.deferred.length).getD 0

end Queue

end Fanout

end RecordFarm
