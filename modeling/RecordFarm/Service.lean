import RecordFarm.Message
/-!
# Calls that take several steps

An element, and everything it is made of, serves calls one after the other. A call may have to
wait for others, so it is served in steps, between which anybody else may move. What is left of a
call is a value, its *task*: a step takes the task, the server's own state and the world that it
shares with the others, and says how far it got.

* `Service`: a server as a pair of functions.
* `SourceCall`, `SinkCall`: what an element asks of the source that feeds it and of the sink that
  it feeds.
-/

namespace RecordFarm

inductive Progress (τ α : Type) where
  /-- Nothing can be done before others have moved, or before this moment if there is one. -/
  | waiting (until? : Option Nat)
  /-- Something was done and this is left. -/
  | working (rest : τ)
  /-- The call is answered. -/
  | finished (result : Except Error α)
  /-- The server broke down. -/
  | panicked
  deriving Repr

namespace Progress

variable {τ τ' α : Type}

/-- Reads what is left as a part of a larger task. -/
def mapTask (f : τ → τ') : Progress τ α → Progress τ' α
  | waiting until? => waiting until?
  | working rest => working (f rest)
  | finished result => finished result
  | panicked => panicked

end Progress

/-- A server: `κ` are the calls, `τ` the tasks, `α` the answers, `σ` the states of the server and
`ω` those of the world around it. A step that waits changes nothing. -/
structure Service (ω κ σ τ α : Type) where
  start : κ → τ
  step : τ → σ → ω → Progress τ α × σ × ω

/-- The answer of a source or a sink, if the call asks for one. -/
abbrev Reply := Option Message

inductive SourceCall where
  | connect
  | disconnect
  /-- The next message; waits for it. -/
  | next
  /-- A peer announced itself through this source. -/
  | register (id : ClientId)
  /-- A peer withdrew through this source. -/
  | unregister (id : ClientId)
  /-- The source is given up: it lets go of all it holds. -/
  | release
  deriving DecidableEq, Repr

inductive SinkCall where
  | connect
  | disconnect
  | send (m : Message)
  /-- The next message of a peer, if there is one already. -/
  | poll
  /-- The next message of a peer; waits for it. -/
  | get
  /-- A client asks for an item. -/
  | request (id : ClientId)
  | register (id : ClientId)
  | unregister (id : ClientId)
  /-- The sink is given up: it lets go of all it holds. -/
  | release
  deriving DecidableEq, Repr

/-- A way to an element, to be opened when it is needed. -/
inductive Route where
  /-- To the bound reading end of a pipe. -/
  | push (uri : String)
  /-- To a router. -/
  | dealer (uri : String)
  /-- To an inbox. -/
  | inbox (number : Nat)
  /-- To nobody. -/
  | nowhere
  deriving DecidableEq, Repr

structure Connector where
  routes : List Route
  deriving DecidableEq, Repr

/-- The connector of several connectors. It leads nowhere if there are none. -/
def Connector.all (connectors : List Connector) : Connector :=
  match connectors.flatMap Connector.routes with
  | [] => ⟨[.nowhere]⟩
  | routes => ⟨routes⟩

/-- A source of messages, which feeds an element. -/
structure Source (ω σ τ : Type) extends Service ω SourceCall σ τ Reply where
  /-- How another thread reaches the source, if it can. -/
  connector? : σ → Option Connector

/-- A sink of messages, which an element feeds. -/
structure Sink (ω σ τ : Type) extends Service ω SinkCall σ τ Reply where
  connector? : σ → Option Connector
  /-- Whether the sink takes more input, rather than serve its peers. -/
  wantsInput : σ → ω → Bool × σ × ω
  /-- Whether the sink owes nothing to its peers. -/
  isDrained : σ → ω → Bool

/-- The answer of a source that has no use for a call about its peers. -/
def SourceCall.ignored : Except Error Reply := .ok none

/-- The answer of a sink without peers to a call about them. -/
def SinkCall.refused : SinkCall → Except Error Reply
  | get => .error Violation.noPeerMessages
  | request id => .error (Violation.noPullRequests id)
  | register id => .error (Violation.noRegistrations id)
  | unregister id => .error (Violation.noUnregistrations id)
  | _ => .ok none

end RecordFarm
