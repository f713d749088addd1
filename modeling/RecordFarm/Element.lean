import RecordFarm.Service
/-!
# Elements

An element runs a strategy on a thread of its own. It connects the source and then the sink;
fetches messages and hands each one to the hook for its kind until a hook stops it, a call fails,
or an exit request has been handled; disconnects the sink and then the source, whatever happened
before; and at last lets go of everything. The first error counts.

The states of an element are the calls that it is in the middle of. `Element.step` is one step of
its thread.
-/

namespace RecordFarm

/-- The part of a strategy that handles a kind of message. -/
inductive Hook where
  | process
  | register
  | unregister
  | endOfStream
  | exit
  | dataRequest
  | other
  deriving DecidableEq, Repr

def Kind.hook : Kind → Hook
  | process => .process
  | registration => .register
  | unregistration => .unregister
  | endOfStream => .endOfStream
  | exitRequest => .exit
  | dataRequest => .dataRequest
  | _ => .other

/-- What a strategy without a hook of its own does with a message: one of an unknown kind is passed
on to the sink, and so is a barrier; anything else is left alone. -/
def Hook.forwarded? (hook : Hook) (m : Message) : Option Message :=
  if hook = .other ∧ m.kind ≠ .ignore then some m else none

/-- What an element asks of its strategy. -/
inductive HookCall where
  | connectSource
  | connectSink
  | disconnectSink
  | disconnectSource
  /-- The next message; waits for it. -/
  | fetch
  /-- Hands a message to the sink. -/
  | send (m : Message)
  /-- Handles a message. The hook also learns whether the element is to go on. -/
  | dispatch (hook : Hook) (m : Message) (running : Bool)
  /-- The strategy is given up: it lets go of all it holds. -/
  | release
  deriving DecidableEq, Repr

structure HookReply where
  /-- The message that was fetched. -/
  message : Message := .ignore
  /-- Whether the element is to stop. -/
  stop : Bool := false
  deriving DecidableEq, Repr

/-- What an element does, hook by hook. -/
structure Strategy (ω σ τ : Type) extends Service ω HookCall σ τ HookReply where
  name : σ → String
  /-- How another thread reaches the element, if it can. -/
  connector? : σ → Option Connector

inductive Lifecycle where
  | created
  | running
  | draining
  | terminated
  deriving DecidableEq, Repr

def Lifecycle.text : Lifecycle → String
  | created => "Created"
  | running => "Running"
  | draining => "Draining"
  | terminated => "Terminated"

/-- Whether an element can still be asked to exit. -/
def Lifecycle.isLive : Lifecycle → Bool
  | created => true
  | running => true
  | _ => false

/-- How many messages of each kind an element has fetched. -/
structure Stats where
  process : Nat := 0
  registrations : Nat := 0
  unregistrations : Nat := 0
  ends : Nat := 0
  exits : Nat := 0
  dataRequests : Nat := 0
  other : Nat := 0
  deriving DecidableEq, Repr

namespace Stats

def record (stats : Stats) (kind : Kind) : Stats :=
  match kind.hook with
  | .process => { stats with process := stats.process + 1 }
  | .register => { stats with registrations := stats.registrations + 1 }
  | .unregister => { stats with unregistrations := stats.unregistrations + 1 }
  | .endOfStream => { stats with ends := stats.ends + 1 }
  | .exit => { stats with exits := stats.exits + 1 }
  | .dataRequest => { stats with dataRequests := stats.dataRequests + 1 }
  | .other => { stats with other := stats.other + 1 }

def total (stats : Stats) : Nat :=
  stats.process + stats.registrations + stats.unregistrations + stats.ends + stats.exits +
    stats.dataRequests + stats.other

end Stats

inductive Outcome where
  | returned (result : Except Error Stats)
  | panicked

instance : DecidableEq Outcome
  | .returned (.ok s), .returned (.ok t) => decidable_of_iff (s = t) (by simp)
  | .returned (.error e), .returned (.error f) => decidable_of_iff (e = f) (by simp)
  | .panicked, .panicked => .isTrue rfl
  | .returned (.ok _), .returned (.error _) => .isFalse nofun
  | .returned (.error _), .returned (.ok _) => .isFalse nofun
  | .returned _, .panicked => .isFalse nofun
  | .panicked, .returned _ => .isFalse nofun

/-- What an element is in the middle of. -/
inductive Phase (τ : Type) where
  | created
  | connectingSource (task : τ)
  | connectingSink (task : τ)
  | fetching (task : τ)
  | dispatching (m : Message) (task : τ)
  /-- The first failure, if there was one, is kept. -/
  | disconnectingSink (failure : Option Error) (task : τ)
  | disconnectingSource (failure : Option Error) (task : τ)
  | releasing (outcome : Outcome) (task : τ)
  | over (outcome : Outcome)
  deriving DecidableEq

structure Element (σ τ : Type) where
  strategy : σ
  phase : Phase τ := .created
  lifecycle : Lifecycle := .created
  stats : Stats := {}

inductive Turn where
  /-- Nothing can be done before others have moved, or before this moment if there is one. -/
  | waiting (until? : Option Nat)
  | moved
  /-- There is nothing left to do. -/
  | over
  deriving DecidableEq, Repr

namespace Element

variable {ω σ τ : Type}

abbrev Stepped (ω σ τ : Type) := Turn × Element σ τ × ω

/-- The failure in an answer, unless there was one before. -/
def firstFailure {α : Type} (before : Option Error) : Except Error α → Option Error
  | .ok _ => before
  | .error cause => some (before.getD cause)

def drain (S : Strategy ω σ τ) (failure : Option Error) (e : Element σ τ) : Element σ τ :=
  { e with
    phase := .disconnectingSink failure (S.start .disconnectSink)
    lifecycle := .draining }

def release (S : Strategy ω σ τ) (outcome : Outcome) (e : Element σ τ) : Element σ τ :=
  { e with phase := .releasing outcome (S.start .release) }

def fetch (S : Strategy ω σ τ) (e : Element σ τ) : Element σ τ :=
  { e with phase := .fetching (S.start .fetch) }

def dispatch (S : Strategy ω σ τ) (m : Message) (e : Element σ τ) : Element σ τ :=
  { e with
    phase := .dispatching m (S.start (.dispatch m.kind.hook m (m.kind != .exitRequest)))
    stats := e.stats.record m.kind }

/-- Takes a step of the call that the element is in. `again` puts what is left of the call back,
`andThen` goes on from the answer. -/
def advance (S : Strategy ω σ τ) (e : Element σ τ) (w : ω) (task : τ) (again : τ → Phase τ)
    (andThen : Except Error HookReply → Element σ τ → Element σ τ) : Stepped ω σ τ :=
  match S.step task e.strategy w with
  | (.waiting until?, strategy, w) => (.waiting until?, { e with strategy }, w)
  | (.working rest, strategy, w) => (.moved, { e with strategy, phase := again rest }, w)
  | (.finished result, strategy, w) => (.moved, andThen result { e with strategy }, w)
  | (.panicked, strategy, w) => (.moved, release S .panicked { e with strategy }, w)

def step (S : Strategy ω σ τ) (e : Element σ τ) (w : ω) : Stepped ω σ τ :=
  match e.phase with
  | .created =>
    (.moved,
      { e with phase := .connectingSource (S.start .connectSource), lifecycle := .running }, w)
  | .connectingSource task =>
    advance S e w task .connectingSource fun
      | .ok _, e => { e with phase := .connectingSink (S.start .connectSink) }
      | .error cause, e => drain S (some cause) e
  | .connectingSink task =>
    advance S e w task .connectingSink fun
      | .ok _, e => fetch S e
      | .error cause, e => drain S (some cause) e
  | .fetching task =>
    advance S e w task .fetching fun
      | .ok reply, e => dispatch S reply.message e
      | .error cause, e => drain S (some cause) e
  | .dispatching m task =>
    advance S e w task (.dispatching m) fun
      | .ok reply, e =>
        if reply.stop || m.kind == .exitRequest then drain S none e else fetch S e
      | .error cause, e => drain S (some cause) e
  | .disconnectingSink failure task =>
    advance S e w task (.disconnectingSink failure) fun result e =>
      { e with
        phase := .disconnectingSource (firstFailure failure result) (S.start .disconnectSource) }
  | .disconnectingSource failure task =>
    advance S e w task (.disconnectingSource failure) fun result e =>
      let outcome := match firstFailure failure result with
        | some cause => .error cause
        | none => .ok e.stats
      { release S (.returned outcome) e with lifecycle := .terminated }
  | .releasing outcome task =>
    match S.step task e.strategy w with
    | (.waiting until?, strategy, w) => (.waiting until?, { e with strategy }, w)
    | (.working rest, strategy, w) =>
      (.moved, { e with strategy, phase := .releasing outcome rest }, w)
    | (_, strategy, w) => (.moved, { e with strategy, phase := .over outcome }, w)
  | .over _ => (.over, e, w)

/-- Takes up to so many steps, as long as nobody else is needed. -/
def run (S : Strategy ω σ τ) : Nat → Element σ τ → ω → Element σ τ × ω
  | 0, e, w => (e, w)
  | fuel + 1, e, w =>
    match e.step S w with
    | (.moved, e, w) => run S fuel e w
    | (_, e, w) => (e, w)

def outcome? (e : Element σ τ) : Option Outcome :=
  match e.phase with
  | .over outcome => some outcome
  | _ => none

end Element

/-- What is learned from joining the thread of an element. -/
def Outcome.join (name : String) : Outcome → Except Error Stats
  | returned result => result
  | panicked => .error (.panicked name)

end RecordFarm
