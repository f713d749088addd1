import RecordFarm.Proofs.Fanout.Calm
import RecordFarm.Proofs.Farm.Runs
import RecordFarm.Proofs.Farm.Stream

/-!
# One step of a distributor

A distributor binds its router and then goes round: it hears what a worker says, or else asks its
source for a message, as long as the source has not ended. What it hears and what it gets goes to
its queue, and what is due then is delivered before anything else happens. When the end is due it
answers its workers without going round, until all of them have left.

`DistView` is what matters of a distributor for the accounts of its farm, `DistAt` says in which
phases what is true of it, and `DistMove` is what a distributor can do to its view and to the
router. A step of a distributor is such a move, or the distributor fails and there is a reason for
it, a `Mishap` (`distributor_step`).
-/

namespace RecordFarm

namespace Farm

open Fanout

/-- What matters of a distributor. -/
structure DistView where
  queue : Queue
  /-- Its router, once it is bound. -/
  socket : Option RouterSocket := none
  /-- What its source yielded. -/
  log : List Message := []
  /-- Whether the end was among it. -/
  ended : Bool := false
  /-- What was yielded and not yet queued. -/
  hand : List Message := []
  /-- The word that was heard and not yet dealt with. -/
  heard : List Message := []
  /-- What is to be delivered before anything else happens. -/
  due : List Delivery := []

structure DistView.Idle (v : DistView) : Prop where
  hand : v.hand = []
  heard : v.heard = []
  due : v.due = []

def DistView.Bound (d : String) (v : DistView) : Prop := ∃ s, v.socket = some s ∧ s.uri = d

/-- A word of a worker: it comes, asks or leaves. -/
inductive Word (known : ClientId → Prop) : Message → Prop where
  | registration {id : ClientId} (h : known id) : Word known (.registration id)
  | dataRequest {id : ClientId} (h : known id) : Word known (.dataRequest id)
  | unregistration {id : ClientId} (h : known id) : Word known (.unregistration id)

inductive Asks (known : ClientId → Prop) : Message → SinkCall → Call → Prop where
  | register {id : ClientId} (h : known id) :
      Asks known (.registration id) (.register id) (.register id)
  | request {id : ClientId} (h : known id) :
      Asks known (.dataRequest id) (.request id) (.request id)
  | unregister {id : ClientId} (h : known id) :
      Asks known (.unregistration id) (.unregister id) (.unregister id)

/-- What a distributor passes on of a message: its records in a new one, if there are any, and any
other message as it is. -/
def passed (m : Message) : List Message :=
  match m.kind with
  | .process => if m.content = [] then [] else [.process m.content]
  | _ => [m]

theorem passed_of_other {m : Message} (h : m.kind ≠ .process) : passed m = [m] := by
  unfold passed
  split
  · contradiction
  · rfl

/-- Passing a message on keeps its content. -/
theorem content_passed {m : Message} (h : m.kind = .process → ∃ records, m.records = .ok records) :
    (passed m).flatMap Message.content = m.content := by
  unfold passed
  split
  · next kind =>
    obtain ⟨records, content⟩ := h kind
    rw [Message.content_of_records kind content]
    split
    · next empty => rw [empty]; rfl
    · rw [List.flatMap_singleton, Message.content_of_records rfl
        (Message.records_process (Message.isWhole_of_records content))]
  · rw [List.flatMap_singleton]

/-- What a source yielded: messages of a kind, and the end last. -/
structure Yielded (fit : Message → Prop) (log : List Message) (ended : Bool) : Prop where
  running : ended = false → ∀ m ∈ log, fit m
  last : ended = true → ∃ items m, log = items ++ [m] ∧ m.isEnd = true ∧ ∀ item ∈ items, fit item

/-- A source that is not at its end yields one message more. -/
theorem Yielded.yield {fit : Message → Prop} {log : List Message} {ended : Bool} {m : Message}
    (yielded : Yielded fit log ended) (running : ended = false)
    (kind : m.isEnd = true ∨ m.isEnd = false ∧ fit m) : Yielded fit (log ++ [m]) m.isEnd := by
  -- The source has not ended before, so all that it yielded before is fit.
  have before := yielded.running running
  constructor
  · intro hrun item hitem
    rcases List.mem_append.1 hitem with hitem | hitem
    · exact before item hitem
    · rw [List.mem_singleton.1 hitem]
      rcases kind with isEnd | ⟨-, fits⟩
      · exact absurd (hrun.symm.trans isEnd) Bool.false_ne_true
      · exact fits
  · exact fun isEnd => ⟨log, m, rfl, isEnd, before⟩

variable {σ τ : Type}

/-- What is true of a distributor in each phase before it goes round: its source, its own router,
where its last message came from, and its view. -/
inductive Opening (d : String) : Phase (Pipeline.Task (SourceCall × τ) Dispenser.Task) → σ →
    Option RouterSocket → Origin → DistView → Prop where
  | created (s : σ) (queue : Queue) : Opening d .created s none .source { queue }
  | beginning (s : σ) (queue : Queue) :
      Opening d (.connectingSource (.begin .connectSource)) s none .source { queue }
  | connecting (task : τ) (s : σ) (queue : Queue) :
      Opening d (.connectingSource (.inSource .plain (.connect, task))) s none .source { queue }
  | joining (s : σ) (queue : Queue) :
      Opening d (.connectingSink (.begin .connectSink)) s none .source { queue }
  | binding (s : σ) (queue : Queue) :
      Opening d (.connectingSink (.inSink .plain (.begin .connect))) s none .source { queue }

inductive Fetching (d : String) :
    Phase (Pipeline.Task (SourceCall × τ) Dispenser.Task) → σ → Option RouterSocket → Origin →
      DistView → Prop where
  | fetching {v : DistView} (s : σ) (o : Origin) (bound : v.Bound d) (idle : v.Idle) :
      Fetching d (.fetching (.begin .fetch)) s v.socket o v
  | polling {v : DistView} (s : σ) (o : Origin) (bound : v.Bound d) (idle : v.Idle)
      (running : v.ended = false) :
      Fetching d (.fetching (.inSink .polled (.begin .poll))) s v.socket o v
  | listening {v : DistView} (s : σ) (bound : v.Bound d) (idle : v.Idle) :
      Fetching d (.fetching (.inSink .fetched (.begin .get))) s v.socket .sink v
  | reading {v : DistView} {task : τ} {s : σ} (o : Origin) (bound : v.Bound d) (idle : v.Idle)
      (running : v.ended = false) :
      Fetching d (.fetching (.inSource .fetched (.next, task))) s v.socket o v

inductive Handling (d : String) (known : ClientId → Prop) (fit : Message → Prop) :
    Phase (Pipeline.Task (SourceCall × τ) Dispenser.Task) → σ → Option RouterSocket → Origin →
      DistView → Prop where
  | meeting {v : DistView} {m : Message} (s : σ) (bound : v.Bound d) (hand : v.hand = [m])
      (quiet : v.heard = []) (free : v.due = []) (kind : m.isEnd = true ∨ fit m) :
      Handling d known fit
        (.dispatching m (.begin (.dispatch m.kind.hook m (m.kind != .exitRequest)))) s v.socket
        .source v
  | queueing {v : DistView} {m next : Message} {use : Pipeline.SinkUse} (s : σ) (bound : v.Bound d)
      (hand : v.hand = [m]) (quiet : v.heard = []) (free : v.due = [])
      (kind : m.isEnd = true ∨ fit m) (passes : passed m = [next]) (other : m.kind ≠ .exitRequest)
      (back : use = .plain ∨ use = .checked) :
      Handling d known fit (.dispatching m (.inSink use (.begin (.send next)))) s v.socket .source v
  | hearing {v : DistView} {m : Message} (s : σ) (bound : v.Bound d) (empty : v.hand = [])
      (heard : v.heard = [m]) (free : v.due = []) (word : Word known m) :
      Handling d known fit
        (.dispatching m (.begin (.dispatch m.kind.hook m (m.kind != .exitRequest)))) s v.socket
        .sink v
  | answering {v : DistView} {m : Message} {call : SinkCall} {c : Call} (s : σ) (bound : v.Bound d)
      (empty : v.hand = []) (heard : v.heard = [m]) (free : v.due = [])
      (other : m.kind ≠ .exitRequest) (asks : Asks known m call c) :
      Handling d known fit (.dispatching m (.inSink .checked (.begin call))) s v.socket .sink v
  | delivering {v : DistView} {m : Message} {use : Pipeline.SinkUse} (runningDown : Bool) (s : σ)
      (o : Origin) (bound : v.Bound d) (empty : v.hand = []) (quiet : v.heard = [])
      (other : m.kind ≠ .exitRequest) (back : use = .plain ∨ use = .checked) :
      Handling d known fit (.dispatching m (.inSink use (.deliver v.due runningDown))) s v.socket o
        v

/-- A distributor that closes has handed the end out, and there is nothing left to do. -/
structure DistView.Done (v : DistView) : Prop where
  ended : v.ended = true
  rundown : v.queue.rundown = true
  idle : v.Idle

inductive Closing (d : String) : Phase (Pipeline.Task (SourceCall × τ) Dispenser.Task) → σ →
    Option RouterSocket → Origin → DistView → Prop where
  | closing {v : DistView} (s : σ) (o : Origin) (bound : v.Bound d) (done : v.Done) :
      Closing d (.disconnectingSink none (.begin .disconnectSink)) s v.socket o v
  | unbinding {v : DistView} (s : σ) (o : Origin) (bound : v.Bound d) (done : v.Done) :
      Closing d (.disconnectingSink none (.inSink .plain (.begin .disconnect))) s v.socket o v
  | turning {v : DistView} (s : σ) (o : Origin) (done : v.Done) :
      Closing d (.disconnectingSource none (.begin .disconnectSource)) s none o v
  | disconnecting {v : DistView} (task : τ) (s : σ) (o : Origin) (done : v.Done) :
      Closing d (.disconnectingSource none (.inSource .plain (.disconnect, task))) s none o v
  | releasing {v : DistView} (s : σ) (o : Origin) (stats : Stats) (done : v.Done) :
      Closing d (.releasing (.returned (.ok stats)) (.begin .release)) s none o v
  | releasingSource {v : DistView} (task : τ) (s : σ) (o : Origin) (stats : Stats)
      (done : v.Done) :
      Closing d (.releasing (.returned (.ok stats)) (.inSource .released (.release, task))) s none
        o v
  | releasingSink {v : DistView} (s : σ) (o : Origin) (stats : Stats) (done : v.Done) :
      Closing d (.releasing (.returned (.ok stats)) (.inSink .plain (.begin .release))) s none o v
  | finished {v : DistView} (s : σ) (o : Origin) (stats : Stats) (done : v.Done) :
      Closing d (.over (.returned (.ok stats))) s none o v

inductive DistDoes (d : String) (known : ClientId → Prop) (fit : Message → Prop)
    (phase : Phase (Pipeline.Task (SourceCall × τ) Dispenser.Task)) (s : σ)
    (router : Option RouterSocket) (o : Origin) (v : DistView) : Prop where
  | opening (does : Opening d phase s router o v)
  | fetching (does : Fetching d phase s router o v)
  | handling (does : Handling d known fit phase s router o v)
  | closing (does : Closing d phase s router o v)

def DistView.element (d : String) (v : DistView)
    (phase : Phase (Pipeline.Task (SourceCall × τ) Dispenser.Task)) (s : σ)
    (router : Option RouterSocket) (origin : Origin) (name : String) (highWaterMark : Nat)
    (ranDown : Bool) (delivered : Nat) (lifecycle : Lifecycle) (stats : Stats) :
    Distributor (σ × List Message) (SourceCall × τ) where
  strategy :=
    { name
      source := (s, v.log)
      processor := ()
      sink := { uri := d, router, queue := v.queue, highWaterMark, ranDown, delivered }
      sourceDone := v.ended
      origin }
  phase := phase
  lifecycle := lifecycle
  stats := stats

inductive DistAt (d : String) (known : ClientId → Prop) (fit : Message → Prop) :
    Distributor (σ × List Message) (SourceCall × τ) → DistView → Prop where
  | mk {phase : Phase (Pipeline.Task (SourceCall × τ) Dispenser.Task)} {s : σ}
      {router : Option RouterSocket} {origin : Origin} {v : DistView} {name : String}
      {highWaterMark : Nat} {ranDown : Bool} {delivered : Nat} {lifecycle : Lifecycle}
      {stats : Stats} (does : DistDoes d known fit phase s router origin v) :
      DistAt d known fit
        (v.element d phase s router origin name highWaterMark ranDown delivered lifecycle stats) v

/-- What a distributor at `d` can do, to its view and to the router. -/
inductive DistMove (d : String) (known : ClientId → Prop) (fit : Message → Prop) :
    DistView → Router → DistView → Router → Prop where
  | still (v : DistView) (r : Router) : DistMove d known fit v r v r
  /-- One thing after the other. -/
  | both {v v' v'' : DistView} {r r' r'' : Router} (first : DistMove d known fit v r v' r')
      (second : DistMove d known fit v' r' v'' r'') : DistMove d known fit v r v'' r''
  | bind {v : DistView} (r : Router) (s : RouterSocket) (free : v.socket = none) :
      DistMove d known fit v r { v with socket := some s } { uri := d }
  /-- It takes in what was said first. -/
  | hear {v : DistView} {r : Router} {request : ClientId × Frames}
      {rest : List (ClientId × Frames)} {m : Message} (quiet : v.heard = [])
      (first : r.inbound = request :: rest) (framed : Message.ofFrames request.2 = .ok m) :
      DistMove d known fit v r { v with heard := [m] } { r with inbound := rest }
  /-- Its queue deals with a word. -/
  | serve {v : DistView} (r : Router) {m : Message} {call : SinkCall} {c : Call}
      {due : List Delivery} {after : Queue} (free : v.due = []) (heard : v.heard = [m])
      (asks : Asks known m call c) (h : v.queue.call c = (.ok due, after)) :
      DistMove d known fit v r { v with queue := after, due, heard := [] } r
  /-- It queues what it got from its source. -/
  | send {v : DistView} (r : Router) {m next : Message} {due : List Delivery} {after : Queue}
      (free : v.due = []) (hand : v.hand = [m]) (kind : m.isEnd = true ∨ fit m)
      (passes : passed m = [next]) (h : v.queue.call (.send next) = (.ok due, after)) :
      DistMove d known fit v r { v with queue := after, due, hand := [] } r
  /-- There is nothing in what it got. -/
  | drop {v : DistView} (r : Router) {m : Message} (hand : v.hand = [m])
      (kind : m.isEnd = true ∨ fit m) (passes : passed m = []) :
      DistMove d known fit v r { v with hand := [] } r
  | deliver {v : DistView} {r : Router} {id : ClientId} {m : Message} {due : List Delivery}
      {mailbox : Nat} {frames : Frames} (first : v.due = (id, m) :: due)
      (framed : m.toFramesBatched = .ok frames) (peer : r.peers.lookup id = some mailbox) :
      DistMove d known fit v r { v with due }
        { r with mailboxes := r.mailboxes.modify mailbox (· ++ [frames]) }
  /-- The client that the end was due to has left. -/
  | skip {v : DistView} (r : Router) {id : ClientId} {m : Message} {due : List Delivery}
      (first : v.due = (id, m) :: due) (isEnd : m.isEnd = true) :
      DistMove d known fit v r { v with due } r
  /-- Its source yields a message. -/
  | yield {v : DistView} (r : Router) {m : Message} (free : v.hand = []) (running : v.ended = false)
      (kind : m.isEnd = true ∨ m.isEnd = false ∧ fit m) :
      DistMove d known fit v r { v with log := v.log ++ [m], ended := m.isEnd, hand := [m] } r
  | close {v : DistView} (r : Router) (done : v.Done) :
      DistMove d known fit v r v { r with inbound := [], peers := [], isOpen := false }

/-- The router is bound once. -/
theorem DistMove.socket {d : String} {known : ClientId → Prop} {fit : Message → Prop}
    {v v' : DistView} {r r' : Router} (move : DistMove d known fit v r v' r') :
    v.socket = none ∨ v'.socket = v.socket := by
  induction move with
  | bind r s free => exact Or.inl free
  | both _ _ first second =>
    rcases first with free | same
    · exact Or.inl free
    · rw [same] at second
      exact second
  | _ => exact Or.inr rfl

/-! What can be read off a distributor of its view. -/

section Views

variable {d : String} {known : ClientId → Prop} {fit : Message → Prop}
  {e : Distributor (σ × List Message) (SourceCall × τ)} {v : DistView}

theorem DistAt.queue (here : DistAt d known fit e v) : e.strategy.sink.queue = v.queue := by
  cases here
  rfl

theorem DistAt.log (here : DistAt d known fit e v) : e.strategy.source.2 = v.log := by
  cases here
  rfl

/-- A distributor that has closed its router has let go of it. -/
theorem DistAt.router (here : DistAt d known fit e v) :
    e.strategy.sink.router = none ∨ e.strategy.sink.router = v.socket := by
  obtain ⟨does⟩ := here
  cases does with
  | opening does => cases does <;> exact Or.inl rfl
  | fetching does => cases does <;> exact Or.inr rfl
  | handling does => cases does <;> exact Or.inr rfl
  | closing does => cases does <;> first | exact Or.inl rfl | exact Or.inr rfl

theorem DistAt.not_failed (here : DistAt d known fit e v) : ¬ e.phase.Failed := by
  intro failed
  have ok : ∀ stats, Outcome.isOk (.returned (.ok stats)) ≠ false := fun _ => nofun
  obtain ⟨does⟩ := here
  cases does with
  | opening does => cases does <;> cases failed
  | fetching does => cases does <;> cases failed
  | handling does => cases does <;> cases failed
  | closing does =>
    -- An element that lets go of everything has ended well.
    cases does <;> cases failed <;> exact ok _ ‹_›

end Views

/-- Why a distributor fails. -/
inductive Mishap (A : Source Network σ τ) (s₀ : σ) (known : ClientId → Prop) (fit : Message → Prop)
    (v : DistView) (r : Router) : Prop where
  | source {call : SourceCall} {task : τ} {s : σ} (here : A.Reached s₀ (some (call, task)) s)
      (net : Network) (fails : (A.step task s net).1.Fails)
  /-- Its queue refuses a word. -/
  | word {m : Message} {call : SinkCall} {c : Call} {cause : Violation} (free : v.due = [])
      (heard : v.heard = [m]) (asks : Asks known m call c) (h : (v.queue.call c).1 = .error cause)
  /-- Its queue refuses what its source yielded. -/
  | sent {m next : Message} {cause : Violation} (free : v.due = []) (hand : v.hand = [m])
      (kind : m.isEnd = true ∨ fit m) (passes : passed m = [next])
      (h : (v.queue.call (.send next)).1 = .error cause)
  /-- What is due cannot be put into frames. -/
  | unframed {id : ClientId} {m : Message} {due : List Delivery} {cause : Violation}
      (first : v.due = (id, m) :: due) (h : m.toFramesBatched = .error cause)
  /-- What is due is due to nobody. -/
  | unknown {id : ClientId} {m : Message} {due : List Delivery} (first : v.due = (id, m) :: due)
      (notEnd : m.isEnd = false)
      (nobody : ∀ mailbox, r.peers.lookup id = some mailbox → r.mailboxes.length ≤ mailbox)

/-- Where a step takes a distributor: it fails for a reason, or it makes a move. -/
def DistGoes (A : Source Network σ τ) (s₀ : σ) (d c : String) (known : ClientId → Prop)
    (fit : Message → Prop) (pn : Option Nat) (v : DistView) (r : Router) (p : Pipe)
    (after : Turn × Distributor (σ × List Message) (SourceCall × τ) × Network) : Prop :=
  (after.2.1.phase.Failed ∧ ∃ v' r', DistMove d known fit v r v' r' ∧ Mishap A s₀ known fit v' r') ∨
    ∃ v' r', DistMove d known fit v r v' r' ∧ DistAt d known fit after.2.1 v' ∧
      Lines after.2.2 d c (v'.socket.map RouterSocket.number) pn r' p

section Steps

variable {A : Source Network σ τ} {s₀ : σ} {d c : String} {known : ClientId → Prop}
  {fit : Message → Prop} {pn : Option Nat} {v v' : DistView} {r r' : Router} {p : Pipe}
  {net net' : Network} {t : Turn} {e : Distributor (σ × List Message) (SourceCall × τ)}

theorem DistGoes.moves (move : DistMove d known fit v r v' r') (here : DistAt d known fit e v')
    (lines : Lines net d c (v'.socket.map RouterSocket.number) pn r' p) :
    DistGoes A s₀ d c known fit pn v r p (t, e, net) :=
  Or.inr ⟨v', r', move, here, lines⟩

theorem DistGoes.stays (here : DistAt d known fit e v)
    (lines : Lines net d c (v.socket.map RouterSocket.number) pn r p) :
    DistGoes A s₀ d c known fit pn v r p (t, e, net) :=
  .moves (.still v r) here lines

theorem DistGoes.fails (failed : e.phase.Failed) (mishap : Mishap A s₀ known fit v r) :
    DistGoes A s₀ d c known fit pn v r p (t, e, net) :=
  Or.inl ⟨failed, v, r, .still v r, mishap⟩

/-- A source has failed. -/
theorem Mishap.of_step {call : SourceCall} {task : τ} {s s' : σ} {progress : Progress τ Reply}
    (here : A.toService.Reached s₀ (some (call, task)) s)
    (hstep : A.step task s net = (progress, s', net')) (fails : progress.Fails) :
    Mishap A s₀ known fit v r := by
  refine .source here net ?_
  rw [hstep]
  exact fails

variable {phase : Phase (Pipeline.Task (SourceCall × τ) Dispenser.Task)} {s : σ}
  {router : Option RouterSocket} {origin : Origin} {name : String} {highWaterMark : Nat}
  {ranDown : Bool} {delivered : Nat} {lifecycle : Lifecycle} {stats : Stats}

/-- Setting up connects the source and binds the door. -/
theorem opening_step (feeds : A.Feeds s₀ fit) (hdc : d ≠ c)
    (does : Opening d phase s router origin v)
    (reached : (v.element d phase s router origin name highWaterMark ranDown delivered lifecycle
      stats).Reached A s₀)
    (lines : Lines net d c (v.socket.map RouterSocket.number) pn r p) :
    DistGoes A s₀ d c known fit pn v r p
      ((v.element d phase s router origin name highWaterMark ranDown delivered lifecycle stats).step
        (distributorStrategy A.logged) net) := by
  cases does with
  | created s queue => exact .stays (.mk (.opening (.beginning s queue))) lines
  | beginning s queue => exact .stays (.mk (.opening (.connecting _ s queue))) lines
  | connecting task s queue =>
    obtain ⟨progress, s', net', hstep, lines'⟩ := feeds.step_lines lines task s
    have hlogged := Source.logged_step_of_ne .connect [] (by decide) hstep
    simp only [DistView.element, Element.step, Element.advance, distributorStrategy,
      Pipeline.strategy, Pipeline.step, hlogged]
    cases progress with
    | waiting until? => exact .stays (.mk (.opening (.connecting task s' queue))) lines'
    | working rest => exact .stays (.mk (.opening (.connecting rest s' queue))) lines'
    | panicked => exact .fails (.releasing rfl _) (.of_step reached hstep .panicked)
    | finished result =>
      cases result with
      | error cause =>
        exact .fails (.disconnectingSink _ _) (.of_step reached hstep (.finished cause))
      | ok reply => exact .stays (.mk (.opening (.joining s' queue))) lines'
  | joining s queue => exact .stays (.mk (.opening (.binding s queue))) lines
  | binding s queue =>
    simp only [DistView.element, Element.step, Element.advance, distributorStrategy,
      Pipeline.strategy, Pipeline.step, Dispenser.sink, Dispenser.step]
    cases hbind : RouterSocket.bind net d with
    | blocked => exact .stays (.mk (.opening (.binding s queue))) lines
    | failed cause => exact absurd hbind (lines.bindRouter_ne_failed cause)
    | done socket net' =>
      obtain ⟨huri, lines'⟩ := lines.bindRouter hdc hbind
      have bound : DistView.Bound d { queue, socket := some socket } := ⟨socket, rfl, huri⟩
      exact .moves (.bind r socket rfl)
        (.mk (.fetching (.fetching s _ bound ⟨rfl, rfl, rfl⟩))) lines'

/-- What a bound dispenser receives is a word. -/
theorem receive_cases {D : Dispenser} {socket : RouterSocket} (own : D.router = some socket)
    (lines : Lines net d c (some socket.number) pn r p)
    (inbound : ∀ x ∈ r.inbound, ∃ m, Message.ofFrames x.2 = .ok m ∧ Word known m) :
    D.receive net = .blocked ∨
      ∃ m request rest net', D.receive net = .done (.ok m) net' ∧ Word known m ∧
        r.inbound = request :: rest ∧ Message.ofFrames request.2 = .ok m ∧
        Lines net' d c (some socket.number) pn { r with inbound := rest } p := by
  unfold Dispenser.receive
  simp only [own]
  cases hrecv : socket.recv net with
  | blocked => exact Or.inl rfl
  | failed cause => exact absurd hrecv (lines.routerRecv_ne_failed rfl cause)
  | done request net' =>
    obtain ⟨rest, hrest, lines'⟩ := lines.routerRecv rfl hrecv
    obtain ⟨m, framed, word⟩ := inbound request (by rw [hrest]; exact List.mem_cons_self)
    refine Or.inr ⟨m, request, rest, net', ?_, word, hrest, framed, lines'⟩
    simp only [framed]
    rfl

/-- The source is read. What it gives is its end, or a fit message, and is written down. -/
theorem yielding_step (feeds : A.Feeds s₀ fit) {task : τ} (bound : v.Bound d) (idle : v.Idle)
    (running : v.ended = false)
    (reached : (v.element d (.fetching (.inSource .fetched (.next, task))) s v.socket origin name
      highWaterMark ranDown delivered lifecycle stats).Reached A s₀)
    (lines : Lines net d c (v.socket.map RouterSocket.number) pn r p) :
    DistGoes A s₀ d c known fit pn v r p
      ((v.element d (.fetching (.inSource .fetched (.next, task))) s v.socket origin name
        highWaterMark ranDown delivered lifecycle stats).step (distributorStrategy A.logged)
        net) := by
  obtain ⟨queue, socket, log, ended, hand, heard, due⟩ := v
  cases running
  obtain ⟨empty, quiet, free⟩ := id idle
  cases empty
  obtain ⟨progress, s', net', hstep, lines'⟩ := feeds.step_lines lines task s
  simp only [DistView.element, Element.step, Element.advance, distributorStrategy,
    Pipeline.strategy, Pipeline.step, Source.logged, hstep, if_true]
  cases progress with
  | waiting until? => exact .stays (.mk (.fetching (.reading _ bound idle rfl))) lines'
  | working rest => exact .stays (.mk (.fetching (.reading _ bound idle rfl))) lines'
  | panicked => exact .fails (.releasing rfl _) (.of_step reached hstep .panicked)
  | finished result =>
    cases result with
    | error cause =>
      exact .fails (.disconnectingSink _ _) (.of_step reached hstep (.finished cause))
    | ok reply =>
      obtain ⟨m, rfl, kind⟩ := feeds.yields task s net reply reached (by rw [hstep])
      have bound' : DistView.Bound d
          { queue, socket, log := log ++ [m], ended := m.isEnd, hand := [m], heard, due } := bound
      have yields : m.isEnd = true ∨ m.isEnd = false ∧ fit m := by
        cases hend : m.isEnd with
        | true => exact Or.inl rfl
        | false => exact Or.inr ⟨rfl, kind.resolve_left (by rw [hend]; exact Bool.false_ne_true)⟩
      exact .moves (.yield r rfl rfl yields)
        (.mk (.handling (.meeting s' bound' rfl quiet free kind))) lines'

/-- Looking for a message hears a client, or reads the source. -/
theorem fetching_step (feeds : A.Feeds s₀ fit) (does : Fetching d phase s router origin v)
    (reached : (v.element d phase s router origin name highWaterMark ranDown delivered lifecycle
      stats).Reached A s₀)
    (lines : Lines net d c (v.socket.map RouterSocket.number) pn r p)
    (inbound : ∀ x ∈ r.inbound, ∃ m, Message.ofFrames x.2 = .ok m ∧ Word known m) :
    DistGoes A s₀ d c known fit pn v r p
      ((v.element d phase s router origin name highWaterMark ranDown delivered lifecycle stats).step
        (distributorStrategy A.logged) net) := by
  obtain ⟨queue, socket, log, ended, hand, heard, due⟩ := v
  cases does with
  | fetching s o bound idle =>
    cases ended with
    | true => exact .stays (.mk (.fetching (.listening s bound idle))) lines
    | false =>
      simp only [DistView.element, Element.step, Element.advance, distributorStrategy,
        Pipeline.strategy, Pipeline.step, Pipeline.begin, Pipeline.fetch, Dispenser.sink,
        Bool.false_eq_true, if_false]
      cases Dispenser.wantsInput _ with
      | true => exact .stays (.mk (.fetching (.polling s _ bound idle rfl))) lines
      | false => exact .stays (.mk (.fetching (.listening s bound idle))) lines
  | polling s _ bound idle running =>
    cases running
    obtain ⟨router, hsocket, huri⟩ := id bound
    cases hsocket
    simp only [DistView.element, Element.step, Element.advance, distributorStrategy,
      Pipeline.strategy, Pipeline.step, Dispenser.sink, Dispenser.step, Dispenser.nextMessage]
    have received := receive_cases (D := ⟨d, some router, queue, highWaterMark, ranDown, none,
      delivered⟩) rfl lines inbound
    rcases received with h | ⟨m, _, _, net', h, word, first, framed, lines'⟩
    · -- Nobody has said anything, so it reads from its source.
      rw [h]
      exact .stays (.mk (.fetching (.reading _ bound idle rfl))) lines
    · -- What was said is a word, and the queue is asked about it next.
      rw [h]
      obtain ⟨empty, quiet, free⟩ := idle
      have bound' : DistView.Bound d
          { queue, socket := some router, log, ended := false, hand, heard := [m], due } := bound
      exact .moves (.hear quiet first framed)
        (.mk (.handling (.hearing s bound' empty rfl free word))) lines'
  | listening s bound idle =>
    obtain ⟨router, hsocket, huri⟩ := id bound
    cases hsocket
    simp only [DistView.element, Element.step, Element.advance, distributorStrategy,
      Pipeline.strategy, Pipeline.step, Dispenser.sink, Dispenser.step, Dispenser.nextMessage]
    have received := receive_cases (D := ⟨d, some router, queue, highWaterMark, ranDown, none,
      delivered⟩) rfl lines inbound
    rcases received with h | ⟨m, _, _, net', h, word, first, framed, lines'⟩
    · rw [h]
      exact .stays (.mk (.fetching (.listening s bound idle))) lines
    · rw [h]
      obtain ⟨empty, quiet, free⟩ := idle
      have bound' : DistView.Bound d
          { queue, socket := some router, log, ended, hand, heard := [m], due } := bound
      exact .moves (.hear quiet first framed)
        (.mk (.handling (.hearing s bound' empty rfl free word))) lines'
  | reading o bound idle running => exact yielding_step feeds bound idle running reached lines

/-- When the queue has been served the next message is fetched, or else all is done. -/
theorem answered_step {m : Message} {use : Pipeline.SinkUse} {task : Dispenser.Task}
    (other : m.kind ≠ .exitRequest) (back : use = .plain ∨ use = .checked)
    (move : DistMove d known fit v r v' r') (bound : v'.Bound d) (idle : v'.Idle)
    (log : v'.log = v.log) (ended : v'.ended = v.ended)
    (h : Dispenser.step task ⟨d, v.socket, v.queue, highWaterMark, ranDown, none, delivered⟩ net
      = (.finished (.ok none), ⟨d, v'.socket, v'.queue, highWaterMark, ranDown, none, delivered⟩,
        net'))
    (lines : Lines net' d c (v'.socket.map RouterSocket.number) pn r' p) :
    DistGoes A s₀ d c known fit pn v r p
      ((v.element d (.dispatching m (.inSink use task)) s v.socket origin name highWaterMark ranDown
        delivered lifecycle stats).step (distributorStrategy A.logged) net) := by
  obtain ⟨queue', socket', log', ended', hand', heard', due'⟩ := v'
  cases log
  cases ended
  have hother : (m.kind == .exitRequest) = false := by simpa using other
  simp only [DistView.element, Element.step, Element.advance, distributorStrategy,
    Pipeline.strategy, Pipeline.step, Dispenser.sink, h]
  rcases back with rfl | rfl
  · simp only [Pipeline.afterSink, Pipeline.answer, hother, Bool.or_self, Bool.false_eq_true,
      if_false]
    exact .moves move (.mk (.fetching (.fetching s _ bound idle))) lines
  · simp only [Pipeline.afterSink, Pipeline.answer, Pipeline.isDone, hother, Bool.or_false]
    -- The distributor is done when its source has ended and its queue is drained.
    cases hdone : v.ended && queue'.isDrained with
    | true =>
      obtain ⟨hended, hdrained⟩ := (Bool.and_eq_true _ _).mp hdone
      have hrundown : queue'.rundown = true := by
        unfold Queue.isDrained at hdrained
        simp only [Bool.and_eq_true] at hdrained
        exact hdrained.1.1
      simp only [if_true]
      exact .moves move (.mk (.closing (.closing s _ bound ⟨hended, hrundown, idle⟩))) lines
    | false =>
      simp only [Bool.false_eq_true, if_false]
      exact .moves move (.mk (.fetching (.fetching s _ bound idle))) lines

/-- What a call of the queue hands out is delivered next. If the queue refuses it, there is a
mishap. -/
theorem queued_step {m : Message} {use : Pipeline.SinkUse} {task : Dispenser.Task}
    (runningDown : Bool) (outcome : Except Violation (List Delivery) × Queue)
    (other : m.kind ≠ .exitRequest) (back : use = .plain ∨ use = .checked)
    (move : ∀ due, outcome.1 = .ok due →
      DistMove d known fit v r { v with queue := outcome.2, due, hand := [], heard := [] } r')
    (refused : ∀ cause, outcome.1 = .error cause →
      ∃ v' r', DistMove d known fit v r v' r' ∧ Mishap A s₀ known fit v' r')
    (bound : v.Bound d)
    (h : Dispenser.step task ⟨d, v.socket, v.queue, highWaterMark, ranDown, none, delivered⟩ net
      = Dispenser.afterQueue runningDown outcome
        ⟨d, v.socket, v.queue, highWaterMark, ranDown, none, delivered⟩ net')
    (lines : Lines net' d c (v.socket.map RouterSocket.number) pn r' p) :
    DistGoes A s₀ d c known fit pn v r p
      ((v.element d (.dispatching m (.inSink use task)) s v.socket origin name highWaterMark ranDown
        delivered lifecycle stats).step (distributorStrategy A.logged) net) := by
  obtain ⟨result, after⟩ := outcome
  simp only [DistView.element, Element.step, Element.advance, distributorStrategy,
    Pipeline.strategy, Pipeline.step, Dispenser.sink, h, Dispenser.afterQueue]
  cases result with
  | error cause =>
    have reason := refused cause rfl
    rcases back with rfl | rfl <;> exact Or.inl ⟨.disconnectingSink _ _, reason⟩
  | ok due =>
    have bound' : DistView.Bound d { v with queue := after, due, hand := [], heard := [] } := bound
    exact .moves (move due rfl)
      (.mk (.handling (.delivering runningDown s _ bound' rfl rfl other back))) lines

section Delivering

variable {m : Message} {use : Pipeline.SinkUse} {queue : Queue} {router : RouterSocket}
  {log : List Message} {ended : Bool} {due : List Delivery}

/-- The first delivery is sent. It is dropped when it is an end and its client has left. -/
theorem handing_step {id : ClientId} {next : Message} (runningDown : Bool)
    (other : m.kind ≠ .exitRequest) (back : use = .plain ∨ use = .checked)
    (bound : DistView.Bound d
      { queue, socket := some router, log, ended, due := (id, next) :: due })
    (lines : Lines net d c (some router.number) pn r p) :
    DistGoes A s₀ d c known fit pn
      { queue, socket := some router, log, ended, due := (id, next) :: due } r p
      ((DistView.element d { queue, socket := some router, log, ended, due := (id, next) :: due }
        (.dispatching m (.inSink use (.deliver ((id, next) :: due) runningDown))) s (some router)
        origin name highWaterMark ranDown delivered lifecycle stats).step
        (distributorStrategy A.logged) net) := by
  have bound' : DistView.Bound d { queue, socket := some router, log, ended, due } := bound
  simp only [DistView.element, Element.step, Element.advance, distributorStrategy,
    Pipeline.strategy, Pipeline.step, Dispenser.sink, Dispenser.step]
  cases framed : next.toFramesBatched with
  | error cause =>
    rcases back with rfl | rfl <;>
      exact .fails (.disconnectingSink _ _) (.unframed rfl framed)
  | ok frames =>
  cases hsend : router.sendTo id frames net with
  | blocked =>
    simp only [hsend]
    exact .stays (.mk (.handling (.delivering runningDown s _ bound rfl rfl other back))) lines
  | done _ net' =>
    obtain ⟨mailbox, peer, lines'⟩ := lines.routerSendTo rfl hsend
    simp only [hsend]
    exact .moves (.deliver rfl framed peer)
      (.mk (.handling (.delivering runningDown s _ bound' rfl rfl other back))) lines'
  | failed cause =>
    obtain ⟨rfl, nobody⟩ := lines.routerSendTo_failed rfl hsend
    simp only [hsend]
    cases hend : next.isEnd with
    | true =>
      exact .moves (.skip r rfl hend)
        (.mk (.handling (.delivering runningDown s _ bound' rfl rfl other back))) lines
    | false =>
      rcases back with rfl | rfl <;>
        exact .fails (.disconnectingSink _ _) (.unknown rfl hend nobody)

/-- In the rundown the words of the workers are answered on the spot, until the queue is drained. -/
theorem rundown_step (other : m.kind ≠ .exitRequest) (back : use = .plain ∨ use = .checked)
    (bound : DistView.Bound d { queue, socket := some router, log, ended })
    (hdrained : queue.isDrained = false) (lines : Lines net d c (some router.number) pn r p)
    (inbound : ∀ x ∈ r.inbound, ∃ m, Message.ofFrames x.2 = .ok m ∧ Word known m) :
    DistGoes A s₀ d c known fit pn { queue, socket := some router, log, ended } r p
      ((DistView.element d { queue, socket := some router, log, ended }
        (.dispatching m (.inSink use (.deliver [] true))) s (some router) origin name highWaterMark
        ranDown delivered lifecycle stats).step (distributorStrategy A.logged) net) := by
  have received := receive_cases (D := ⟨d, some router, queue, highWaterMark, ranDown, none,
    delivered⟩) rfl lines inbound
  rcases received with h | ⟨said, _, _, net', h, word, first, framed, lines'⟩
  · simp only [DistView.element, Element.step, Element.advance, distributorStrategy,
      Pipeline.strategy, Pipeline.step, Dispenser.sink, Dispenser.step, hdrained,
      Bool.false_eq_true, if_false, h]
    exact .stays (.mk (.handling (.delivering true s _ bound rfl rfl other back))) lines
  · -- One word is taken: two moves in one step, as it is also asked of the queue.
    have hear : DistMove d known fit { queue, socket := some router, log, ended } r _ _ :=
      .hear rfl first framed
    cases word with
    | @registration id hid =>
      have bound' : DistView.Bound d
          { queue := queue.register id, socket := some router, log, ended } := bound
      simp only [DistView.element, Element.step, Element.advance, distributorStrategy,
        Pipeline.strategy, Pipeline.step, Dispenser.sink, Dispenser.step, hdrained,
        Bool.false_eq_true, if_false, h, Dispenser.runDown, Message.identity_registration]
      exact .moves (.both hear (.serve _ rfl rfl (.register hid) rfl))
        (.mk (.handling (.delivering true s _ bound' rfl rfl other back))) lines'
    | @dataRequest id hid =>
      refine queued_step true (queue.request id) other back (fun due hdue => ?_)
        (fun cause hcause => ?_) bound ?_ lines'
      · exact .both hear (.serve _ rfl rfl (.request hid) (Prod.ext hdue rfl))
      · exact ⟨_, _, hear, .word rfl rfl (.request hid) hcause⟩
      · simp only [Dispenser.step, hdrained, Bool.false_eq_true, if_false, h, Dispenser.runDown,
          Message.identity_dataRequest]
        rfl
    | @unregistration id hid =>
      refine queued_step true (queue.unregister id) other back (fun due hdue => ?_)
        (fun cause hcause => ?_) bound ?_ lines'
      · exact .both hear (.serve _ rfl rfl (.unregister hid) (Prod.ext hdue rfl))
      · exact ⟨_, _, hear, .word rfl rfl (.unregister hid) hcause⟩
      · simp only [Dispenser.step, hdrained, Bool.false_eq_true, if_false, h, Dispenser.runDown,
          Message.identity_unregistration]
        rfl

/-- What is due is delivered. The rundown begins with the first call after which the queue runs down
and nothing is due. -/
theorem delivering_step {socket : Option RouterSocket} (runningDown : Bool)
    (other : m.kind ≠ .exitRequest) (back : use = .plain ∨ use = .checked)
    (bound : DistView.Bound d { queue, socket, log, ended, due })
    (lines : Lines net d c (socket.map RouterSocket.number) pn r p)
    (inbound : ∀ x ∈ r.inbound, ∃ m, Message.ofFrames x.2 = .ok m ∧ Word known m) :
    DistGoes A s₀ d c known fit pn { queue, socket, log, ended, due } r p
      ((DistView.element d { queue, socket, log, ended, due }
        (.dispatching m (.inSink use (.deliver due runningDown))) s socket origin name
        highWaterMark ranDown delivered lifecycle stats).step (distributorStrategy A.logged)
        net) := by
  obtain ⟨router, hsocket, huri⟩ := id bound
  cases hsocket
  cases due with
  | cons x due => exact handing_step runningDown other back bound lines
  | nil =>
    cases runningDown with
    | false =>
      cases hrundown : queue.rundown && !ranDown with
      | true =>
        simp only [DistView.element, Element.step, Element.advance, distributorStrategy,
          Pipeline.strategy, Pipeline.step, Dispenser.sink, Dispenser.step, hrundown, if_true]
        exact .stays (.mk (.handling (.delivering true s _ bound rfl rfl other back))) lines
      | false =>
        refine answered_step other back (.still _ r) bound ⟨rfl, rfl, rfl⟩ rfl rfl ?_ lines
        simp only [Dispenser.step, hrundown, Bool.false_eq_true, if_false]
        rfl
    | true =>
      cases hdrained : queue.isDrained with
      | true =>
        refine answered_step other back (.still _ r) bound ⟨rfl, rfl, rfl⟩ rfl rfl ?_ lines
        simp only [Dispenser.step, hdrained, if_true]
        rfl
      | false => exact rundown_step other back bound hdrained lines inbound

end Delivering

/-- A message that was yielded is queued, if there is anything in it. One case for each kind. -/
theorem meeting_step (feeds : A.Feeds s₀ fit) {m : Message} (bound : v.Bound d)
    (hand : v.hand = [m]) (quiet : v.heard = []) (free : v.due = [])
    (kind : m.isEnd = true ∨ fit m)
    (lines : Lines net d c (v.socket.map RouterSocket.number) pn r p) :
    DistGoes A s₀ d c known fit pn v r p
      ((v.element d (.dispatching m (.begin (.dispatch m.kind.hook m (m.kind != .exitRequest)))) s
        v.socket .source name highWaterMark ranDown delivered lifecycle stats).step
        (distributorStrategy A.logged) net) := by
  have sorts : m.kind = .endOfStream ∨ m.Carries ∨ m.kind = .barrier := by
    rcases kind with isEnd | fits
    · exact Or.inl (eq_of_beq isEnd)
    · exact Or.inr (feeds.sorts m fits)
  rcases sorts with last | ⟨process, records, content⟩ | barrier
  · simp only [DistView.element, Element.step, Element.advance, distributorStrategy,
      Pipeline.strategy, Pipeline.step, Pipeline.begin, Pipeline.dispatch, last, Kind.hook]
    exact .stays (.mk (.handling (.queueing s bound hand quiet free kind
      (passed_of_other (by simp [last])) (by simp [last]) (Or.inr rfl)))) lines
  · have happly := Processor.apply_passThrough content
    have hcontent := Message.content_of_records process content
    simp only [DistView.element, Element.step, Element.advance, distributorStrategy,
      Pipeline.strategy, Pipeline.step, Pipeline.begin, Pipeline.dispatch, process, Kind.hook,
      Pipeline.process, happly]
    cases records with
    | nil =>
      -- A message without records becomes nothing, and is not queued.
      have passes : passed m = [] := by simp [passed, process, hcontent]
      have bound' : DistView.Bound d { v with hand := [] } := bound
      exact .moves (.drop r hand kind passes)
        (.mk (.fetching (.fetching s _ bound' ⟨rfl, quiet, free⟩))) lines
    | cons x xs =>
      have passes : passed m = [.process (x :: xs)] := by simp [passed, process, hcontent]
      exact .stays (.mk (.handling (.queueing s bound hand quiet free kind passes
        (by simp [process]) (Or.inl rfl)))) lines
  · simp only [DistView.element, Element.step, Element.advance, distributorStrategy,
      Pipeline.strategy, Pipeline.step, Pipeline.begin, Pipeline.dispatch, barrier, Kind.hook,
      Hook.forwarded?]
    exact .stays (.mk (.handling (.queueing s bound hand quiet free kind
      (passed_of_other (by simp [barrier])) (by simp [barrier]) (Or.inl rfl)))) lines

/-- Handling a message asks the queue, delivers what is due, and heeds the clients in the rundown.
-/
theorem handling_step (feeds : A.Feeds s₀ fit) (does : Handling d known fit phase s router origin v)
    (lines : Lines net d c (v.socket.map RouterSocket.number) pn r p)
    (inbound : ∀ x ∈ r.inbound, ∃ m, Message.ofFrames x.2 = .ok m ∧ Word known m) :
    DistGoes A s₀ d c known fit pn v r p
      ((v.element d phase s router origin name highWaterMark ranDown delivered lifecycle stats).step
        (distributorStrategy A.logged) net) := by
  cases does with
  | meeting s bound hand quiet free kind =>
    exact meeting_step feeds bound hand quiet free kind lines
  | @queueing v m next use s bound hand quiet free kind passes other back =>
    obtain ⟨queue, socket, log, ended, _, heard, due⟩ := v
    cases hand
    cases quiet
    refine queued_step false (queue.send next) other back (fun due hdue => ?_)
      (fun cause hcause => ?_) bound rfl lines
    · exact .send r free rfl kind passes (Prod.ext hdue rfl)
    · exact ⟨_, r, .still _ r, .sent free rfl kind passes hcause⟩
  | hearing s bound empty heard free word =>
    simp only [DistView.element, Element.step, Element.advance, distributorStrategy,
      Pipeline.strategy, Pipeline.step, Pipeline.begin, Pipeline.dispatch]
    cases word with
    | @registration id h =>
      simp only [Message.identity_registration]
      have other : (Message.registration id).kind ≠ .exitRequest := by simp [Message.registration]
      exact .stays (.mk (.handling (.answering s bound empty heard free other (.register h)))) lines
    | @dataRequest id h =>
      simp only [Message.identity_dataRequest]
      have other : (Message.dataRequest id).kind ≠ .exitRequest := by simp [Message.dataRequest]
      exact .stays (.mk (.handling (.answering s bound empty heard free other (.request h)))) lines
    | @unregistration id h =>
      simp only [Message.identity_unregistration]
      have other : (Message.unregistration id).kind ≠ .exitRequest := by
        simp [Message.unregistration]
      exact .stays (.mk (.handling (.answering s bound empty heard free other (.unregister h))))
        lines
  | @answering v m call c s bound empty heard free other asks =>
    obtain ⟨queue, socket, log, ended, hand, said, due⟩ := v
    cases empty
    cases heard
    cases free
    cases asks with
    | @register id h =>
      have bound' : DistView.Bound d { queue := queue.register id, socket, log, ended } := bound
      exact answered_step other (Or.inr rfl) (.serve r rfl rfl (.register h) rfl) bound'
        ⟨rfl, rfl, rfl⟩ rfl rfl rfl lines
    | @request id h =>
      refine queued_step false (queue.request id) other (Or.inr rfl) (fun due hdue => ?_)
        (fun cause hcause => ?_) bound rfl lines
      · exact .serve r rfl rfl (.request h) (Prod.ext hdue rfl)
      · exact ⟨_, r, .still _ r, .word rfl rfl (.request h) hcause⟩
    | @unregister id h =>
      refine queued_step false (queue.unregister id) other (Or.inr rfl) (fun due hdue => ?_)
        (fun cause hcause => ?_) bound rfl lines
      · exact .serve r rfl rfl (.unregister h) (Prod.ext hdue rfl)
      · exact ⟨_, r, .still _ r, .word rfl rfl (.unregister h) hcause⟩
  | @delivering v m use runningDown s o bound empty quiet other back =>
    obtain ⟨queue, socket, log, ended, hand, heard, due⟩ := v
    cases empty
    cases quiet
    exact delivering_step runningDown other back bound lines inbound

/-- Giving up closes the door and lets the source go. -/
theorem closing_step (feeds : A.Feeds s₀ fit) (hdc : d ≠ c)
    (does : Closing d phase s router origin v)
    (reached : (v.element d phase s router origin name highWaterMark ranDown delivered lifecycle
      stats).Reached A s₀)
    (lines : Lines net d c (v.socket.map RouterSocket.number) pn r p) :
    DistGoes A s₀ d c known fit pn v r p
      ((v.element d phase s router origin name highWaterMark ranDown delivered lifecycle stats).step
        (distributorStrategy A.logged) net) := by
  obtain ⟨queue, socket, log, ended, hand, heard, due⟩ := v
  cases does with
  | closing s _ bound done => exact .stays (.mk (.closing (.unbinding s _ bound done))) lines
  | unbinding s _ bound done =>
    obtain ⟨router, hsocket, huri⟩ := bound
    cases hsocket
    have lines' := lines.routerClose hdc rfl huri
    exact .moves (.close r done) (.mk (.closing (.turning s _ done))) lines'
  | turning s _ done => exact .stays (.mk (.closing (.disconnecting _ s _ done))) lines
  | disconnecting task s _ done =>
    obtain ⟨progress, s', net', hstep, lines'⟩ := feeds.step_lines lines task s
    have hlogged := Source.logged_step_of_ne .disconnect log (by decide) hstep
    simp only [DistView.element, Element.step, Element.advance, distributorStrategy,
      Pipeline.strategy, Pipeline.step, hlogged]
    cases progress with
    | waiting until? => exact .stays (.mk (.closing (.disconnecting task s' _ done))) lines'
    | working rest => exact .stays (.mk (.closing (.disconnecting rest s' _ done))) lines'
    | panicked => exact .fails (.releasing rfl _) (.of_step reached hstep .panicked)
    | finished result =>
      cases result with
      | error cause => exact .fails (.releasing rfl _) (.of_step reached hstep (.finished cause))
      | ok reply => exact .stays (.mk (.closing (.releasing s' _ _ done))) lines'
  | releasing s _ stats done =>
    exact .stays (.mk (.closing (.releasingSource _ s _ stats done))) lines
  | releasingSource task s _ stats done =>
    obtain ⟨progress, s', net', hstep, lines'⟩ := feeds.step_lines lines task s
    have hlogged := Source.logged_step_of_ne .release log (by decide) hstep
    simp only [DistView.element, Element.step, distributorStrategy, Pipeline.strategy,
      Pipeline.step, hlogged]
    cases progress with
    | waiting until? => exact .stays (.mk (.closing (.releasingSource task s' _ stats done))) lines'
    | working rest => exact .stays (.mk (.closing (.releasingSource rest s' _ stats done))) lines'
    | panicked => exact .stays (.mk (.closing (.finished s' _ stats done))) lines'
    | finished result =>
      cases result with
      | error cause => exact .stays (.mk (.closing (.releasingSink s' _ stats done))) lines'
      | ok reply => exact .stays (.mk (.closing (.releasingSink s' _ stats done))) lines'
  | releasingSink s _ stats done => exact .stays (.mk (.closing (.finished s _ stats done))) lines
  | finished s _ stats done => exact .stays (.mk (.closing (.finished s _ stats done))) lines

/-- **A step of a distributor is a move of its view**, unless it fails for a reason. -/
theorem distributor_step (feeds : A.Feeds s₀ fit) (hdc : d ≠ c) (here : DistAt d known fit e v)
    (reached : e.Reached A s₀) (lines : Lines net d c (v.socket.map RouterSocket.number) pn r p)
    (inbound : ∀ x ∈ r.inbound, ∃ m, Message.ofFrames x.2 = .ok m ∧ Word known m) :
    DistGoes A s₀ d c known fit pn v r p (e.step (distributorStrategy A.logged) net) := by
  obtain ⟨does⟩ := here
  cases does with
  | opening does => exact opening_step feeds hdc does reached lines
  | fetching does => exact fetching_step feeds does reached lines inbound
  | handling does => exact handling_step feeds does lines inbound
  | closing does => exact closing_step feeds hdc does reached lines

/-- A distributor that ended has nothing left. -/
theorem DistAt.settled (here : DistAt d known fit e v) (h : e.outcome? ≠ none) :
    v.Done ∧ e.strategy.source.2 = v.log := by
  obtain ⟨does⟩ := here
  rcases does with does | does | does | does
  · cases does <;> exact absurd rfl h
  · cases does <;> exact absurd rfl h
  · cases does <;> exact absurd rfl h
  · cases does with
    | finished _ _ _ done => exact ⟨done, rfl⟩
    | _ => exact absurd rfl h

end Steps

end Farm

end RecordFarm
