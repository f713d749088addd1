import RecordFarm.Proofs.Farm.Logs
import RecordFarm.Proofs.Farm.Runs
import RecordFarm.Proofs.Service.Session

/-!
# One step of a gatherer

A gatherer binds the pipe and then goes round: it takes one record from its collector and hands it
to its sink. While the collector has no record it takes in what its workers pushed. When all
workers have come and gone, and no record is left, the gatherer hands the end to its sink and
closes.

`GatherView` is what matters of a gatherer for the accounts of its farm, `GatherAt` says in which
phases what is true of it, and `GatherMove` is what a gatherer can do to its view and to the pipe. A
step of a gatherer is such a move, or the gatherer fails (`gatherer_step`).
-/

namespace RecordFarm

namespace Farm

open Fanin

/-- What matters of a gatherer. -/
structure GatherView where
  /-- Its pipe, once it is bound. -/
  pull : Option PullSocket := none
  /-- Records received and not yet taken up. -/
  records : List Bytes := []
  /-- The workers that are there. -/
  producers : List ClientId := []
  /-- Every worker that ever came. -/
  seen : List ClientId := []
  /-- The record that is about to be handed to the sink. -/
  hand : List Bytes := []
  /-- The records that the sink took. -/
  collected : List Bytes := []
  /-- Whether the stream has ended. -/
  ended : Bool := false
  /-- Whether the sink took the end. -/
  closed : Bool := false

def GatherView.log (v : GatherView) : List Message :=
  v.collected.map (fun record => .process [record]) ++ if v.closed then [.endOfStream] else []

/-- A record in hand is logged like one that was collected. -/
theorem GatherView.log_collect {v : GatherView} (x : Bytes) (still : v.closed = false) :
    v.log ++ [.process [x]]
      = GatherView.log { v with hand := [], collected := v.collected ++ [x] } := by
  simp [GatherView.log, still]

/-- The end that is told closes the log. -/
theorem GatherView.log_conclude {v : GatherView} (still : v.closed = false) :
    v.log ++ [.endOfStream] = GatherView.log { v with closed := true } := by
  simp [GatherView.log, still]

/-- A gatherer that goes round: its pipe is bound at `c`, its records are whole, and its stream has
not ended. -/
structure GatherView.Open (c : String) (v : GatherView) : Prop where
  bound : ∃ s, v.pull = some s ∧ s.uri = c ∧ s.isBinder = true
  whole : ∀ r ∈ v.records, Record.isWhole r = true
  running : v.ended = false
  still : v.closed = false

/-- A gatherer whose stream has ended: at least `n` workers came, all of them left, and there are no
records left. -/
structure GatherView.Ended (c : String) (n : Nat) (v : GatherView) : Prop where
  bound : ∃ s, v.pull = some s ∧ s.uri = c ∧ s.isBinder = true
  ended : v.ended = true
  records : v.records = []
  hand : v.hand = []
  producers : v.producers = []
  seen : n ≤ v.seen.length

inductive Parcel (known : ClientId → Prop) : Message → Prop where
  | registration {id : ClientId} (h : known id) : Parcel known (.registration id)
  | records {m : Message} {records : List Bytes} (kind : m.kind = .process)
      (content : m.records = .ok records) : Parcel known m
  | endOfStream : Parcel known .endOfStream
  | unregistration {id : ClientId} (h : known id) : Parcel known (.unregistration id)

variable {κ υ : Type}

/-- What is true of a gatherer in each phase until its stream has ended: its sink, where its last
message came from, and its view. -/
inductive Gathering (B : Sink Network κ υ) (c : String) :
    Phase (Pipeline.Task Collector.Task (SinkCall × υ)) → κ → GatherView → Prop where
  | created (k : κ) : Gathering B c .created k {}
  | beginning (k : κ) : Gathering B c (.connectingSource (.begin .connectSource)) k {}
  | binding (k : κ) : Gathering B c (.connectingSource (.inSource .plain .connect)) k {}
  | joining {v : GatherView} (k : κ) (here : v.Open c) (free : v.hand = []) :
      Gathering B c (.connectingSink (.begin .connectSink)) k v
  | connecting {v : GatherView} (task : υ) (k : κ) (here : v.Open c) (free : v.hand = []) :
      Gathering B c (.connectingSink (.inSink .plain (.connect, task))) k v
  | fetching {v : GatherView} (k : κ) (here : v.Open c) (free : v.hand = []) :
      Gathering B c (.fetching (.begin .fetch)) k v
  | polling {v : GatherView} {task : υ} {k : κ} (here : v.Open c) (free : v.hand = [])
      (now : B.Serving .poll task k) :
      Gathering B c (.fetching (.inSink .polled (.poll, task))) k v
  | reading {v : GatherView} (k : κ) (here : v.Open c) (free : v.hand = []) :
      Gathering B c (.fetching (.inSource .fetched .next)) k v
  | taking {v : GatherView} {x : Bytes} (k : κ) (here : v.Open c) (hand : v.hand = [x])
      (wholeX : Record.isWhole x = true) :
      Gathering B c
        (.dispatching (.process [x]) (.begin (.dispatch .process (.process [x]) true))) k v
  | sending {v : GatherView} {x : Bytes} (task : υ) (k : κ) (here : v.Open c)
      (hand : v.hand = [x]) :
      Gathering B c (.dispatching (.process [x]) (.inSink .plain (.send (.process [x]), task))) k v

inductive Finishing (c : String) (n : Nat) : Phase (Pipeline.Task Collector.Task (SinkCall × υ)) →
    Option PullSocket → κ → GatherView → Prop where
  | meeting {v : GatherView} (k : κ) (here : v.Ended c n) (still : v.closed = false) :
      Finishing c n
        (.dispatching .endOfStream (.begin (.dispatch .endOfStream .endOfStream true))) v.pull k v
  | sendingEnd {v : GatherView} (task : υ) (k : κ) (here : v.Ended c n)
      (still : v.closed = false) :
      Finishing c n (.dispatching .endOfStream (.inSink .checked (.send .endOfStream, task)))
        v.pull k v
  | closing {v : GatherView} (k : κ) (here : v.Ended c n) (closed : v.closed = true) :
      Finishing c n (.disconnectingSink none (.begin .disconnectSink)) v.pull k v
  | disconnecting {v : GatherView} (task : υ) (k : κ) (here : v.Ended c n)
      (closed : v.closed = true) :
      Finishing c n (.disconnectingSink none (.inSink .plain (.disconnect, task))) v.pull k v
  | turning {v : GatherView} (k : κ) (here : v.Ended c n) (closed : v.closed = true) :
      Finishing c n (.disconnectingSource none (.begin .disconnectSource)) v.pull k v
  | unbinding {v : GatherView} (k : κ) (here : v.Ended c n) (closed : v.closed = true) :
      Finishing c n (.disconnectingSource none (.inSource .plain .disconnect)) v.pull k v
  | releasing {v : GatherView} (k : κ) (stats : Stats) (here : v.Ended c n)
      (closed : v.closed = true) :
      Finishing c n (.releasing (.returned (.ok stats)) (.begin .release)) none k v
  | releasingSource {v : GatherView} (k : κ) (stats : Stats) (here : v.Ended c n)
      (closed : v.closed = true) :
      Finishing c n (.releasing (.returned (.ok stats)) (.inSource .released .release)) none k v
  | releasingSink {v : GatherView} (task : υ) (k : κ) (stats : Stats) (here : v.Ended c n)
      (closed : v.closed = true) :
      Finishing c n (.releasing (.returned (.ok stats)) (.inSink .plain (.release, task))) none k v
  | finished {v : GatherView} (k : κ) (stats : Stats) (here : v.Ended c n)
      (closed : v.closed = true) : Finishing c n (.over (.returned (.ok stats))) none k v

inductive GatherDoes (B : Sink Network κ υ) (c : String) (n : Nat)
    (phase : Phase (Pipeline.Task Collector.Task (SinkCall × υ))) :
    Option PullSocket → κ → GatherView → Prop where
  | gathering {k : κ} {v : GatherView} (does : Gathering B c phase k v) :
      GatherDoes B c n phase v.pull k v
  | finishing {pull : Option PullSocket} {k : κ} {v : GatherView}
      (does : Finishing c n phase pull k v) : GatherDoes B c n phase pull k v

def GatherView.element (c : String) (n : Nat) (v : GatherView)
    (phase : Phase (Pipeline.Task Collector.Task (SinkCall × υ))) (pull : Option PullSocket) (k : κ)
    (log : List Message) (name : String) (lifecycle : Lifecycle) (stats : Stats) :
    Gatherer (κ × List Message) (SinkCall × υ) where
  strategy :=
    { name
      source :=
        { uri := c, pull, records := v.records, producers := v.producers, seen := v.seen,
          expected := n }
      processor := ()
      sink := (k, log)
      sourceDone := v.ended }
  phase := phase
  lifecycle := lifecycle
  stats := stats

inductive GatherAt (B : Sink Network κ υ) (c : String) (n : Nat) :
    Gatherer (κ × List Message) (SinkCall × υ) → GatherView → Prop where
  | mk {phase : Phase (Pipeline.Task Collector.Task (SinkCall × υ))} {pull : Option PullSocket}
      {k : κ} {v : GatherView} {log : List Message} {name : String} {lifecycle : Lifecycle}
      {stats : Stats} (does : GatherDoes B c n phase pull k v) (logged : log = v.log) :
      GatherAt B c n (v.element c n phase pull k log name lifecycle stats) v

/-- What a gatherer can do, to its view and to the pipe. It expects `n` workers. -/
inductive GatherMove (c : String) (n : Nat) : GatherView → Pipe → GatherView → Pipe → Prop where
  | still (v : GatherView) (p : Pipe) : GatherMove c n v p v p
  | bind {v : GatherView} (p : Pipe) (s : PullSocket) (free : v.pull = none) :
      GatherMove c n v p { v with pull := some s } { uri := c }
  /-- It takes in records. -/
  | takeIn {v : GatherView} {p : Pipe} {frames : Frames} {rest : Mailbox} {m : Message}
      {records : List Bytes} (first : p.queue = frames :: rest)
      (framed : Message.ofFrames frames = .ok m) (kind : m.kind = .process)
      (content : m.records = .ok records) :
      GatherMove c n v p { v with records := v.records ++ records } { p with queue := rest }
  /-- A worker has come. -/
  | greet {v : GatherView} {p : Pipe} {frames : Frames} {rest : Mailbox} {id : ClientId}
      (first : p.queue = frames :: rest)
      (framed : Message.ofFrames frames = .ok (.registration id)) :
      GatherMove c n v p { v with seen := v.seen.insert id, producers := v.producers.insert id }
        { p with queue := rest }
  /-- A worker leaves. -/
  | dismiss {v : GatherView} {p : Pipe} {frames : Frames} {rest : Mailbox} {id : ClientId}
      (first : p.queue = frames :: rest)
      (framed : Message.ofFrames frames = .ok (.unregistration id)) :
      GatherMove c n v p { v with producers := v.producers.filter (· ≠ id) }
        { p with queue := rest }
  /-- A worker has ended its stream. -/
  | overhear {v : GatherView} {p : Pipe} {frames : Frames} {rest : Mailbox}
      (first : p.queue = frames :: rest) (framed : Message.ofFrames frames = .ok .endOfStream) :
      GatherMove c n v p v { p with queue := rest }
  /-- It takes up a record. -/
  | fetch {v : GatherView} (p : Pipe) {x : Bytes} {rest : List Bytes}
      (first : v.records = x :: rest) (free : v.hand = []) :
      GatherMove c n v p { v with records := rest, hand := [x] } p
  /-- The sink takes a record. -/
  | collect {v : GatherView} (p : Pipe) {x : Bytes} (hand : v.hand = [x]) :
      GatherMove c n v p { v with hand := [], collected := v.collected ++ [x] } p
  /-- The stream ends. -/
  | finish {v : GatherView} (p : Pipe) : GatherMove c n v p { v with ended := true } p
  /-- The sink takes the end. -/
  | conclude {v : GatherView} (p : Pipe) : GatherMove c n v p { v with closed := true } p
  | close (v : GatherView) (p : Pipe) : GatherMove c n v p v { p with isOpen := false }

def GatherGoes (B : Sink Network κ υ) (d c : String) (n : Nat) (rn : Option Nat)
    (v : GatherView) (r : Router) (p : Pipe)
    (after : Turn × Gatherer (κ × List Message) (SinkCall × υ) × Network) : Prop :=
  after.2.1.phase.Failed ∨ ∃ v' p', GatherMove c n v p v' p' ∧ GatherAt B c n after.2.1 v' ∧
    Lines after.2.2 d c rn (v'.pull.map PullSocket.number) r p'

section Steps

variable {B : Sink Network κ υ} {d c : String} {n : Nat} {known : ClientId → Prop}
  {rn : Option Nat} {v v' : GatherView} {r : Router} {p p' : Pipe} {net net' : Network} {t : Turn}
  {e : Gatherer (κ × List Message) (SinkCall × υ)}

theorem GatherGoes.moves (move : GatherMove c n v p v' p') (here : GatherAt B c n e v')
    (lines : Lines net d c rn (v'.pull.map PullSocket.number) r p') :
    GatherGoes B d c n rn v r p (t, e, net) :=
  Or.inr ⟨v', p', move, here, lines⟩

theorem GatherGoes.stays (here : GatherAt B c n e v)
    (lines : Lines net d c rn (v.pull.map PullSocket.number) r p) :
    GatherGoes B d c n rn v r p (t, e, net) :=
  .moves (.still v p) here lines

variable {phase : Phase (Pipeline.Task Collector.Task (SinkCall × υ))} {pull : Option PullSocket}
  {k : κ} {log : List Message} {name : String} {lifecycle : Lifecycle} {stats : Stats}

/-- The collector hands out a record or the end, or takes in what was pushed first. -/
theorem reading_step (here : v.Open c) (free : v.hand = []) (logged : log = v.log)
    (lines : Lines net d c rn (v.pull.map PullSocket.number) r p)
    (parcels : ∀ frames ∈ p.queue, ∃ m, Message.ofFrames frames = .ok m ∧ Parcel known m) :
    GatherGoes B d c n rn v r p
      ((v.element c n (.fetching (.inSource .fetched .next)) v.pull k log name lifecycle stats).step
        (collectorStrategy B.logged) net) := by
  obtain ⟨pull, records, producers, seen, hand, collected, ended, closed⟩ := v
  obtain ⟨⟨socket, hpull, huri, hbinder⟩, whole, hended, hclosed⟩ := id here
  cases hpull
  cases hended
  cases free
  -- Records that it has go first, then the end, when everybody has come and gone.
  cases records with
  | cons x rest =>
    have hx : Record.isWhole x = true := whole x List.mem_cons_self
    have here' : GatherView.Open c
        { pull := some socket, records := rest, producers, seen, hand := [x], collected,
          closed } :=
      ⟨here.bound, fun y hy => whole y (List.mem_cons_of_mem _ hy), rfl, hclosed⟩
    exact .moves (.fetch p rfl rfl) (.mk (.gathering (.taking k here' rfl hx)) logged) lines
  | nil =>
  cases hcomplete : producers.isEmpty && decide (n ≤ seen.length) with
  | true =>
    obtain ⟨hproducers, hseen⟩ := (Bool.and_eq_true _ _).mp hcomplete
    have here' : GatherView.Ended c n
        { pull := some socket, producers, seen, collected, ended := true, closed } :=
      ⟨here.bound, rfl, rfl, rfl, List.isEmpty_iff.1 hproducers, of_decide_eq_true hseen⟩
    simp only [GatherView.element, Element.step, Element.advance, collectorStrategy,
      Pipeline.strategy, Pipeline.step, Collector.source, Collector.step, Collector.next,
      Collector.isComplete, hcomplete, if_true]
    exact .moves (.finish p) (.mk (.finishing (.meeting k here' hclosed)) logged) lines
  | false =>
  simp only [GatherView.element, Element.step, Element.advance, collectorStrategy,
    Pipeline.strategy, Pipeline.step, Collector.source, Collector.step, Collector.next,
    Collector.isComplete, hcomplete, Bool.false_eq_true, if_false]
  cases hrecv : socket.recv net with
  | blocked => exact .stays (.mk (.gathering (.reading k here rfl)) logged) lines
  | failed cause => exact Or.inl (.disconnectingSink _ _)
  | done frames net' =>
    obtain ⟨rest, first, lines'⟩ := lines.pullRecv rfl hrecv
    obtain ⟨m, framed, parcel⟩ := parcels frames (by rw [first]; exact List.mem_cons_self)
    simp only [framed]
    -- Words are written down, records are kept, and the end of one worker means nothing.
    cases parcel with
    | @registration id h =>
      have here' : GatherView.Open c
          { pull := some socket, producers := producers.insert id, seen := seen.insert id,
            collected, closed } :=
        ⟨here.bound, whole, rfl, hclosed⟩
      simp only [Collector.takeIn, Message.identity_registration]
      exact .moves (.greet first framed) (.mk (.gathering (.reading k here' rfl)) logged) lines'
    | @records _ records kind content =>
      have here' : GatherView.Open c
          { pull := some socket, records := [] ++ records, producers, seen, collected, closed } :=
        ⟨here.bound, Message.isWhole_of_records content, rfl, hclosed⟩
      simp only [Collector.takeIn, kind, content]
      exact .moves (.takeIn first framed kind content)
        (.mk (.gathering (.reading k here' rfl)) logged) lines'
    | endOfStream =>
      exact .moves (.overhear first framed) (.mk (.gathering (.reading k here rfl)) logged) lines'
    | @unregistration id h =>
      have here' : GatherView.Open c
          { pull := some socket, producers := producers.filter (· ≠ id), seen, collected,
            closed } :=
        ⟨here.bound, whole, rfl, hclosed⟩
      simp only [Collector.takeIn, Message.identity_unregistration]
      exact .moves (.dismiss first framed) (.mk (.gathering (.reading k here' rfl)) logged) lines'

/-- A sink that does not answer yet leaves the gatherer in the phase that it is in, unless it breaks
down. What its answer comes to is said phase by phase. -/
theorem serving_step {use : Pipeline.SinkUse} {call : SinkCall} {task : υ}
    {andThen : Except Error HookReply → Gatherer (κ × List Message) (SinkCall × υ) →
      Gatherer (κ × List Message) (SinkCall × υ)} (plain : B.IsPlain)
    (again : Pipeline.Task Collector.Task (SinkCall × υ) →
      Phase (Pipeline.Task Collector.Task (SinkCall × υ)))
    (lines : Lines net d c rn (v.pull.map PullSocket.number) r p)
    (advances : (v.element c n phase pull k log name lifecycle stats).step
        (collectorStrategy B.logged) net
      = Element.advance (collectorStrategy B.logged)
          (v.element c n phase pull k log name lifecycle stats) net (.inSink use (call, task))
          again andThen)
    (hphase : phase = again (.inSink use (call, task)))
    (stays : ∀ progress rest k' net', B.step task k net = (progress, k', net') →
      progress.pending task = some rest → progress ≠ .panicked → GatherAt B c n
        (v.element c n (again (.inSink use (call, rest))) pull k' log name lifecycle stats) v)
    (goes : ∀ result k' net', B.step task k net = (.finished result, k', net') →
      Lines net' d c rn (v.pull.map PullSocket.number) r p → GatherGoes B d c n rn v r p
        ((v.element c n phase pull k log name lifecycle stats).step (collectorStrategy B.logged)
          net)) :
    GatherGoes B d c n rn v r p
      ((v.element c n phase pull k log name lifecycle stats).step (collectorStrategy B.logged)
        net) := by
  subst hphase
  obtain ⟨progress, k', net', hstep, lines'⟩ := plain.step_lines lines task k
  cases progress with
  | finished result => exact goes result k' net' hstep lines'
  | waiting until? =>
    have here := stays _ task k' net' hstep rfl (by intro broken; cases broken)
    rw [advances]
    simp only [Element.advance, GatherView.element, collectorStrategy, Pipeline.strategy,
      Pipeline.step, Sink.logged, hstep]
    exact .stays here lines'
  | working rest =>
    have here := stays _ rest k' net' hstep rfl (by intro broken; cases broken)
    rw [advances]
    simp only [Element.advance, GatherView.element, collectorStrategy, Pipeline.strategy,
      Pipeline.step, Sink.logged, hstep]
    exact .stays here lines'
  | panicked =>
    rw [advances]
    simp only [Element.advance, GatherView.element, collectorStrategy, Pipeline.strategy,
      Pipeline.step, Sink.logged, hstep]
    exact Or.inl (.releasing rfl _)

/-- Nobody speaks to a plain sink, so the collector reads on. -/
theorem polling_step {task : υ} (plain : B.IsPlain) (here : v.Open c) (free : v.hand = [])
    (now : B.Serving .poll task k) (logged : log = v.log)
    (lines : Lines net d c rn (v.pull.map PullSocket.number) r p) :
    GatherGoes B d c n rn v r p
      ((v.element c n (.fetching (.inSink .polled (.poll, task))) v.pull k log name lifecycle
        stats).step (collectorStrategy B.logged) net) := by
  refine serving_step plain .fetching lines (by unfold Element.step; rfl) rfl
    (fun progress rest k' net' hstep pending alive => ?_) fun result k' net' hstep lines' => ?_
  · cases progress with
    | waiting until? =>
      cases pending
      exact .mk (.gathering (.polling here free (now.waiting hstep))) logged
    | working rest' =>
      cases pending
      exact .mk (.gathering (.polling here free (now.working hstep))) logged
    | finished result => cases pending
    | panicked => exact absurd rfl alive
  · simp only [GatherView.element, Element.step, Element.advance, collectorStrategy,
      Pipeline.strategy, Pipeline.step, Sink.logged, hstep]
    cases result with
    | error cause => exact Or.inl (.disconnectingSink _ _)
    | ok reply =>
      obtain rfl := plain.silent reply ⟨task, k, net, k', net', now, hstep⟩
      exact .stays (.mk (.gathering (.reading k' here free)) logged) lines'

/-- The sink has taken a record, and the log keeps it. -/
theorem collecting_step {x : Bytes} {task : υ} (plain : B.IsPlain) (here : v.Open c)
    (hand : v.hand = [x]) (logged : log = v.log)
    (lines : Lines net d c rn (v.pull.map PullSocket.number) r p) :
    GatherGoes B d c n rn v r p
      ((v.element c n
        (.dispatching (.process [x]) (.inSink .plain (.send (.process [x]), task))) v.pull k log
        name lifecycle stats).step (collectorStrategy B.logged) net) := by
  refine serving_step plain (.dispatching _) lines (by unfold Element.step; rfl) rfl
    (fun _ rest k' _ _ _ _ => .mk (.gathering (.sending rest k' here hand)) logged)
    fun result k' net' hstep lines' => ?_
  obtain ⟨pull, records, producers, seen, hand, collected, ended, closed⟩ := v
  obtain ⟨_, _, _, hclosed⟩ := id here
  simp only [GatherView.element, Element.step, Element.advance, collectorStrategy,
    Pipeline.strategy, Pipeline.step, Sink.logged, hstep]
  cases result with
  | error cause => exact Or.inl (.disconnectingSink _ _)
  | ok reply =>
    have here' : GatherView.Open c
        { pull, records, producers, seen, collected := collected ++ [x], ended, closed } :=
      ⟨here.bound, here.whole, here.running, here.still⟩
    have logged' := congrArg (· ++ [Message.process [x]]) logged
    exact .moves (.collect p hand)
      (.mk (.gathering (.fetching k' here' rfl))
        (logged'.trans (GatherView.log_collect x hclosed))) lines'

/-- A step before the end is handed out. -/
theorem gathering_step (plain : B.IsPlain) (hdc : d ≠ c) (does : Gathering B c phase k v)
    (logged : log = v.log) (lines : Lines net d c rn (v.pull.map PullSocket.number) r p)
    (parcels : ∀ frames ∈ p.queue, ∃ m, Message.ofFrames frames = .ok m ∧ Parcel known m) :
    GatherGoes B d c n rn v r p
      ((v.element c n phase v.pull k log name lifecycle stats).step (collectorStrategy B.logged)
        net) := by
  cases does with
  | created k => exact .stays (.mk (.gathering (.beginning k)) logged) lines
  | beginning k => exact .stays (.mk (.gathering (.binding k)) logged) lines
  | binding k =>
    simp only [GatherView.element, Element.step, Element.advance, collectorStrategy,
      Pipeline.strategy, Pipeline.step, Collector.source, Collector.step]
    cases hbind : PullSocket.bind net c with
    | blocked => exact .stays (.mk (.gathering (.binding k)) logged) lines
    | failed cause => exact Or.inl (.disconnectingSink _ _)
    | done socket net' =>
      obtain ⟨huri, hbinder, lines'⟩ := lines.bindPipe hdc hbind
      have here : GatherView.Open c { pull := some socket } :=
        ⟨⟨socket, rfl, huri, hbinder⟩, by simp, rfl, rfl⟩
      exact .moves (.bind p socket rfl) (.mk (.gathering (.joining k here rfl)) logged) lines'
  | joining k here free =>
    exact .stays (.mk (.gathering (.connecting _ k here free)) logged) lines
  | connecting task k here free =>
    refine serving_step plain .connectingSink lines (by unfold Element.step; rfl) rfl
      (fun _ rest k' _ _ _ _ => .mk (.gathering (.connecting rest k' here free)) logged)
      fun result k' net' hstep lines' => ?_
    simp only [GatherView.element, Element.step, Element.advance, collectorStrategy,
      Pipeline.strategy, Pipeline.step, Sink.logged, hstep]
    cases result with
    | error cause => exact Or.inl (.disconnectingSink _ _)
    | ok reply => exact .stays (.mk (.gathering (.fetching k' here free)) logged) lines'
  | fetching k here free =>
    obtain ⟨pull, records, producers, seen, hand, collected, ended, closed⟩ := v
    obtain ⟨_, _, hended, _⟩ := id here
    cases hended
    simp only [GatherView.element, Element.step, Element.advance, collectorStrategy,
      Pipeline.strategy, Pipeline.step, Pipeline.begin, Pipeline.fetch, Sink.logged, plain.eager]
    exact .stays (.mk (.gathering (.polling here free (.start k))) logged) lines
  | polling here free now => exact polling_step plain here free now logged lines
  | reading k here free => exact reading_step here free logged lines parcels
  | @taking _ x k here hand wholeX =>
    -- A record that was read out of a parcel is whole, so it passes the processor unchanged.
    have hrecords : (Message.process [x]).records = .ok [x] :=
      Message.records_process (by simpa using wholeX)
    have happly := Processor.apply_passThrough hrecords
    simp only [GatherView.element, Element.step, Element.advance, collectorStrategy,
      Pipeline.strategy, Pipeline.step, Pipeline.begin, Pipeline.dispatch, Pipeline.process,
      happly]
    exact .stays (.mk (.gathering (.sending _ k here hand)) logged) lines
  | sending task k here hand => exact collecting_step plain here hand logged lines

/-- The sink has taken the end as well, and the gatherer leaves the loop. -/
theorem sendingEnd_step {task : υ} (plain : B.IsPlain) (here : v.Ended c n)
    (still : v.closed = false) (logged : log = v.log)
    (lines : Lines net d c rn (v.pull.map PullSocket.number) r p) :
    GatherGoes B d c n rn v r p
      ((v.element c n (.dispatching .endOfStream (.inSink .checked (.send .endOfStream, task)))
        v.pull k log name lifecycle stats).step (collectorStrategy B.logged) net) := by
  refine serving_step plain (.dispatching _) lines (by unfold Element.step; rfl) rfl
    (fun _ rest k' _ _ _ _ => .mk (.finishing (.sendingEnd rest k' here still)) logged)
    fun result k' net' hstep lines' => ?_
  obtain ⟨pull, records, producers, seen, hand, collected, ended, closed⟩ := v
  obtain ⟨_, hended, _⟩ := id here
  cases hended
  simp only [GatherView.element, Element.step, Element.advance, collectorStrategy,
    Pipeline.strategy, Pipeline.step, Sink.logged, hstep]
  cases result with
  | error cause => exact Or.inl (.disconnectingSink _ _)
  | ok reply =>
    have here' : GatherView.Ended c n
        { pull, records, producers, seen, hand, collected, ended := true, closed := true } :=
      ⟨here.bound, rfl, here.records, here.hand, here.producers, here.seen⟩
    have logged' := congrArg (· ++ [Message.endOfStream]) logged
    simp only [Pipeline.afterSink, Pipeline.answer, Pipeline.isDone, plain.settled,
      Bool.and_self, Bool.true_or, if_true]
    exact .moves (.conclude p)
      (.mk (.finishing (.closing k' here' rfl))
        (logged'.trans (GatherView.log_conclude still))) lines'

/-- A step after the end was handed out. -/
theorem finishing_step (plain : B.IsPlain) (hdc : d ≠ c) (does : Finishing c n phase pull k v)
    (logged : log = v.log) (lines : Lines net d c rn (v.pull.map PullSocket.number) r p) :
    GatherGoes B d c n rn v r p
      ((v.element c n phase pull k log name lifecycle stats).step (collectorStrategy B.logged)
        net) := by
  cases does with
  | meeting k here still =>
    exact .stays (.mk (.finishing (.sendingEnd _ k here still)) logged) lines
  | sendingEnd task k here still => exact sendingEnd_step plain here still logged lines
  | closing k here closed =>
    exact .stays (.mk (.finishing (.disconnecting _ k here closed)) logged) lines
  | disconnecting task k here closed =>
    refine serving_step plain (.disconnectingSink none) lines (by unfold Element.step; rfl) rfl
      (fun _ rest k' _ _ _ _ => .mk (.finishing (.disconnecting rest k' here closed)) logged)
      fun result k' net' hstep lines' => ?_
    simp only [GatherView.element, Element.step, Element.advance, collectorStrategy,
      Pipeline.strategy, Pipeline.step, Sink.logged, hstep]
    cases result with
    | error cause => exact Or.inl (.disconnectingSource _ _)
    | ok reply => exact .stays (.mk (.finishing (.turning k' here closed)) logged) lines'
  | turning k here closed =>
    exact .stays (.mk (.finishing (.unbinding k here closed)) logged) lines
  | unbinding k here closed =>
    -- The pipe is the collector's own, and is closed with its socket.
    obtain ⟨pull, records, producers, seen, hand, collected, ended, closed⟩ := v
    obtain ⟨socket, hpull, huri, hbinder⟩ := here.bound
    cases hpull
    have lines' := lines.pullClose hdc rfl huri hbinder
    exact .moves (.close _ p) (.mk (.finishing (.releasing k _ here closed)) logged) lines'
  | releasing k stats here closed =>
    exact .stays (.mk (.finishing (.releasingSource k stats here closed)) logged) lines
  | releasingSource k stats here closed =>
    exact .stays (.mk (.finishing (.releasingSink _ k stats here closed)) logged) lines
  | releasingSink task k stats here closed =>
    obtain ⟨progress, k', net', hstep, lines'⟩ := plain.step_lines lines task k
    simp only [GatherView.element, Element.step, collectorStrategy, Pipeline.strategy,
      Pipeline.step, Sink.logged, hstep]
    cases progress with
    | waiting until? =>
      exact .stays (.mk (.finishing (.releasingSink task k' stats here closed)) logged) lines'
    | working rest =>
      exact .stays (.mk (.finishing (.releasingSink rest k' stats here closed)) logged) lines'
    | panicked => exact .stays (.mk (.finishing (.finished k' stats here closed)) logged) lines'
    | finished result =>
      cases result with
      | error cause =>
        exact .stays (.mk (.finishing (.finished k' stats here closed)) logged) lines'
      | ok reply => exact .stays (.mk (.finishing (.finished k' stats here closed)) logged) lines'
  | finished k stats here closed =>
    exact .stays (.mk (.finishing (.finished k stats here closed)) logged) lines

/-- **A step of a gatherer is a move of its view**, unless it fails. -/
theorem gatherer_step (plain : B.IsPlain) (hdc : d ≠ c) (here : GatherAt B c n e v)
    (lines : Lines net d c rn (v.pull.map PullSocket.number) r p)
    (parcels : ∀ frames ∈ p.queue, ∃ m, Message.ofFrames frames = .ok m ∧ Parcel known m) :
    GatherGoes B d c n rn v r p (e.step (collectorStrategy B.logged) net) := by
  obtain ⟨does, logged⟩ := here
  cases does with
  | gathering does => exact gathering_step plain hdc does logged lines parcels
  | finishing does => exact finishing_step plain hdc does logged lines

/-- A gatherer that ended has nothing left. -/
theorem GatherAt.settled (here : GatherAt B c n e v) (h : e.outcome? ≠ none) :
    v.Ended c n ∧ v.closed = true ∧ e.strategy.sink.2 = v.log := by
  obtain ⟨does, logged⟩ := here
  rcases does with does | does
  · cases does <;> exact absurd rfl h
  · cases does with
    | finished _ _ here closed => exact ⟨here, closed, logged⟩
    | _ => exact absurd rfl h

end Steps

end Farm

end RecordFarm
