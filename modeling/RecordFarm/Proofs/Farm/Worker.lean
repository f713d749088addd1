import RecordFarm.Proofs.Farm.Logs
import RecordFarm.Proofs.Farm.Runs
import RecordFarm.Proofs.Wire.Hop

/-!
# One step of a worker

A worker connects to the distributor and to the collector, and then goes round: it hands out a
record that it has, or asks for more; its processor works on the record; what comes of it is
pushed. When it gets the end it pushes that too, and takes leave of both.

`WorkerView` is what matters of a worker for the accounts of its farm, `WorkerAt` says in which
phases what is true of it, and `WorkerMove` is what a worker can do to its view, to the router and
to the pipe. A step of a worker is such a move, or the worker fails (`worker_step`).
-/

namespace RecordFarm

namespace Farm

inductive Stage where
  | fresh
  | present
  | gone
  deriving DecidableEq

/-- What matters of a worker. Its processor keeps a log. -/
structure WorkerView (π : Type) where
  proc : π × List Bytes
  /-- Its end of the router, as long as it is connected. -/
  dealer : Option DealerSocket := none
  /-- Its end of the pipe, once it is connected. -/
  push : Option PushSocket := none
  stage : Stage := .fresh
  /-- The record that is about to be processed. -/
  hand : List Bytes := []
  /-- Records received and not yet handed out. -/
  records : List Bytes := []
  /-- Whether it got the end. -/
  ended : Bool := false
  /-- What the processor made and was not pushed yet. -/
  output : List Bytes := []

def WorkerView.busy {π : Type} (proc : π × List Bytes) (dealer : DealerSocket) (push : PushSocket)
    (records : List Bytes) : WorkerView π where
  proc := proc
  dealer := some dealer
  push := some push
  stage := .present
  records := records

def WorkerView.sated {π : Type} (proc : π × List Bytes) (dealer : DealerSocket)
    (push : PushSocket) : WorkerView π where
  proc := proc
  dealer := some dealer
  push := some push
  stage := .present
  ended := true

def WorkerView.left {π : Type} (proc : π × List Bytes) (dealer : Option DealerSocket)
    (push : PushSocket) : WorkerView π where
  proc := proc
  dealer := dealer
  push := some push
  stage := .gone
  ended := true

variable {π : Type}

/-- What is true of a worker in each phase until it goes round: which sockets its source and its
sink own, whether its source has ended, and its view. -/
inductive Arriving (id : ClientId) :
    Phase (Pipeline.Task Fanout.Client.Task Fanin.Producer.Task) → Option DealerSocket →
      Option PushSocket → Bool → WorkerView π → Prop where
  | created (proc : π × List Bytes) : Arriving id .created none none false { proc }
  | opening (proc : π × List Bytes) :
      Arriving id (.connectingSource (.begin .connectSource)) none none false { proc }
  | connecting (proc : π × List Bytes) :
      Arriving id (.connectingSource (.inSource .plain (.begin .connect))) none none false { proc }
  | looking (proc : π × List Bytes) (deadline : Nat) :
      Arriving id (.connectingSource (.inSource .plain (.connecting deadline))) none none false
        { proc }
  | registering (proc : π × List Bytes) {dealer : DealerSocket} (own : dealer.identity = id) :
      Arriving id (.connectingSource (.inSource .plain (.registering dealer))) none none false
        { proc, dealer := some dealer }
  | joining (proc : π × List Bytes) {dealer : DealerSocket} (own : dealer.identity = id) :
      Arriving id (.connectingSink (.begin .connectSink)) (some dealer) none false
        { proc, dealer := some dealer }
  | attaching (proc : π × List Bytes) {dealer : DealerSocket} (own : dealer.identity = id) :
      Arriving id (.connectingSink (.inSink .plain (.begin .connect))) (some dealer) none false
        { proc, dealer := some dealer }
  | seeking (proc : π × List Bytes) {dealer : DealerSocket} (own : dealer.identity = id)
      (deadline : Nat) :
      Arriving id (.connectingSink (.inSink .plain (.connecting deadline))) (some dealer) none
        false { proc, dealer := some dealer }
  | announcing (proc : π × List Bytes) {dealer : DealerSocket} {push : PushSocket}
      (own : dealer.identity = id) (other : push.isBinder = false) :
      Arriving id (.connectingSink (.inSink .plain (.registering push))) (some dealer) none false
        { proc, dealer := some dealer, push := some push }

inductive Working (id : ClientId) :
    Phase (Pipeline.Task Fanout.Client.Task Fanin.Producer.Task) → Option DealerSocket →
      Option PushSocket → Bool → WorkerView π → Prop where
  | fetching (proc : π × List Bytes) {dealer : DealerSocket} {push : PushSocket}
      {records : List Bytes} (own : dealer.identity = id) (other : push.isBinder = false)
      (whole : ∀ r ∈ records, Record.isWhole r = true) :
      Working id (.fetching (.begin .fetch)) (some dealer) (some push) false
        (.busy proc dealer push records)
  | polling (proc : π × List Bytes) {dealer : DealerSocket} {push : PushSocket}
      {records : List Bytes} (own : dealer.identity = id) (other : push.isBinder = false)
      (whole : ∀ r ∈ records, Record.isWhole r = true) :
      Working id (.fetching (.inSink .polled (.begin .poll))) (some dealer) (some push) false
        (.busy proc dealer push records)
  | asking (proc : π × List Bytes) {dealer : DealerSocket} {push : PushSocket}
      {records : List Bytes} {ended : Bool} (own : dealer.identity = id)
      (other : push.isBinder = false) (whole : ∀ r ∈ records, Record.isWhole r = true)
      (last : ended = true → records = []) :
      Working id (.fetching (.inSource .fetched (.begin .next))) (some dealer) (some push) false
        { WorkerView.busy proc dealer push records with ended }
  | awaiting (proc : π × List Bytes) {dealer : DealerSocket} {push : PushSocket}
      (own : dealer.identity = id) (other : push.isBinder = false) :
      Working id (.fetching (.inSource .fetched .awaiting)) (some dealer) (some push) false
        (.busy proc dealer push [])
  | handling (proc : π × List Bytes) {dealer : DealerSocket} {push : PushSocket}
      {records : List Bytes} {x : Bytes} (own : dealer.identity = id)
      (other : push.isBinder = false) (whole : ∀ r ∈ records, Record.isWhole r = true)
      (wholeX : Record.isWhole x = true) :
      Working id
        (.dispatching (.process [x]) (.begin (.dispatch .process (.process [x]) true)))
        (some dealer) (some push) false
        { WorkerView.busy proc dealer push records with hand := [x] }
  | sending (proc : π × List Bytes) {dealer : DealerSocket} {push : PushSocket}
      {records outs : List Bytes} {x : Bytes} (own : dealer.identity = id)
      (other : push.isBinder = false) (whole : ∀ r ∈ records, Record.isWhole r = true)
      (wholeOut : ∀ r ∈ outs, Record.isWhole r = true) :
      Working id (.dispatching (.process [x]) (.inSink .plain (.begin (.send (.process outs)))))
        (some dealer) (some push) false
        { WorkerView.busy proc dealer push records with output := outs }
  | pushing (proc : π × List Bytes) {dealer : DealerSocket} {push : PushSocket}
      {records outs : List Bytes} {x : Bytes} {frames : Frames} {m : Message}
      (own : dealer.identity = id) (other : push.isBinder = false)
      (whole : ∀ r ∈ records, Record.isWhole r = true) (framed : Message.ofFrames frames = .ok m)
      (kind : m.kind = .process) (content : m.records = .ok outs) :
      Working id (.dispatching (.process [x]) (.inSink .plain (.pushing frames))) (some dealer)
        (some push) false { WorkerView.busy proc dealer push records with output := outs }

inductive Leaving (id : ClientId) :
    Phase (Pipeline.Task Fanout.Client.Task Fanin.Producer.Task) → Option DealerSocket →
      Option PushSocket → Bool → WorkerView π → Prop where
  | ending (proc : π × List Bytes) {dealer : DealerSocket} {push : PushSocket}
      (own : dealer.identity = id) (other : push.isBinder = false) :
      Leaving id
        (.dispatching .endOfStream (.begin (.dispatch .endOfStream .endOfStream true)))
        (some dealer) (some push) true (.sated proc dealer push)
  | sendingEnd (proc : π × List Bytes) {dealer : DealerSocket} {push : PushSocket}
      (own : dealer.identity = id) (other : push.isBinder = false) :
      Leaving id
        (.dispatching .endOfStream (.inSink .checked (.begin (.send .endOfStream)))) (some dealer)
        (some push) true (.sated proc dealer push)
  | pushingEnd (proc : π × List Bytes) {dealer : DealerSocket} {push : PushSocket}
      {frames : Frames} (own : dealer.identity = id) (other : push.isBinder = false)
      (framed : Message.ofFrames frames = .ok .endOfStream) :
      Leaving id (.dispatching .endOfStream (.inSink .checked (.pushing frames))) (some dealer)
        (some push) true (.sated proc dealer push)
  | closing (proc : π × List Bytes) {dealer : DealerSocket} {push : PushSocket}
      (own : dealer.identity = id) (other : push.isBinder = false) :
      Leaving id (.disconnectingSink none (.begin .disconnectSink)) (some dealer) (some push)
        true (.sated proc dealer push)
  | parting (proc : π × List Bytes) {dealer : DealerSocket} {push : PushSocket}
      (own : dealer.identity = id) (other : push.isBinder = false) :
      Leaving id (.disconnectingSink none (.inSink .plain (.begin .disconnect))) (some dealer)
        (some push) true (.sated proc dealer push)
  | withdrawing (proc : π × List Bytes) {dealer : DealerSocket} {push : PushSocket}
      (own : dealer.identity = id) (other : push.isBinder = false) :
      Leaving id (.disconnectingSink none (.inSink .plain (.leaving push))) (some dealer) none
        true (.sated proc dealer push)
  | turning (proc : π × List Bytes) {dealer : DealerSocket} {push : PushSocket}
      (own : dealer.identity = id) :
      Leaving id (.disconnectingSource none (.begin .disconnectSource)) (some dealer) none true
        (.left proc (some dealer) push)
  | quitting (proc : π × List Bytes) {dealer : DealerSocket} {push : PushSocket}
      (own : dealer.identity = id) :
      Leaving id (.disconnectingSource none (.inSource .plain (.begin .disconnect)))
        (some dealer) none true (.left proc (some dealer) push)
  | leaving (proc : π × List Bytes) {dealer : DealerSocket} {push : PushSocket}
      (own : dealer.identity = id) :
      Leaving id (.disconnectingSource none (.inSource .plain (.leaving dealer))) none none true
        (.left proc (some dealer) push)
  | releasing (proc : π × List Bytes) {push : PushSocket} (stats : Stats) :
      Leaving id (.releasing (.returned (.ok stats)) (.begin .release)) none none true
        (.left proc none push)
  | releasingSource (proc : π × List Bytes) {push : PushSocket} (stats : Stats) :
      Leaving id (.releasing (.returned (.ok stats)) (.inSource .released (.begin .release)))
        none none true (.left proc none push)
  | releasingSink (proc : π × List Bytes) {push : PushSocket} (stats : Stats) :
      Leaving id (.releasing (.returned (.ok stats)) (.inSink .plain (.begin .release))) none
        none true (.left proc none push)
  | finished (proc : π × List Bytes) {push : PushSocket} (stats : Stats) :
      Leaving id (.over (.returned (.ok stats))) none none true (.left proc none push)

inductive WorkerDoes (id : ClientId)
    (phase : Phase (Pipeline.Task Fanout.Client.Task Fanin.Producer.Task))
    (dealer : Option DealerSocket) (push : Option PushSocket) (sourceDone : Bool)
    (v : WorkerView π) : Prop where
  | arriving (does : Arriving id phase dealer push sourceDone v)
  | working (does : Working id phase dealer push sourceDone v)
  | leaving (does : Leaving id phase dealer push sourceDone v)

def WorkerView.element (d c : String) (id : ClientId) (v : WorkerView π)
    (phase : Phase (Pipeline.Task Fanout.Client.Task Fanin.Producer.Task))
    (dealer : Option DealerSocket) (push : Option PushSocket) (sourceDone : Bool) (name : String)
    (sent : Nat) (lifecycle : Lifecycle) (stats : Stats) : Worker (π × List Bytes) where
  strategy :=
    { name
      source := { uri := d, identity := id, dealer, records := v.records, ended := v.ended }
      processor := v.proc
      sink := { uri := c, identity := id, push, sent }
      sourceDone }
  phase := phase
  lifecycle := lifecycle
  stats := stats

inductive WorkerAt (d c : String) (id : ClientId) :
    Worker (π × List Bytes) → WorkerView π → Prop where
  | mk {phase : Phase (Pipeline.Task Fanout.Client.Task Fanin.Producer.Task)}
      {dealer : Option DealerSocket} {push : Option PushSocket} {sourceDone : Bool}
      {v : WorkerView π} {name : String} {sent : Nat} {lifecycle : Lifecycle} {stats : Stats}
      (does : WorkerDoes id phase dealer push sourceDone v) :
      WorkerAt d c id
        (v.element d c id phase dealer push sourceDone name sent lifecycle stats) v

/-- What a worker can do: to its view, to the router numbered `rn` and to the pipe numbered
`pn`. -/
inductive WorkerMove (P : Processor π) (id : ClientId) (rn pn : Option Nat) :
    WorkerView π → Router → Pipe → WorkerView π → Router → Pipe → Prop where
  | still (v : WorkerView π) (r : Router) (p : Pipe) : WorkerMove P id rn pn v r p v r p
  /-- It connects to the router. -/
  | connect {v : WorkerView π} (r : Router) (p : Pipe) {s : DealerSocket} (free : v.dealer = none)
      (number : rn = some s.number) (mailbox : s.mailbox = r.mailboxes.length) :
      WorkerMove P id rn pn v r p { v with dealer := some s }
        { r with
          mailboxes := r.mailboxes ++ [[]]
          peers := (id, s.mailbox) :: r.peers.filter fun peer => peer.1 ≠ id }
        p
  /-- It says something to the router: that it is there, or that it asks for more. -/
  | say {v : WorkerView π} (r : Router) (p : Pipe) {m : Message} {frames : Frames}
      (word : m = .registration id ∨ m = .dataRequest id)
      (framed : Message.ofFrames frames = .ok m) :
      WorkerMove P id rn pn v r p v { r with inbound := r.inbound ++ [(id, frames)] } p
  /-- It gets records. -/
  | receive {v : WorkerView π} {r : Router} (p : Pipe) {s : DealerSocket} {frames : Frames}
      {rest : Mailbox} {m : Message} {records : List Bytes} (own : v.dealer = some s)
      (mail : r.mailboxes[s.mailbox]? = some (frames :: rest))
      (framed : Message.ofFrames frames = .ok m) (kind : m.kind = .process)
      (content : m.records = .ok records) :
      WorkerMove P id rn pn v r p { v with records := v.records ++ records }
        { r with mailboxes := r.mailboxes.modify s.mailbox List.tail } p
  /-- It gets the end. -/
  | meetEnd {v : WorkerView π} {r : Router} (p : Pipe) {s : DealerSocket} {frames : Frames}
      {rest : Mailbox} {m : Message} (own : v.dealer = some s)
      (mail : r.mailboxes[s.mailbox]? = some (frames :: rest))
      (framed : Message.ofFrames frames = .ok m) (kind : m.kind = .endOfStream) :
      WorkerMove P id rn pn v r p { v with ended := true }
        { r with mailboxes := r.mailboxes.modify s.mailbox List.tail } p
  /-- It takes up a record. -/
  | take {v : WorkerView π} (r : Router) (p : Pipe) {x : Bytes} {rest : List Bytes}
      (first : v.records = x :: rest) (free : v.hand = []) :
      WorkerMove P id rn pn v r p { v with hand := [x], records := rest } r p
  /-- Its processor works on the record. -/
  | handle {v : WorkerView π} (r : Router) (p : Pipe) {x : Bytes} {outs : List Bytes} {state : π}
      (hand : v.hand = [x]) (free : v.output = []) (wholeX : Record.isWhole x = true)
      (works : P.process x v.proc.1 = (.ok outs, state)) :
      WorkerMove P id rn pn v r p
        { v with proc := (state, v.proc.2 ++ [x]), hand := [], output := outs } r p
  /-- It connects to the pipe. -/
  | attach {v : WorkerView π} (r : Router) (p : Pipe) {s : PushSocket}
      (number : pn = some s.number) :
      WorkerMove P id rn pn v r p { v with push := some s } r p
  /-- It tells the collector that it is there. -/
  | announce {v : WorkerView π} (r : Router) (p : Pipe) {s : PushSocket} {frames : Frames}
      (own : v.push = some s) (fresh : v.stage = .fresh)
      (framed : Message.ofFrames frames = .ok (.registration id)) :
      WorkerMove P id rn pn v r p { v with stage := .present } r
        { p with queue := p.queue ++ [frames] }
  /-- It pushes what it made. -/
  | push {v : WorkerView π} (r : Router) (p : Pipe) {s : PushSocket} {frames : Frames}
      {m : Message} (own : v.push = some s) (present : v.stage = .present)
      (framed : Message.ofFrames frames = .ok m) (kind : m.kind = .process)
      (content : m.records = .ok v.output) :
      WorkerMove P id rn pn v r p { v with output := [] } r { p with queue := p.queue ++ [frames] }
  /-- It passes the end on. -/
  | pushEnd {v : WorkerView π} (r : Router) (p : Pipe) {s : PushSocket} {frames : Frames}
      (own : v.push = some s) (framed : Message.ofFrames frames = .ok .endOfStream) :
      WorkerMove P id rn pn v r p v r { p with queue := p.queue ++ [frames] }
  /-- It tells the collector that it leaves. -/
  | withdraw {v : WorkerView π} (r : Router) (p : Pipe) {s : PushSocket} {frames : Frames}
      (own : v.push = some s) (present : v.stage = .present)
      (framed : Message.ofFrames frames = .ok (.unregistration id)) :
      WorkerMove P id rn pn v r p { v with stage := .gone } r
        { p with queue := p.queue ++ [frames] }
  /-- It takes leave of the router. -/
  | leave {v : WorkerView π} (r : Router) (p : Pipe) {s : DealerSocket} {frames : Frames}
      (own : v.dealer = some s) (last : v.ended = true)
      (framed : Message.ofFrames frames = .ok (.unregistration id)) :
      WorkerMove P id rn pn v r p { v with dealer := none }
        { r with
          inbound := r.inbound ++ [(id, frames)]
          peers := r.peers.filter fun peer => peer.1 ≠ id }
        p

/-- Where a step takes a worker: it fails, or it makes a move. -/
def WorkerGoes (P : Processor π) (d c : String) (id : ClientId) (rn pn : Option Nat)
    (v : WorkerView π) (r : Router) (p : Pipe)
    (after : Turn × Worker (π × List Bytes) × Network) : Prop :=
  after.2.1.phase.Failed ∨ ∃ v' r' p', WorkerMove P id rn pn v r p v' r' p' ∧
    WorkerAt d c id after.2.1 v' ∧ Lines after.2.2 d c rn pn r' p'

section Steps

variable {P : Processor π} {d c : String} {id : ClientId} {rn pn : Option Nat}
  {v v' : WorkerView π} {r r' : Router} {p p' : Pipe} {net net' : Network} {t : Turn}
  {e : Worker (π × List Bytes)}

theorem WorkerGoes.stays (here : WorkerAt d c id e v) (lines : Lines net d c rn pn r p) :
    WorkerGoes P d c id rn pn v r p (t, e, net) :=
  Or.inr ⟨v, r, p, .still v r p, here, lines⟩

theorem WorkerGoes.moves (move : WorkerMove P id rn pn v r p v' r' p')
    (here : WorkerAt d c id e v') (lines : Lines net d c rn pn r' p') :
    WorkerGoes P d c id rn pn v r p (t, e, net) :=
  Or.inr ⟨v', r', p', move, here, lines⟩

variable {phase : Phase (Pipeline.Task Fanout.Client.Task Fanin.Producer.Task)}
  {dealer : Option DealerSocket} {push : Option PushSocket} {sourceDone : Bool} {name : String}
  {sent : Nat} {lifecycle : Lifecycle} {stats : Stats}

/-- A worker that arrives connects on both sides and announces itself. -/
theorem arriving_step (does : Arriving id phase dealer push sourceDone v)
    (lines : Lines net d c rn pn r p) (router : ∀ s, v.dealer = some s → rn = some s.number)
    (pipe : ∀ s, v.push = some s → pn = some s.number) :
    WorkerGoes P d c id rn pn v r p
      ((v.element d c id phase dealer push sourceDone name sent lifecycle stats).step
        (workerStrategy P.logged) net) := by
  cases does with
  | created proc => exact .stays (.mk (.arriving (.opening proc))) lines
  | opening proc => exact .stays (.mk (.arriving (.connecting proc))) lines
  | connecting proc => exact .stays (.mk (.arriving (.looking proc _))) lines
  | looking proc deadline =>
    simp only [WorkerView.element, Element.step, Element.advance, workerStrategy,
      Pipeline.strategy, Pipeline.step, Fanout.Client.source, Fanout.Client.step]
    cases hconnect : (DealerSocket.connect net d id).orNotBound d (deadline ≤ net.now) with
    | blocked => exact .stays (.mk (.arriving (.looking proc _))) lines
    | failed cause => exact Or.inl (.disconnectingSink _ _)
    | done s net' =>
      have hdone := Attempt.of_orNotBound hconnect
      obtain ⟨hnumber, hmailbox, hid, lines'⟩ := lines.connectDealer hdone
      exact .moves (.connect r p rfl hnumber hmailbox)
        (.mk (.arriving (.registering proc hid))) lines'
  | @registering proc dealer own =>
    -- A registration always fits into frames, so only room can be missing.
    obtain ⟨frames, hframes, framed⟩ := Message.exists_frames (m := .registration id) rfl rfl
    simp only [WorkerView.element, Element.step, Element.advance, workerStrategy,
      Pipeline.strategy, Pipeline.step, Fanout.Client.source, Fanout.Client.step,
      Fanout.Client.speak, hframes]
    cases hsend : dealer.send frames net with
    | blocked => exact .stays (.mk (.arriving (.registering proc own))) lines
    | failed cause => exact Or.inl (.disconnectingSink _ _)
    | done _ net' =>
      have lines' := lines.dealerSend (router dealer rfl) hsend
      rw [own] at lines'
      exact .moves (.say r p (Or.inl rfl) framed) (.mk (.arriving (.joining proc own))) lines'
  | joining proc own => exact .stays (.mk (.arriving (.attaching proc own))) lines
  | attaching proc own => exact .stays (.mk (.arriving (.seeking proc own _))) lines
  | seeking proc own deadline =>
    simp only [WorkerView.element, Element.step, Element.advance, workerStrategy,
      Pipeline.strategy, Pipeline.step, Fanin.Producer.sink, Fanin.Producer.step]
    cases hconnect : (PushSocket.connect net c).orNotBound c (deadline ≤ net.now) with
    | blocked => exact .stays (.mk (.arriving (.seeking proc own _))) lines
    | failed cause => exact Or.inl (.disconnectingSink _ _)
    | done s net' =>
      obtain ⟨hnumber, hother, rfl⟩ := lines.connectPush (Attempt.of_orNotBound hconnect)
      exact .moves (.attach r p hnumber) (.mk (.arriving (.announcing proc own hother))) lines
  | @announcing proc dealer push own other =>
    obtain ⟨frames, hframes, framed⟩ := Message.exists_frames (m := .registration id) rfl rfl
    simp only [WorkerView.element, Element.step, Element.advance, workerStrategy,
      Pipeline.strategy, Pipeline.step, Fanin.Producer.sink, Fanin.Producer.step,
      Fanin.Producer.speak, hframes]
    cases hsend : push.send frames net with
    | blocked => exact .stays (.mk (.arriving (.announcing proc own other))) lines
    | failed cause => exact Or.inl (.disconnectingSink _ _)
    | done _ net' =>
      have lines' := lines.pushSend (pipe push rfl) hsend
      exact .moves (.announce r p rfl rfl framed)
        (.mk (.working (.fetching proc own other (by simp)))) lines'

/-- Where a step takes a worker that has this view and owns these sockets in this phase, before the
end has come. -/
abbrev WorkerView.StepGoes (v : WorkerView π) (P : Processor π) (d c : String) (id : ClientId)
    (rn pn : Option Nat) (r : Router) (p : Pipe) (net : Network)
    (phase : Phase (Pipeline.Task Fanout.Client.Task Fanin.Producer.Task)) (dealer : DealerSocket)
    (push : PushSocket) : Prop :=
  ∀ name sent lifecycle stats, WorkerGoes P d c id rn pn v r p
    ((v.element d c id phase (some dealer) (some push) false name sent lifecycle stats).step
      (workerStrategy P.logged) net)

section Working

variable (proc : π × List Bytes) {dealer : DealerSocket} {push : PushSocket}
  {records outs : List Bytes} {x : Bytes}

/-- Records that a worker has go first, then the end. It asks for more when it has neither. -/
theorem asking_step {ended : Bool} (own : dealer.identity = id) (other : push.isBinder = false)
    (wholes : ∀ y ∈ records, Record.isWhole y = true) (last : ended = true → records = [])
    (lines : Lines net d c rn pn r p) (router : rn = some dealer.number) :
    WorkerView.StepGoes { WorkerView.busy proc dealer push records with ended } P d c id rn pn r p
      net (.fetching (.inSource .fetched (.begin .next))) dealer push := by
  intro name sent lifecycle stats
  cases records with
  | cons x rest =>
    have hended : ended = false := by
      cases ended with
      | false => rfl
      | true => cases last rfl
    subst hended
    have hx : Record.isWhole x = true := wholes x List.mem_cons_self
    have hrest : ∀ y ∈ rest, Record.isWhole y = true :=
      fun y hy => wholes y (List.mem_cons_of_mem _ hy)
    exact .moves (.take r p rfl rfl) (.mk (.working (.handling proc own other hrest hx))) lines
  | nil =>
    cases ended with
    | true => exact .stays (.mk (.leaving (.ending proc own other))) lines
    | false =>
      obtain ⟨frames, hframes, framed⟩ := Message.exists_frames (m := .dataRequest id) rfl rfl
      simp only [WorkerView.element, WorkerView.busy, Element.step, Element.advance,
        workerStrategy, Pipeline.strategy, Pipeline.step, Fanout.Client.source,
        Fanout.Client.step, Fanout.Client.next, hframes]
      cases hsend : dealer.send frames net with
      | blocked => exact .stays (.mk (.working (.asking proc own other wholes last))) lines
      | failed cause => exact Or.inl (.disconnectingSink _ _)
      | done _ net' =>
        have lines' := lines.dealerSend router hsend
        rw [own] at lines'
        exact .moves (.say r p (Or.inr rfl) framed)
          (.mk (.working (.awaiting proc own other))) lines'

/-- What comes is records or the end. The end only marks the worker: it is passed on in the next
round. -/
theorem awaiting_step (own : dealer.identity = id) (other : push.isBinder = false)
    (lines : Lines net d c rn pn r p) (router : rn = some dealer.number)
    (mail : ∀ box ∈ r.mailboxes, ∀ frames ∈ box, Message.Letter frames) :
    WorkerView.StepGoes (.busy proc dealer push []) P d c id rn pn r p net
      (.fetching (.inSource .fetched .awaiting)) dealer push := by
  intro name sent lifecycle stats
  simp only [WorkerView.element, WorkerView.busy, Element.step, Element.advance, workerStrategy,
    Pipeline.strategy, Pipeline.step, Fanout.Client.source, Fanout.Client.step]
  cases hrecv : dealer.recv net with
  | blocked => exact .stays (.mk (.working (.awaiting proc own other))) lines
  | failed cause => exact Or.inl (.disconnectingSink _ _)
  | done frames net' =>
    obtain ⟨⟨rest, hbox⟩, lines'⟩ := lines.dealerRecv router hrecv
    have letter := mail _ (List.mem_of_getElem? hbox) frames List.mem_cons_self
    obtain ⟨m, framed, hend | ⟨hprocess, records, content⟩⟩ := letter
    · simp only [Fanout.Client.takeIn, framed, hend]
      exact .moves (.meetEnd p rfl hbox framed hend)
        (.mk (.working (.asking proc own other (by simp) fun _ => rfl))) lines'
    · have hrecords := Message.isWhole_of_records content
      simp only [Fanout.Client.takeIn, framed, hprocess, content]
      exact .moves (.receive p rfl hbox framed hprocess content)
        (.mk (.working (.asking proc own other hrecords (by simp)))) lines'

/-- A processor that refuses the record, or panics, dooms the worker. Nothing is pushed when it made
nothing. -/
theorem processing_step (whole : P.MakesWhole proc.1) (own : dealer.identity = id)
    (other : push.isBinder = false) (wholes : ∀ y ∈ records, Record.isWhole y = true)
    (wholeX : Record.isWhole x = true) (lines : Lines net d c rn pn r p) :
    WorkerView.StepGoes { WorkerView.busy proc dealer push records with hand := [x] } P d c id rn
      pn r p net (.dispatching (.process [x]) (.begin (.dispatch .process (.process [x]) true)))
      dealer push := by
  intro name sent lifecycle stats
  obtain ⟨start, log⟩ := proc
  cases hworks : P.process x start with
  | mk result state =>
  have happly := Processor.apply_singleton wholeX (Processor.logged_process log hworks)
  simp only [WorkerView.element, WorkerView.busy, Element.step, Element.advance, workerStrategy,
    Pipeline.strategy, Pipeline.step, Pipeline.begin, Pipeline.dispatch, Pipeline.process, happly]
  cases result with
  | error fault =>
    cases fault with
    | error cause => exact Or.inl (.disconnectingSink _ _)
    | panic => exact Or.inl (.releasing rfl _)
  | ok outs =>
    have wholeOut := whole x outs state wholeX hworks
    cases outs with
    | nil =>
      exact .moves (.handle r p rfl rfl wholeX hworks)
        (.mk (.working (.fetching (state, log ++ [x]) own other wholes))) lines
    | cons out outs =>
      exact .moves (.handle r p rfl rfl wholeX hworks)
        (.mk (.working (.sending (state, log ++ [x]) own other wholes wholeOut))) lines

/-- What the collector will read has the records that the processor made. -/
theorem sending_step (own : dealer.identity = id) (other : push.isBinder = false)
    (wholes : ∀ y ∈ records, Record.isWhole y = true)
    (wholeOut : ∀ y ∈ outs, Record.isWhole y = true) (lines : Lines net d c rn pn r p) :
    WorkerView.StepGoes { WorkerView.busy proc dealer push records with output := outs } P d c id rn
      pn r p net (.dispatching (.process [x]) (.inSink .plain (.begin (.send (.process outs)))))
      dealer push := by
  intro name sent lifecycle stats
  simp only [WorkerView.element, Element.step, Element.advance, workerStrategy,
    Pipeline.strategy, Pipeline.step, Fanin.Producer.sink, Fanin.Producer.step]
  cases hframes : (Message.process outs).toFramesBatched with
  | error cause => exact Or.inl (.disconnectingSink _ _)
  | ok frames =>
    obtain ⟨records', arrived, hrecords, framed, kind, content⟩ :=
      Message.hop_process rfl hframes
    rw [Message.records_process wholeOut] at hrecords
    cases hrecords
    exact .stays (.mk (.working (.pushing proc own other wholes framed kind content))) lines

/-- What was made is pushed whole, as soon as there is room. -/
theorem pushing_step {frames : Frames} {m : Message} (own : dealer.identity = id)
    (other : push.isBinder = false) (wholes : ∀ y ∈ records, Record.isWhole y = true)
    (framed : Message.ofFrames frames = .ok m) (kind : m.kind = .process)
    (content : m.records = .ok outs) (lines : Lines net d c rn pn r p)
    (pipe : pn = some push.number) :
    WorkerView.StepGoes { WorkerView.busy proc dealer push records with output := outs } P d c id rn
      pn r p net (.dispatching (.process [x]) (.inSink .plain (.pushing frames))) dealer push := by
  intro name sent lifecycle stats
  simp only [WorkerView.element, Element.step, Element.advance, workerStrategy,
    Pipeline.strategy, Pipeline.step, Fanin.Producer.sink, Fanin.Producer.step]
  cases hsend : push.send frames net with
  | blocked =>
    exact .stays (.mk (.working (.pushing proc own other wholes framed kind content))) lines
  | failed cause => exact Or.inl (.disconnectingSink _ _)
  | done _ net' =>
    have lines' := lines.pushSend pipe hsend
    exact .moves (.push r p rfl rfl framed kind content)
      (.mk (.working (.fetching proc own other wholes))) lines'

end Working

/-- A step of a worker that goes round. One lemma for each phase in which something can happen. -/
theorem working_step (whole : P.MakesWhole v.proc.1)
    (does : Working id phase dealer push sourceDone v) (lines : Lines net d c rn pn r p)
    (router : ∀ s, v.dealer = some s → rn = some s.number)
    (pipe : ∀ s, v.push = some s → pn = some s.number)
    (mail : ∀ box ∈ r.mailboxes, ∀ frames ∈ box, Message.Letter frames) :
    WorkerGoes P d c id rn pn v r p
      ((v.element d c id phase dealer push sourceDone name sent lifecycle stats).step
        (workerStrategy P.logged) net) := by
  cases does with
  | fetching proc own other records =>
    exact .stays (.mk (.working (.polling proc own other records))) lines
  | polling proc own other records =>
    exact .stays (.mk (.working (.asking proc own other records (by simp)))) lines
  | @asking proc dealer push records ended own other wholes last =>
    exact asking_step proc own other wholes last lines (router dealer rfl) _ _ _ _
  | @awaiting proc dealer push own other =>
    exact awaiting_step proc own other lines (router dealer rfl) mail _ _ _ _
  | handling proc own other wholes wholeX =>
    exact processing_step proc whole own other wholes wholeX lines _ _ _ _
  | sending proc own other wholes wholeOut =>
    exact sending_step proc own other wholes wholeOut lines _ _ _ _
  | @pushing proc dealer push records outs x frames m own other wholes framed kind content =>
    exact pushing_step proc own other wholes framed kind content lines (pipe push rfl) _ _ _ _

/-- A worker that leaves takes its leave and lets go on both sides. -/
theorem leaving_step (does : Leaving id phase dealer push sourceDone v)
    (lines : Lines net d c rn pn r p) (router : ∀ s, v.dealer = some s → rn = some s.number)
    (pipe : ∀ s, v.push = some s → pn = some s.number) :
    WorkerGoes P d c id rn pn v r p
      ((v.element d c id phase dealer push sourceDone name sent lifecycle stats).step
        (workerStrategy P.logged) net) := by
  cases does with
  | ending proc own other => exact .stays (.mk (.leaving (.sendingEnd proc own other))) lines
  | sendingEnd proc own other =>
    have framed := Message.ofFrames_toFrames (m := .endOfStream) rfl rfl
    exact .stays (.mk (.leaving (.pushingEnd proc own other framed))) lines
  | @pushingEnd proc dealer push frames own other framed =>
    simp only [WorkerView.element, Element.step, Element.advance, workerStrategy,
      Pipeline.strategy, Pipeline.step, Fanin.Producer.sink, Fanin.Producer.step]
    cases hsend : push.send frames net with
    | blocked => exact .stays (.mk (.leaving (.pushingEnd proc own other framed))) lines
    | failed cause => exact Or.inl (.disconnectingSink _ _)
    | done _ net' =>
      have lines' := lines.pushSend (pipe push rfl) hsend
      exact .moves (.pushEnd r p rfl framed) (.mk (.leaving (.closing proc own other))) lines'
  | closing proc own other => exact .stays (.mk (.leaving (.parting proc own other))) lines
  | parting proc own other => exact .stays (.mk (.leaving (.withdrawing proc own other))) lines
  | @withdrawing proc dealer push own other =>
    obtain ⟨frames, hframes, framed⟩ := Message.exists_frames (m := .unregistration id) rfl rfl
    simp only [WorkerView.element, Element.step, Element.advance, workerStrategy,
      Pipeline.strategy, Pipeline.step, Fanin.Producer.sink, Fanin.Producer.step,
      Fanin.Producer.speak, hframes]
    cases hsend : push.send frames net with
    | blocked => exact .stays (.mk (.leaving (.withdrawing proc own other))) lines
    | failed cause => exact Or.inl (.disconnectingSource _ _)
    | done _ net' =>
      have lines' := lines.pushSend (pipe push rfl) hsend
      -- The socket was connected and not bound, so closing it does nothing.
      have hclose : push.close net' = net' := by
        unfold PushSocket.close
        rw [other]
        rfl
      simp only [hclose]
      exact .moves (.withdraw r p rfl rfl framed) (.mk (.leaving (.turning proc own))) lines'
  | turning proc own => exact .stays (.mk (.leaving (.quitting proc own))) lines
  | quitting proc own => exact .stays (.mk (.leaving (.leaving proc own))) lines
  | @leaving proc dealer push own =>
    obtain ⟨frames, hframes, framed⟩ := Message.exists_frames (m := .unregistration id) rfl rfl
    simp only [WorkerView.element, WorkerView.left, Element.step, Element.advance,
      workerStrategy, Pipeline.strategy, Pipeline.step, Fanout.Client.source, Fanout.Client.step,
      Fanout.Client.speak, hframes]
    cases hsend : dealer.send frames net with
    | blocked => exact .stays (.mk (.leaving (.leaving proc own))) lines
    | failed cause => exact Or.inl (.releasing rfl _)
    | done _ net' =>
      have hnumber := router dealer rfl
      have lines' := (lines.dealerSend hnumber hsend).dealerClose hnumber
      rw [own] at lines'
      exact .moves (.leave r p rfl rfl framed) (.mk (.leaving (.releasing proc _))) lines'
  | releasing proc stats =>
    exact .stays (.mk (.leaving (.releasingSource proc stats))) lines
  | releasingSource proc stats =>
    exact .stays (.mk (.leaving (.releasingSink proc stats))) lines
  | releasingSink proc stats => exact .stays (.mk (.leaving (.finished proc stats))) lines
  | finished proc stats => exact .stays (.mk (.leaving (.finished proc stats))) lines

/-- **A step of a worker is a move of its view**, unless it fails. -/
theorem worker_step (whole : P.MakesWhole v.proc.1) (here : WorkerAt d c id e v)
    (lines : Lines net d c rn pn r p) (router : ∀ s, v.dealer = some s → rn = some s.number)
    (pipe : ∀ s, v.push = some s → pn = some s.number)
    (mail : ∀ box ∈ r.mailboxes, ∀ frames ∈ box, Message.Letter frames) :
    WorkerGoes P d c id rn pn v r p (e.step (workerStrategy P.logged) net) := by
  obtain ⟨does⟩ := here
  cases does with
  | arriving does => exact arriving_step does lines router pipe
  | working does => exact working_step whole does lines router pipe mail
  | leaving does => exact leaving_step does lines router pipe

/-- A worker that ended has nothing left. -/
theorem WorkerAt.settled (here : WorkerAt d c id e v) (h : e.outcome? ≠ none) :
    v.ended = true ∧ v.stage = .gone ∧ v.hand = [] ∧ v.records = [] ∧ v.output = [] := by
  obtain ⟨does⟩ := here
  rcases does with does | does | does
  · cases does <;> exact absurd rfl h
  · cases does <;> exact absurd rfl h
  · cases does with
    | finished => exact ⟨rfl, rfl, rfl, rfl, rfl⟩
    | _ => exact absurd rfl h

theorem WorkerAt.processor (here : WorkerAt d c id e v) : e.strategy.processor = v.proc := by
  obtain ⟨does⟩ := here
  rfl

end Steps

end Farm

end RecordFarm
