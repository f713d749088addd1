import RecordFarm.Proofs.Farm.Runs
import RecordFarm.Proofs.Push.Producing
import RecordFarm.Proofs.Push.Pulling

/-!
# One step of a consumer

A consumer connects to the pipe of a producer and then goes round: its puller hands out one record,
the processor makes records of it, and the sink is given these as one message, unless there are
none. When the puller hands out the end, so does the consumer, and then it leaves.

`Intake` is what matters of a consumer, and `Intake.Sound` says that it has passed on what its
processor made of the records that it took, in their order. A step of a consumer keeps it, or the
consumer fails (`consumer_step`).
-/

namespace RecordFarm

namespace Processor

variable {σ : Type}

/-- What the processor makes of each of some records, in order, up to the first fault. -/
def each (p : Processor σ) : List Bytes → σ → Except Fault (List (List Bytes)) × σ
  | [], s => (.ok [], s)
  | record :: rest, s =>
    match p.process record s with
    | (.error fault, s) => (.error fault, s)
    | (.ok outputs, s) =>
      match each p rest s with
      | (.ok more, s) => (.ok (outputs :: more), s)
      | (.error fault, s) => (.error fault, s)

theorem each_snoc {p : Processor σ} {records : List Bytes} {made : List (List Bytes)}
    {record : Bytes} {outputs : List Bytes} {s s' s'' : σ} (h : p.each records s = (.ok made, s'))
    (hp : p.process record s' = (.ok outputs, s'')) :
    p.each (records ++ [record]) s = (.ok (made ++ [outputs]), s'') := by
  induction records generalizing s made with
  | nil =>
    cases h
    simp [each, hp]
  | cons r rs ih =>
    rw [each] at h
    split at h
    · cases h
    · next out mid hr =>
      split at h
      · next more last hrs =>
        cases h
        rw [List.cons_append, each, hr]
        simp only
        rw [ih hrs]
        rfl
      · cases h

end Processor

/-- A step of a plain sink leaves the pipe as it is. -/
theorem Sink.IsPlain.step_chute {κ υ : Type} {B : Sink Network κ υ} (plain : B.IsPlain)
    {net : Network} {uri : String} {number : Option Nat} {pipe : Pipe}
    (chute : Push.Chute net uri number pipe) (task : υ) (k : κ) :
    ∃ progress k' net', B.step task k net = (progress, k', net') ∧
      Push.Chute net' uri number pipe :=
  ⟨_, _, _, rfl, chute.spared ((plain.apart task k net).spares uri)⟩

namespace Push

variable {π κ υ : Type}

abbrev Consumer (π κ υ : Type) :=
  Element (Pipeline Puller π (κ × List Message)) (Pipeline.Task Puller.Task (SinkCall × υ))

/-- What matters of a consumer. -/
structure Intake (π : Type) where
  proc : π
  /-- The reading end of the pipe, once the consumer is connected. -/
  pull : Option PullSocket := none
  /-- The messages that were taken from the pipe, as they were sent. -/
  taken : List Message := []
  /-- Whether the end was taken. -/
  ended : Bool := false
  /-- Records taken and not yet handed out. -/
  records : List Bytes := []
  /-- The record that is about to be processed. -/
  hand : List Bytes := []
  /-- The records that were processed. -/
  handled : List Bytes := []
  /-- What the processor made of each of them. -/
  made : List (List Bytes) := []
  /-- The message that is about to be handed to the sink. -/
  due : List Message := []
  /-- Whether the end was handed out. -/
  done : Bool := false
  /-- Whether the sink took the end. -/
  closed : Bool := false

def passedOn (made : List (List Bytes)) : List Message :=
  (made.filter fun outputs => !outputs.isEmpty).map .process

/-- The outputs of one record are passed on together, if there are any. -/
theorem passedOn_snoc (made : List (List Bytes)) (outputs : List Bytes) :
    passedOn (made ++ [outputs])
      = passedOn made ++ if outputs.isEmpty then [] else [.process outputs] := by
  unfold passedOn
  cases outputs <;> simp

/-- The consumer passes on what its processor, which began in `start`, made of what it took. -/
structure Intake.Sound (P : Processor π) (start : π) (v : Intake π) (log : List Message) :
    Prop where
  content : v.handled ++ v.hand ++ v.records = v.taken.flatMap Message.content
  ended : v.ended = v.taken.any Message.isEnd
  made : P.each v.handled start = (.ok v.made, v.proc)
  log : log ++ v.due = passedOn v.made ++ if v.closed then [.endOfStream] else []

/-- The records of a consumer are whole. -/
theorem Intake.Sound.isWhole {P : Processor π} {start : π} {v : Intake π} {log : List Message}
    (sound : v.Sound P start log) :
    ∀ record ∈ v.hand ++ v.records, Record.isWhole record = true := by
  intro record hrecord
  have mem : record ∈ v.taken.flatMap Message.content := by
    rw [← sound.content, List.append_assoc]
    exact List.mem_append_right _ hrecord
  obtain ⟨m, -, hm⟩ := List.mem_flatMap.1 mem
  unfold Message.content at hm
  split at hm
  · split at hm
    · next content => exact Message.isWhole_of_records content record hm
    · cases hm
  · cases hm

structure Intake.Idle (v : Intake π) : Prop where
  hand : v.hand = []
  due : v.due = []
  notDone : v.done = false
  still : v.closed = false

structure Intake.Finished (v : Intake π) : Prop where
  ended : v.ended = true
  records : v.records = []
  hand : v.hand = []
  due : v.due = []
  done : v.done = true

section Sound

variable {P : Processor π} {start : π} {v : Intake π} {log : List Message}

/-- A record is taken in hand. -/
theorem Intake.Sound.pick (sound : v.Sound P start log) (free : v.hand = []) {record : Bytes}
    {rest : List Bytes} (first : v.records = record :: rest) :
    Intake.Sound P start { v with records := rest, hand := [record] } log where
  content := by
    have content := sound.content
    rw [free, first, List.append_nil] at content
    rw [← content]
    exact List.append_assoc ..
  ended := sound.ended
  made := sound.made
  log := sound.log

/-- Records that are taken from the pipe come behind those that are there. -/
theorem Intake.Sound.receive (sound : v.Sound P start log) {m : Message}
    (notEnd : m.isEnd = false) :
    Intake.Sound P start { v with taken := v.taken ++ [m], records := v.records ++ m.content }
      log where
  content := by
    rw [List.flatMap_append, List.flatMap_singleton, ← sound.content]
    exact (List.append_assoc ..).symm
  ended := by
    rw [List.any_append, ← sound.ended]
    simp [notEnd]
  made := sound.made
  log := sound.log

/-- The end is taken from the pipe. -/
theorem Intake.Sound.meet (sound : v.Sound P start log) {m : Message} (isEnd : m.isEnd = true) :
    Intake.Sound P start { v with taken := v.taken ++ [m], ended := true } log where
  content := by
    rw [List.flatMap_append, List.flatMap_singleton, Message.content_of_isEnd isEnd]
    exact sound.content.trans (List.append_nil _).symm
  ended := by simp [isEnd]
  made := sound.made
  log := sound.log

/-- The record in hand was processed, and what was made of it is due. -/
theorem Intake.Sound.process (sound : v.Sound P start log) {record : Bytes}
    (hand : v.hand = [record]) (due : v.due = []) (still : v.closed = false)
    {outputs : List Bytes} {proc : π} (hprocess : P.process record v.proc = (.ok outputs, proc)) :
    Intake.Sound P start
      { v with
        proc, hand := [], handled := v.handled ++ [record], made := v.made ++ [outputs]
        due := if outputs.isEmpty then [] else [.process outputs] } log where
  content := by
    rw [← sound.content, hand, List.append_nil]
  ended := sound.ended
  made := Processor.each_snoc sound.made hprocess
  log := by
    have passed := sound.log
    rw [due, still, List.append_nil] at passed
    rw [passed, passedOn_snoc, still]
    simp

/-! It does not matter which end of a pipe the consumer holds. -/

theorem Intake.Sound.plug (sound : v.Sound P start log) (pull : Option PullSocket) :
    Intake.Sound P start { v with pull } log :=
  ⟨sound.content, sound.ended, sound.made, sound.log⟩

theorem Intake.Idle.plug (idle : v.Idle) (pull : Option PullSocket) :
    Intake.Idle { v with pull } :=
  ⟨idle.hand, idle.due, idle.notDone, idle.still⟩

theorem Intake.Finished.plug (here : v.Finished) (pull : Option PullSocket) :
    Intake.Finished { v with pull } :=
  ⟨here.ended, here.records, here.hand, here.due, here.done⟩

end Sound

/-- What is true of a consumer in each phase until it hands out the end. -/
inductive Consuming (B : Sink Network κ υ) :
    Phase (Pipeline.Task Puller.Task (SinkCall × υ)) → κ → Intake π → Prop where
  | created {v : Intake π} (k : κ) (idle : v.Idle) : Consuming B .created k v
  | beginning {v : Intake π} (k : κ) (idle : v.Idle) :
      Consuming B (.connectingSource (.begin .connectSource)) k v
  | calling {v : Intake π} (k : κ) (idle : v.Idle) :
      Consuming B (.connectingSource (.inSource .plain (.begin .connect))) k v
  | connecting {v : Intake π} (k : κ) (idle : v.Idle) (deadline : Nat) :
      Consuming B (.connectingSource (.inSource .plain (.connecting deadline))) k v
  | joining {v : Intake π} (k : κ) (idle : v.Idle) :
      Consuming B (.connectingSink (.begin .connectSink)) k v
  | opening {v : Intake π} (task : υ) (k : κ) (idle : v.Idle) :
      Consuming B (.connectingSink (.inSink .plain (.connect, task))) k v
  | fetching {v : Intake π} (k : κ) (idle : v.Idle) : Consuming B (.fetching (.begin .fetch)) k v
  | polling {v : Intake π} {task : υ} {k : κ} (idle : v.Idle) (now : B.Serving .poll task k) :
      Consuming B (.fetching (.inSink .polled (.poll, task))) k v
  | reading {v : Intake π} (k : κ) (idle : v.Idle) :
      Consuming B (.fetching (.inSource .fetched (.begin .next))) k v
  | taking {v : Intake π} {record : Bytes} (k : κ) (hand : v.hand = [record]) (due : v.due = [])
      (notDone : v.done = false) (still : v.closed = false) :
      Consuming B
        (.dispatching (.process [record]) (.begin (.dispatch .process (.process [record]) true)))
        k v
  | sending {v : Intake π} {record : Bytes} {outputs : List Bytes} (task : υ) (k : κ)
      (hand : v.hand = []) (due : v.due = [.process outputs]) (notDone : v.done = false)
      (still : v.closed = false) :
      Consuming B
        (.dispatching (.process [record]) (.inSink .plain (.send (.process outputs), task))) k v

inductive Finishing : Phase (Pipeline.Task Puller.Task (SinkCall × υ)) → κ → Intake π → Prop where
  | meeting {v : Intake π} (k : κ) (here : v.Finished) (still : v.closed = false) :
      Finishing (.dispatching .endOfStream (.begin (.dispatch .endOfStream .endOfStream true))) k v
  | sendingEnd {v : Intake π} (task : υ) (k : κ) (here : v.Finished) (still : v.closed = false) :
      Finishing (.dispatching .endOfStream (.inSink .checked (.send .endOfStream, task))) k v
  | closing {v : Intake π} (k : κ) (here : v.Finished) (closed : v.closed = true) :
      Finishing (.disconnectingSink none (.begin .disconnectSink)) k v
  | disconnecting {v : Intake π} (task : υ) (k : κ) (here : v.Finished) (closed : v.closed = true) :
      Finishing (.disconnectingSink none (.inSink .plain (.disconnect, task))) k v
  | turning {v : Intake π} (k : κ) (here : v.Finished) (closed : v.closed = true) :
      Finishing (.disconnectingSource none (.begin .disconnectSource)) k v
  | unplugging {v : Intake π} (k : κ) (here : v.Finished) (closed : v.closed = true) :
      Finishing (.disconnectingSource none (.inSource .plain (.begin .disconnect))) k v
  | releasing {v : Intake π} (k : κ) (stats : Stats) (here : v.Finished)
      (closed : v.closed = true) :
      Finishing (.releasing (.returned (.ok stats)) (.begin .release)) k v
  | releasingSource {v : Intake π} (k : κ) (stats : Stats) (here : v.Finished)
      (closed : v.closed = true) :
      Finishing (.releasing (.returned (.ok stats)) (.inSource .released (.begin .release))) k v
  | releasingSink {v : Intake π} (task : υ) (k : κ) (stats : Stats) (here : v.Finished)
      (closed : v.closed = true) :
      Finishing (.releasing (.returned (.ok stats)) (.inSink .plain (.release, task))) k v
  | finished {v : Intake π} (k : κ) (stats : Stats) (here : v.Finished) (closed : v.closed = true) :
      Finishing (.over (.returned (.ok stats))) k v

inductive Consumes (B : Sink Network κ υ) (phase : Phase (Pipeline.Task Puller.Task (SinkCall × υ)))
    (k : κ) (v : Intake π) : Prop where
  | consuming (does : Consuming B phase k v)
  | finishing (does : Finishing phase k v)

def Intake.element (uri : String) (v : Intake π)
    (phase : Phase (Pipeline.Task Puller.Task (SinkCall × υ))) (k : κ) (log : List Message)
    (name : String) (lifecycle : Lifecycle) (stats : Stats) : Consumer π κ υ where
  strategy :=
    { name
      source := { uri, pull := v.pull, records := v.records, ended := v.ended }
      processor := v.proc
      sink := (k, log)
      sourceDone := v.done }
  phase := phase
  lifecycle := lifecycle
  stats := stats

/-- The reading end, if there is one, belongs to the pipe with this number. -/
def Plugged (number : Option Nat) (pull : Option PullSocket) : Prop :=
  ∀ socket, pull = some socket → number = some socket.number ∧ socket.isBinder = false

theorem plugged_none (number : Option Nat) : Plugged number none := nofun

/-- Giving up the end of a pipe that somebody else has bound does nothing to the pipe. -/
theorem Plugged.close {number : Option Nat} {socket : PullSocket}
    (plugged : Plugged number (some socket)) (net : Network) : socket.close net = net := by
  unfold PullSocket.close
  rw [(plugged socket rfl).2]
  rfl

inductive ConsumerAt (P : Processor π) (start : π) (B : Sink Network κ υ) (uri : String)
    (number : Option Nat) : Consumer π κ υ → Intake π → Prop where
  | mk {phase : Phase (Pipeline.Task Puller.Task (SinkCall × υ))} {k : κ} {v : Intake π}
      {log : List Message} {name : String} {lifecycle : Lifecycle} {stats : Stats}
      (sound : v.Sound P start log) (plugged : Plugged number v.pull)
      (does : Consumes B phase k v) :
      ConsumerAt P start B uri number (v.element uri phase k log name lifecycle stats) v

/-- Where a step takes a consumer: it fails, or it may take what comes next in the pipe. -/
def ConsumerGoes (P : Processor π) (start : π) (B : Sink Network κ υ) (uri : String)
    (number : Option Nat) (v : Intake π) (coming : List Message)
    (after : Turn × Consumer π κ υ × Network) : Prop :=
  after.2.1.phase.Failed ∨ ∃ v' coming' pipe', ConsumerAt P start B uri number after.2.1 v' ∧
    Chute after.2.2 uri number pipe' ∧ List.Forall₂ Arrives coming' pipe'.queue ∧
    v'.taken ++ coming' = v.taken ++ coming

section Steps

variable {P : Processor π} {start : π} {B : Sink Network κ υ} {uri : String} {number : Option Nat}
  {v v' : Intake π} {coming : List Message} {pipe : Pipe} {net net' : Network} {t : Turn}
  {e : Consumer π κ υ}

theorem ConsumerGoes.turns (here : ConsumerAt P start B uri number e v')
    (chute : Chute net uri number pipe) (queued : List.Forall₂ Arrives coming pipe.queue)
    (same : v'.taken = v.taken := by rfl) :
    ConsumerGoes P start B uri number v coming (t, e, net) :=
  Or.inr ⟨v', coming, pipe, here, chute, queued, by rw [same]⟩

theorem ConsumerGoes.stays (here : ConsumerAt P start B uri number e v)
    (chute : Chute net uri number pipe) (queued : List.Forall₂ Arrives coming pipe.queue) :
    ConsumerGoes P start B uri number v coming (t, e, net) :=
  .turns here chute queued

/-- A consumer that takes a message takes the one that comes first. -/
theorem ConsumerGoes.takes {m : Message} {frames : Mailbox}
    (here : ConsumerAt P start B uri number e v')
    (chute : Chute net uri number { pipe with queue := frames })
    (queued : List.Forall₂ Arrives coming frames) (takes : v'.taken = v.taken ++ [m] := by rfl) :
    ConsumerGoes P start B uri number v (m :: coming) (t, e, net) :=
  Or.inr ⟨v', coming, _, here, chute, queued, by rw [takes, List.append_assoc]; rfl⟩

variable {phase : Phase (Pipeline.Task Puller.Task (SinkCall × υ))} {k : κ} {log : List Message}
  {name : String} {lifecycle : Lifecycle} {stats : Stats}

/-- What the puller draws is what comes next. -/
theorem next_of_draws {s : Puller} {frames : Frames} (plugged : Plugged number s.pull)
    (chute : Chute net uri number pipe) (queued : List.Forall₂ Arrives coming pipe.queue)
    (draws : s.Draws net frames net') :
    ∃ m coming' rest, coming = m :: coming' ∧ Arrives m frames ∧
      Chute net' uri number { pipe with queue := rest } ∧ List.Forall₂ Arrives coming' rest := by
  obtain ⟨-, -, socket, hpull, hrecv⟩ := draws
  obtain ⟨rest, first, chute'⟩ := chute.recv (plugged socket hpull).1 hrecv
  rw [first] at queued
  obtain ⟨m, coming', arrives, queued', rfl⟩ := List.forall₂_cons_right_iff.1 queued
  exact ⟨m, coming', rest, rfl, arrives, chute', queued'⟩

/-- The puller hands out a record or the end, or takes in what was pushed first. -/
theorem reading_step (idle : v.Idle) (plugged : Plugged number v.pull) (sound : v.Sound P start log)
    (chute : Chute net uri number pipe) (queued : List.Forall₂ Arrives coming pipe.queue) :
    ConsumerGoes P start B uri number v coming
      ((v.element uri (.fetching (.inSource .fetched (.begin .next))) k log name lifecycle
        stats).step (Pipeline.strategy Puller.source P B.logged) net) := by
  obtain ⟨proc, pull, taken, ended, records, hand, handled, made, due, done, closed⟩ := v
  obtain ⟨rfl, rfl, rfl, rfl⟩ := idle
  have reads := Puller.reads_next { uri, pull, records, ended } net
  simp only [Intake.element, Element.step, Element.advance, Pipeline.strategy, Pipeline.step,
    Puller.source, Puller.step]
  generalize Puller.next { uri, pull, records, ended } net = x at reads
  cases reads with
  | handOut first =>
    exact .turns (.mk (sound.pick rfl first) plugged (.consuming (.taking k rfl rfl rfl rfl))) chute
      queued
  | rest empty isEnded =>
    cases isEnded
    have finished : Intake.Finished
        { proc, pull, taken, ended := true, records, handled, made, done := true } :=
      ⟨rfl, empty, rfl, rfl, rfl⟩
    have sound' : Intake.Sound P start
        { proc, pull, taken, ended := true, records, handled, made, done := true } log :=
      ⟨sound.content, sound.ended, sound.made, sound.log⟩
    exact .turns (.mk sound' plugged (.finishing (.meeting k finished rfl))) chute queued
  | wait empty running =>
    exact .stays (.mk sound plugged (.consuming (.reading k ⟨rfl, rfl, rfl, rfl⟩))) chute queued
  | fail empty running cause => exact Or.inl (.disconnectingSink _ _)
  | garbled draws framed cause => exact Or.inl (.disconnectingSink _ _)
  | spoilt draws framed kind content cause => exact Or.inl (.disconnectingSink _ _)
  | @records frames net' arrived found draws framed kind content =>
    obtain ⟨m, coming', rest, rfl, arrives, chute', queued'⟩ :=
      next_of_draws plugged chute queued draws
    cases arrives with
    | endOfStream framed' kind' _ =>
      cases framed.symm.trans framed'
      cases kind.symm.trans kind'
    | records framed' _ content' notEnd =>
      cases framed.symm.trans framed'
      cases content.symm.trans content'
      exact .takes (.mk (sound.receive notEnd) plugged
        (.consuming (.reading k ⟨rfl, rfl, rfl, rfl⟩))) chute' queued'
  | @endOfStream frames net' arrived draws framed kind =>
    obtain ⟨m, coming', rest, rfl, arrives, chute', queued'⟩ :=
      next_of_draws plugged chute queued draws
    cases arrives with
    | records framed' kind' _ _ =>
      cases framed.symm.trans framed'
      cases kind.symm.trans kind'
    | endOfStream _ _ isEnd =>
      exact .takes (.mk (sound.meet isEnd) plugged
        (.consuming (.reading k ⟨rfl, rfl, rfl, rfl⟩))) chute' queued'
  | @other frames net' arrived draws framed kind notEnd =>
    -- Nothing else was pushed.
    obtain ⟨m, -, -, -, arrives, -⟩ := next_of_draws plugged chute queued draws
    cases arrives with
    | records framed' kind' _ _ =>
      cases framed.symm.trans framed'
      exact absurd kind' kind
    | endOfStream framed' kind' _ =>
      cases framed.symm.trans framed'
      exact absurd kind' notEnd

/-- The processor is run on a record, and what it makes of it is due. -/
theorem taking_step {record : Bytes} (hand : v.hand = [record]) (due : v.due = [])
    (notDone : v.done = false) (still : v.closed = false) (plugged : Plugged number v.pull)
    (sound : v.Sound P start log) (chute : Chute net uri number pipe)
    (queued : List.Forall₂ Arrives coming pipe.queue) :
    ConsumerGoes P start B uri number v coming
      ((v.element uri
        (.dispatching (.process [record]) (.begin (.dispatch .process (.process [record]) true))) k
        log name lifecycle stats).step (Pipeline.strategy Puller.source P B.logged) net) := by
  obtain ⟨proc, pull, taken, ended, records, hand, handled, made, due, done, closed⟩ := v
  cases hand
  cases due
  cases notDone
  cases still
  have whole : Record.isWhole record = true := sound.isWhole record (by simp)
  rcases hprocess : P.process record proc with ⟨result, proc'⟩
  have happly := Processor.apply_singleton whole hprocess
  simp only [Intake.element, Element.step, Element.advance, Pipeline.strategy, Pipeline.step,
    Pipeline.begin, Pipeline.dispatch, Pipeline.process, happly]
  cases result with
  | error fault =>
    cases fault with
    | panic => exact Or.inl (.releasing rfl _)
    | error cause => exact Or.inl (.disconnectingSink _ _)
  | ok outputs =>
    have sound' := sound.process rfl rfl rfl hprocess
    cases outputs with
    | nil =>
      exact .turns (.mk sound' plugged (.consuming (.fetching k ⟨rfl, rfl, rfl, rfl⟩))) chute queued
    | cons output outputs =>
      exact .turns (.mk sound' plugged (.consuming (.sending _ k rfl rfl rfl rfl))) chute queued

/-- A sink that does not answer yet leaves the consumer in the phase that it is in, unless it breaks
down. What its answer comes to is said phase by phase. -/
theorem serving_step {use : Pipeline.SinkUse} {call : SinkCall} {task : υ}
    {andThen : Except Error HookReply → Consumer π κ υ → Consumer π κ υ} (plain : B.IsPlain)
    (again : Pipeline.Task Puller.Task (SinkCall × υ) →
      Phase (Pipeline.Task Puller.Task (SinkCall × υ)))
    (chute : Chute net uri number pipe) (queued : List.Forall₂ Arrives coming pipe.queue)
    (advances : (v.element uri phase k log name lifecycle stats).step
        (Pipeline.strategy Puller.source P B.logged) net
      = Element.advance (Pipeline.strategy Puller.source P B.logged)
          (v.element uri phase k log name lifecycle stats) net (.inSink use (call, task)) again
          andThen)
    (hphase : phase = again (.inSink use (call, task)))
    (stays : ∀ progress rest k' net', B.step task k net = (progress, k', net') →
      progress.pending task = some rest → progress ≠ .panicked → ConsumerAt P start B uri number
        (v.element uri (again (.inSink use (call, rest))) k' log name lifecycle stats) v)
    (goes : ∀ result k' net', B.step task k net = (.finished result, k', net') →
      Chute net' uri number pipe → ConsumerGoes P start B uri number v coming
        ((v.element uri phase k log name lifecycle stats).step
          (Pipeline.strategy Puller.source P B.logged) net)) :
    ConsumerGoes P start B uri number v coming
      ((v.element uri phase k log name lifecycle stats).step
        (Pipeline.strategy Puller.source P B.logged) net) := by
  subst hphase
  obtain ⟨progress, k', net', hstep, chute'⟩ := plain.step_chute chute task k
  cases progress with
  | finished result => exact goes result k' net' hstep chute'
  | waiting until? =>
    have here := stays _ task k' net' hstep rfl (by intro broken; cases broken)
    rw [advances]
    simp only [Element.advance, Intake.element, Pipeline.strategy, Pipeline.step, Sink.logged,
      hstep]
    exact .stays here chute' queued
  | working rest =>
    have here := stays _ rest k' net' hstep rfl (by intro broken; cases broken)
    rw [advances]
    simp only [Element.advance, Intake.element, Pipeline.strategy, Pipeline.step, Sink.logged,
      hstep]
    exact .stays here chute' queued
  | panicked =>
    rw [advances]
    simp only [Element.advance, Intake.element, Pipeline.strategy, Pipeline.step, Sink.logged,
      hstep]
    exact Or.inl (.releasing rfl _)

/-- The puller comes to hold an end of the pipe, one that it has not bound. -/
theorem connecting_step (idle : v.Idle) (deadline : Nat) (plugged : Plugged number v.pull)
    (sound : v.Sound P start log) (chute : Chute net uri number pipe)
    (queued : List.Forall₂ Arrives coming pipe.queue) :
    ConsumerGoes P start B uri number v coming
      ((v.element uri (.connectingSource (.inSource .plain (.connecting deadline))) k log name
        lifecycle stats).step (Pipeline.strategy Puller.source P B.logged) net) := by
  simp only [Intake.element, Element.step, Element.advance, Pipeline.strategy, Pipeline.step,
    Puller.source, Puller.step]
  cases hconnect : (PullSocket.connect net uri).orNotBound uri (deadline ≤ net.now) with
  | blocked =>
    exact .stays (.mk sound plugged (.consuming (.connecting k idle deadline))) chute queued
  | failed cause => exact Or.inl (.disconnectingSink _ _)
  | done socket net' =>
    obtain ⟨hnumber, hbinder, rfl⟩ := chute.connect (Attempt.of_orNotBound hconnect)
    have plugged' : Plugged number (some socket) := fun socket' h => by
      cases h
      exact ⟨hnumber, hbinder⟩
    have idle' := idle.plug (some socket)
    exact .turns (.mk (sound.plug (some socket)) plugged' (.consuming (.joining k idle'))) chute
      queued

/-- Nobody speaks to a plain sink, so the puller is asked next. -/
theorem polling_step {task : υ} (plain : B.IsPlain) (idle : v.Idle)
    (now : B.Serving .poll task k) (plugged : Plugged number v.pull) (sound : v.Sound P start log)
    (chute : Chute net uri number pipe) (queued : List.Forall₂ Arrives coming pipe.queue) :
    ConsumerGoes P start B uri number v coming
      ((v.element uri (.fetching (.inSink .polled (.poll, task))) k log name lifecycle stats).step
        (Pipeline.strategy Puller.source P B.logged) net) := by
  refine serving_step plain .fetching chute queued (by unfold Element.step; rfl) rfl
    (fun progress rest k' net' hstep pending alive => ?_) fun result k' net' hstep chute' => ?_
  · cases progress with
    | waiting until? =>
      cases pending
      exact .mk sound plugged (.consuming (.polling idle (now.waiting hstep)))
    | working rest' =>
      cases pending
      exact .mk sound plugged (.consuming (.polling idle (now.working hstep)))
    | finished result => cases pending
    | panicked => exact absurd rfl alive
  · simp only [Intake.element, Element.step, Element.advance, Pipeline.strategy, Pipeline.step,
      Sink.logged, hstep]
    cases result with
    | error cause => exact Or.inl (.disconnectingSink _ _)
    | ok reply =>
      obtain rfl := plain.silent reply ⟨task, k, net, k', net', now, hstep⟩
      exact .stays (.mk sound plugged (.consuming (.reading k' idle))) chute' queued

/-- What was due is passed on when the sink has taken it. -/
theorem sending_step {record : Bytes} {outputs : List Bytes} {task : υ} (plain : B.IsPlain)
    (hand : v.hand = []) (due : v.due = [.process outputs]) (notDone : v.done = false)
    (still : v.closed = false) (plugged : Plugged number v.pull) (sound : v.Sound P start log)
    (chute : Chute net uri number pipe) (queued : List.Forall₂ Arrives coming pipe.queue) :
    ConsumerGoes P start B uri number v coming
      ((v.element uri
        (.dispatching (.process [record]) (.inSink .plain (.send (.process outputs), task))) k log
        name lifecycle stats).step (Pipeline.strategy Puller.source P B.logged) net) := by
  refine serving_step plain (.dispatching _) chute queued (by unfold Element.step; rfl) rfl
    (fun _ rest k' _ _ _ _ =>
      .mk sound plugged (.consuming (.sending rest k' hand due notDone still)))
    fun result k' net' hstep chute' => ?_
  obtain ⟨proc, pull, taken, ended, records, hand, handled, made, due, done, closed⟩ := v
  simp only [Intake.element, Element.step, Element.advance, Pipeline.strategy, Pipeline.step,
    Sink.logged, hstep]
  cases result with
  | error cause => exact Or.inl (.disconnectingSink _ _)
  | ok reply =>
    cases hand
    cases due
    have sound' : Intake.Sound P start
        { proc, pull, taken, ended, records, handled, made, done, closed }
        (log ++ [.process outputs]) :=
      ⟨sound.content, sound.ended, sound.made, (List.append_nil _).trans sound.log⟩
    have idle : Intake.Idle
        { proc, pull, taken, ended, records, handled, made, done, closed } :=
      ⟨rfl, rfl, notDone, still⟩
    exact .turns (.mk sound' plugged (.consuming (.fetching k' idle))) chute' queued

/-- A step before the end is handed out. One lemma for each phase in which something can happen. -/
theorem consuming_step (plain : B.IsPlain) (does : Consuming B phase k v)
    (plugged : Plugged number v.pull) (sound : v.Sound P start log)
    (chute : Chute net uri number pipe) (queued : List.Forall₂ Arrives coming pipe.queue) :
    ConsumerGoes P start B uri number v coming
      ((v.element uri phase k log name lifecycle stats).step
        (Pipeline.strategy Puller.source P B.logged) net) := by
  cases does with
  | created k idle =>
    exact .stays (.mk sound plugged (.consuming (.beginning k idle))) chute queued
  | beginning k idle =>
    exact .stays (.mk sound plugged (.consuming (.calling k idle))) chute queued
  | calling k idle =>
    exact .stays (.mk sound plugged (.consuming (.connecting k idle _))) chute queued
  | connecting k idle deadline => exact connecting_step idle deadline plugged sound chute queued
  | joining k idle =>
    exact .stays (.mk sound plugged (.consuming (.opening _ k idle))) chute queued
  | opening task k idle =>
    refine serving_step plain .connectingSink chute queued (by unfold Element.step; rfl) rfl
      (fun _ rest k' _ _ _ _ => .mk sound plugged (.consuming (.opening rest k' idle)))
      fun result k' net' hstep chute' => ?_
    simp only [Intake.element, Element.step, Element.advance, Pipeline.strategy, Pipeline.step,
      Sink.logged, hstep]
    cases result with
    | error cause => exact Or.inl (.disconnectingSink _ _)
    | ok reply => exact .stays (.mk sound plugged (.consuming (.fetching k' idle))) chute' queued
  | fetching k idle =>
    obtain ⟨proc, pull, taken, ended, records, hand, handled, made, due, done, closed⟩ := v
    obtain ⟨-, -, rfl, -⟩ := id idle
    simp only [Intake.element, Element.step, Element.advance, Pipeline.strategy, Pipeline.step,
      Pipeline.begin, Pipeline.fetch, Sink.logged, plain.eager]
    exact .stays (.mk sound plugged (.consuming (.polling idle (.start k)))) chute queued
  | polling idle now => exact polling_step plain idle now plugged sound chute queued
  | reading k idle => exact reading_step idle plugged sound chute queued
  | taking k hand due notDone still =>
    exact taking_step hand due notDone still plugged sound chute queued
  | sending task k hand due notDone still =>
    exact sending_step plain hand due notDone still plugged sound chute queued

/-- The sink has taken the end as well, and the consumer leaves the loop. -/
theorem sendingEnd_step {task : υ} (plain : B.IsPlain) (here : v.Finished)
    (still : v.closed = false) (plugged : Plugged number v.pull) (sound : v.Sound P start log)
    (chute : Chute net uri number pipe) (queued : List.Forall₂ Arrives coming pipe.queue) :
    ConsumerGoes P start B uri number v coming
      ((v.element uri (.dispatching .endOfStream (.inSink .checked (.send .endOfStream, task))) k
        log name lifecycle stats).step (Pipeline.strategy Puller.source P B.logged) net) := by
  refine serving_step plain (.dispatching _) chute queued (by unfold Element.step; rfl) rfl
    (fun _ rest k' _ _ _ _ => .mk sound plugged (.finishing (.sendingEnd rest k' here still)))
    fun result k' net' hstep chute' => ?_
  obtain ⟨proc, pull, taken, ended, records, hand, handled, made, due, done, closed⟩ := v
  obtain ⟨rfl, rfl, rfl, rfl, rfl⟩ := id here
  cases still
  simp only [Intake.element, Element.step, Element.advance, Pipeline.strategy, Pipeline.step,
    Sink.logged, hstep]
  cases result with
  | error cause => exact Or.inl (.disconnectingSink _ _)
  | ok reply =>
    have log' := sound.log
    simp only [List.append_nil, Bool.false_eq_true, if_false] at log'
    have sound' : Intake.Sound P start
        { proc, pull, taken, ended := true, records := [], handled, made, done := true,
          closed := true } (log ++ [.endOfStream]) :=
      ⟨sound.content, sound.ended, sound.made, by simp [log']⟩
    simp only [Pipeline.afterSink, Pipeline.answer, Pipeline.isDone, plain.settled,
      Bool.and_self, Bool.true_or, if_true]
    exact .turns (.mk sound' plugged (.finishing (.closing k' ⟨rfl, rfl, rfl, rfl, rfl⟩ rfl)))
      chute' queued

/-- The end of the pipe that the puller gives up is not the one that was bound, so nothing happens
to the pipe. -/
theorem unplugging_step (here : v.Finished) (closed : v.closed = true)
    (plugged : Plugged number v.pull) (sound : v.Sound P start log)
    (chute : Chute net uri number pipe) (queued : List.Forall₂ Arrives coming pipe.queue) :
    ConsumerGoes P start B uri number v coming
      ((v.element uri (.disconnectingSource none (.inSource .plain (.begin .disconnect))) k log name
        lifecycle stats).step (Pipeline.strategy Puller.source P B.logged) net) := by
  obtain ⟨proc, pull, taken, ended, records, hand, handled, made, due, done, closed⟩ := v
  cases pull with
  | none => exact .stays (.mk sound plugged (.finishing (.releasing k _ here closed))) chute queued
  | some socket =>
    simp only [Intake.element, Element.step, Element.advance, Pipeline.strategy, Pipeline.step,
      Puller.source, Puller.step, Puller.close, plugged.close]
    have does := Finishing.releasing (υ := υ) k stats (here.plug none) closed
    exact .turns (.mk (sound.plug none) (plugged_none _) (.finishing does)) chute queued

/-- The same, when all is let go. -/
theorem releasingSource_step (returns : Stats) (here : v.Finished) (closed : v.closed = true)
    (plugged : Plugged number v.pull) (sound : v.Sound P start log)
    (chute : Chute net uri number pipe) (queued : List.Forall₂ Arrives coming pipe.queue) :
    ConsumerGoes P start B uri number v coming
      ((v.element uri
        (.releasing (.returned (.ok returns)) (.inSource .released (.begin .release))) k log name
        lifecycle stats).step (Pipeline.strategy Puller.source P B.logged) net) := by
  obtain ⟨proc, pull, taken, ended, records, hand, handled, made, due, done, closed⟩ := v
  cases pull with
  | none =>
    exact .stays (.mk sound plugged (.finishing (.releasingSink _ k returns here closed))) chute
      queued
  | some socket =>
    simp only [Intake.element, Element.step, Pipeline.strategy, Pipeline.step, Puller.source,
      Puller.step, Puller.close, plugged.close]
    have does := Finishing.releasingSink (B.start .release) k returns (here.plug none) closed
    exact .turns (.mk (sound.plug none) (plugged_none _) (.finishing does)) chute queued

/-- Whatever becomes of the release of the sink, the consumer has ended well. -/
theorem releasingSink_step {task : υ} (plain : B.IsPlain) (returns : Stats) (here : v.Finished)
    (closed : v.closed = true) (plugged : Plugged number v.pull) (sound : v.Sound P start log)
    (chute : Chute net uri number pipe) (queued : List.Forall₂ Arrives coming pipe.queue) :
    ConsumerGoes P start B uri number v coming
      ((v.element uri (.releasing (.returned (.ok returns)) (.inSink .plain (.release, task))) k log
        name lifecycle stats).step (Pipeline.strategy Puller.source P B.logged) net) := by
  obtain ⟨progress, k', net', hstep, chute'⟩ := plain.step_chute chute task k
  simp only [Intake.element, Element.step, Pipeline.strategy, Pipeline.step, Sink.logged, hstep]
  cases progress with
  | waiting until? =>
    exact .stays (.mk sound plugged (.finishing (.releasingSink task k' returns here closed)))
      chute' queued
  | working rest =>
    exact .stays (.mk sound plugged (.finishing (.releasingSink rest k' returns here closed)))
      chute' queued
  | panicked =>
    exact .stays (.mk sound plugged (.finishing (.finished k' returns here closed))) chute' queued
  | finished result =>
    cases result <;>
      exact .stays (.mk sound plugged (.finishing (.finished k' returns here closed))) chute' queued

/-- A step after the end was handed out. One lemma for each phase in which something can happen. -/
theorem finishing_step (plain : B.IsPlain) (does : Finishing phase k v)
    (plugged : Plugged number v.pull) (sound : v.Sound P start log)
    (chute : Chute net uri number pipe) (queued : List.Forall₂ Arrives coming pipe.queue) :
    ConsumerGoes P start B uri number v coming
      ((v.element uri phase k log name lifecycle stats).step
        (Pipeline.strategy Puller.source P B.logged) net) := by
  cases does with
  | meeting k here still =>
    exact .stays (.mk sound plugged (.finishing (.sendingEnd _ k here still))) chute queued
  | sendingEnd task k here still =>
    exact sendingEnd_step plain here still plugged sound chute queued
  | closing k here closed =>
    exact .stays (.mk sound plugged (.finishing (.disconnecting _ k here closed))) chute queued
  | disconnecting task k here closed =>
    refine serving_step plain (.disconnectingSink none) chute queued
      (by unfold Element.step; rfl) rfl
      (fun _ rest k' _ _ _ _ => .mk sound plugged (.finishing (.disconnecting rest k' here closed)))
      fun result k' net' hstep chute' => ?_
    simp only [Intake.element, Element.step, Element.advance, Pipeline.strategy, Pipeline.step,
      Sink.logged, hstep]
    cases result with
    | error cause => exact Or.inl (.disconnectingSource _ _)
    | ok reply =>
      exact .stays (.mk sound plugged (.finishing (.turning k' here closed))) chute' queued
  | turning k here closed =>
    exact .stays (.mk sound plugged (.finishing (.unplugging k here closed))) chute queued
  | unplugging k here closed => exact unplugging_step here closed plugged sound chute queued
  | releasing k stats here closed =>
    exact .stays (.mk sound plugged (.finishing (.releasingSource k stats here closed))) chute
      queued
  | releasingSource k stats here closed =>
    exact releasingSource_step stats here closed plugged sound chute queued
  | releasingSink task k stats here closed =>
    exact releasingSink_step plain stats here closed plugged sound chute queued
  | finished k stats here closed =>
    exact .stays (.mk sound plugged (.finishing (.finished k stats here closed))) chute queued

/-- **A step of a consumer** takes at most what comes next in the pipe, unless it fails. -/
theorem consumer_step (plain : B.IsPlain) (here : ConsumerAt P start B uri number e v)
    (chute : Chute net uri number pipe) (queued : List.Forall₂ Arrives coming pipe.queue) :
    ConsumerGoes P start B uri number v coming
      (e.step (Pipeline.strategy Puller.source P B.logged) net) := by
  obtain ⟨sound, plugged, does⟩ := here
  cases does with
  | consuming does => exact consuming_step plain does plugged sound chute queued
  | finishing does => exact finishing_step plain does plugged sound chute queued

/-- A consumer that ended well has handed everything to its sink. -/
theorem ConsumerAt.settled (here : ConsumerAt P start B uri number e v) (h : e.outcome? ≠ none) :
    v.taken.any Message.isEnd = true ∧
      P.each (v.taken.flatMap Message.content) start = (.ok v.made, e.strategy.processor) ∧
      e.strategy.sink.2 = passedOn v.made ++ [.endOfStream] := by
  obtain ⟨sound, plugged, does⟩ := here
  rcases does with does | does
  · cases does <;> exact absurd rfl h
  · cases does with
    | finished k stats here closed =>
      have content := sound.content
      have log := sound.log
      rw [here.hand, here.records, List.append_nil, List.append_nil] at content
      rw [here.due, closed, if_pos rfl, List.append_nil] at log
      exact ⟨sound.ended.symm.trans here.ended, by rw [← content]; exact sound.made, log⟩
    | _ => exact absurd rfl h

end Steps

end Push

end RecordFarm
