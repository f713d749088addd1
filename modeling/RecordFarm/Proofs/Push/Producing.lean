import Mathlib.Data.List.Forall2
import RecordFarm.Proofs.Push.Chute
import RecordFarm.Proofs.Push.Feeding

/-!
# One step of a producer

A producer binds its pipe and then goes round: it asks its source for a message and pushes it. When
it has pushed the end of the stream, or when anything fails, it leaves: it closes the pipe and lets
go of everything, and pushes nothing any more.

`Producing` says what is true of a producer in each phase, by what its source yielded and what it
pushed; a step of a producer keeps it (`producer_step`). So either a producer pushed records only,
or it pushed all that its source yielded, and that was records and then the end (`Settled`).
-/

namespace RecordFarm

namespace Push

variable {σ τ : Type}

/-! ## Messages in the pipe -/

/-- What a source of records yields: records or the end. -/
def Fits (m : Message) : Prop := m.isEnd = true ∨ m.Carries

theorem notEnd_of_carries {m : Message} (carries : m.Carries) : m.isEnd = false := by
  rw [Message.isEnd, carries.1]
  rfl

/-- A source that began in `s₀` yields messages with records that can be read, and ends of the
stream. It leaves what is bound at the address alone. -/
structure Streams (A : Source Network σ τ) (uri : String) (s₀ : σ) : Prop where
  apart : ∀ task s (net : Network), net.Spares uri (A.step task s net).2.2
  yields : ∀ task s net reply, A.Reached s₀ (some (.next, task)) s →
    (A.step task s net).1 = .finished (.ok reply) → ∃ m, reply = some m ∧ Fits m

/-- A stream in a farm spares whatever address it is pushed from. -/
theorem Streams.of_isStream {A : Source Network σ τ} {s₀ : σ} (stream : A.IsStream s₀)
    (uri : String) : Streams A uri s₀ :=
  ⟨fun task s net => (stream.apart task s net).spares uri, stream.yields⟩

/-- A step of the source leaves the pipe as it is. -/
theorem Streams.step_chute {A : Source Network σ τ} {uri : String} {s₀ : σ}
    (stream : Streams A uri s₀) {net : Network} {number : Option Nat} {pipe : Pipe}
    (chute : Chute net uri number pipe) (task : τ) (s : σ) :
    ∃ progress s' net', A.step task s net = (progress, s', net') ∧ Chute net' uri number pipe :=
  ⟨_, _, _, rfl, chute.spared (stream.apart task s net)⟩

/-- These frames are read as what was sent: as a message with the same records, or as the end. -/
inductive Arrives (m : Message) (frames : Frames) : Prop where
  | records {arrived : Message} (framed : Message.ofFrames frames = .ok arrived)
      (kind : arrived.kind = .process) (content : arrived.records = .ok m.content)
      (notEnd : m.isEnd = false) : Arrives m frames
  | endOfStream {arrived : Message} (framed : Message.ofFrames frames = .ok arrived)
      (kind : arrived.kind = .endOfStream) (isEnd : m.isEnd = true) : Arrives m frames

/-- A message that fits arrives in its frames. -/
theorem arrives_of_framed {m : Message} {frames : Frames} (fits : Fits m)
    (h : m.toFramesBatched = .ok frames) : Arrives m frames := by
  rcases fits with isEnd | carries
  · have kind : m.kind = .endOfStream := eq_of_beq isEnd
    have framed := Message.hop_other (by rw [kind]; decide) (by rw [kind]; rfl) h
    exact .endOfStream framed kind isEnd
  · obtain ⟨records, arrived, hrecords, framed, hkind, content⟩ := Message.hop_process carries.1 h
    have same := Message.content_of_records carries.1 hrecords
    exact .records framed hkind (by rw [same]; exact content) (notEnd_of_carries carries)

def Complete (messages : List Message) : Prop :=
  ∃ items last, messages = items ++ [last] ∧ last.isEnd = true ∧ ∀ item ∈ items, item.Carries

/-- Only records were pushed, or else all that was yielded, up to the end. -/
def Settled (log pushed : List Message) : Prop :=
  (∀ m ∈ pushed, m.Carries) ∨ (log = pushed ∧ Complete pushed)

theorem settled_nil (log : List Message) : Settled log [] := Or.inl (List.forall_mem_nil _)

/-! ## Phases of a producer -/

abbrev Producer (σ τ : Type) :=
  Element (Pusher (σ × List Message)) (Pusher.Task (SourceCall × τ))

def Owns (uri : String) (number : Option Nat) (push : Option PushSocket) : Prop :=
  ∀ socket, push = some socket →
    number = some socket.number ∧ socket.uri = uri ∧ socket.isBinder = true

theorem owns_none (uri : String) (number : Option Nat) : Owns uri number none := nofun

/-- What is true of a producer in each phase before it leaves: its socket, the number of its pipe,
what its source yielded and what it pushed. -/
inductive Producing (uri : String) : Phase (Pusher.Task (SourceCall × τ)) → Option PushSocket →
    Option Nat → List Message → List Message → Prop where
  | created : Producing uri .created none none [] []
  | beginning : Producing uri (.connectingSource (.begin .connectSource)) none none [] []
  | connecting (task : τ) :
      Producing uri (.connectingSource (.inSource .plain (.connect, task))) none none [] []
  | binding : Producing uri (.connectingSink (.begin .connectSink)) none none [] []
  | fetching {push : Option PushSocket} {number : Option Nat} {log : List Message}
      (owns : Owns uri number push) (carry : ∀ m ∈ log, m.Carries) :
      Producing uri (.fetching (.begin .fetch)) push number log log
  | reading {push : Option PushSocket} {number : Option Nat} {log : List Message} (task : τ)
      (owns : Owns uri number push) (carry : ∀ m ∈ log, m.Carries) :
      Producing uri (.fetching (.inSource .fetched (.next, task))) push number log log
  | taking {push : Option PushSocket} {number : Option Nat} {log : List Message} {m : Message}
      (owns : Owns uri number push) (carry : ∀ m ∈ log, m.Carries) (fits : Fits m) :
      Producing uri
        (.dispatching m (.begin (.dispatch m.kind.hook m (m.kind != .exitRequest)))) push number
        (log ++ [m]) log
  | pushing {push : Option PushSocket} {number : Option Nat} {log : List Message} {m : Message}
      {frames : Frames} (owns : Owns uri number push) (carry : ∀ m ∈ log, m.Carries) (fits : Fits m)
      (framed : m.toFramesBatched = .ok frames) :
      Producing uri (.dispatching m (.pushing frames m.isEnd)) push number (log ++ [m]) log

inductive Leaving (uri : String) (number : Option Nat) :
    Phase (Pusher.Task (SourceCall × τ)) → Option PushSocket → Prop where
  | closing (failure : Option Error) {push : Option PushSocket} (owns : Owns uri number push) :
      Leaving uri number (.disconnectingSink failure (.begin .disconnectSink)) push
  | lingering (failure : Option Error) {socket : PushSocket} (rest : PushSocket.Lingering)
      (owns : Owns uri number (some socket)) :
      Leaving uri number (.disconnectingSink failure (.lingering socket rest)) none
  | turning (failure : Option Error) {push : Option PushSocket} (owns : Owns uri number push) :
      Leaving uri number (.disconnectingSource failure (.begin .disconnectSource)) push
  | disconnecting (failure : Option Error) (task : τ) {push : Option PushSocket}
      (owns : Owns uri number push) :
      Leaving uri number (.disconnectingSource failure (.inSource .plain (.disconnect, task))) push
  | releasing (outcome : Outcome) {push : Option PushSocket} (owns : Owns uri number push) :
      Leaving uri number (.releasing outcome (.begin .release)) push
  | dropping (outcome : Outcome) (task : τ) {push : Option PushSocket}
      (owns : Owns uri number push) :
      Leaving uri number (.releasing outcome (.inSource .released (.release, task))) push
  | ended (outcome : Outcome) (push : Option PushSocket) :
      Leaving uri number (.over outcome) push

inductive Produces (uri : String) (phase : Phase (Pusher.Task (SourceCall × τ)))
    (push : Option PushSocket) (number : Option Nat) (log pushed : List Message) : Prop where
  | producing (does : Producing uri phase push number log pushed) :
      Produces uri phase push number log pushed
  | leaving (does : Leaving uri number phase push) (settled : Settled log pushed) :
      Produces uri phase push number log pushed

def producer (uri name : String) (s : σ) (log : List Message) (push : Option PushSocket)
    (count : Nat) (phase : Phase (Pusher.Task (SourceCall × τ))) (lifecycle : Lifecycle)
    (stats : Stats) : Producer σ τ where
  strategy := { name, uri, source := (s, log), push, pushed := count }
  phase := phase
  lifecycle := lifecycle
  stats := stats

/-- A producer at this address, whose pipe has this number, pushed these messages. -/
inductive ProducerAt (uri : String) : Producer σ τ → Option Nat → List Message → Prop where
  | mk {phase : Phase (Pusher.Task (SourceCall × τ))} {push : Option PushSocket}
      {number : Option Nat} {log pushed : List Message} {name : String} {s : σ} {count : Nat}
      {lifecycle : Lifecycle} {stats : Stats}
      (does : Produces uri phase push number log pushed) :
      ProducerAt uri (producer uri name s log push count phase lifecycle stats) number pushed

/-- In each phase what was pushed is settled with the log. -/
theorem Producing.settled {uri : String} {phase : Phase (Pusher.Task (SourceCall × τ))}
    {push : Option PushSocket} {number : Option Nat} {log pushed : List Message}
    (does : Producing uri phase push number log pushed) : Settled log pushed := by
  cases does with
  | fetching _ carry => exact Or.inl carry
  | reading _ _ carry => exact Or.inl carry
  | taking _ carry _ => exact Or.inl carry
  | pushing _ carry _ _ => exact Or.inl carry
  | _ => exact settled_nil _

/-- What a producer pushed is settled with its log. -/
theorem ProducerAt.settled {uri : String} {e : Producer σ τ} {number : Option Nat}
    {pushed : List Message} (here : ProducerAt uri e number pushed) :
    Settled e.strategy.source.2 pushed := by
  obtain ⟨does⟩ := here
  cases does with
  | producing does => exact does.settled
  | leaving _ settled => exact settled

/-- Where a step takes a producer: it may bind the pipe or close it, and it may push messages. -/
def ProducerGoes (uri : String) (number : Option Nat) (pushed : List Message) (pipe : Pipe)
    (after : Turn × Producer σ τ × Network) : Prop :=
  ∃ number' sent rows pipe', ProducerAt uri after.2.1 number' (pushed ++ sent) ∧
    Chute after.2.2 uri number' pipe' ∧ (number' = number ∨ number = none) ∧
    pipe'.queue = pipe.queue ++ rows ∧ List.Forall₂ Arrives sent rows

section Steps

variable {A : Source Network σ τ} {s₀ : σ} {uri : String} {number number' : Option Nat}
  {pushed : List Message} {pipe pipe' : Pipe} {net net' : Network} {t : Turn} {e : Producer σ τ}

theorem ProducerGoes.turns (here : ProducerAt uri e number' pushed)
    (chute : Chute net uri number' pipe') (same : number' = number ∨ number = none)
    (queue : pipe'.queue = pipe.queue) : ProducerGoes uri number pushed pipe (t, e, net) :=
  ⟨number', [], [], pipe', by rw [List.append_nil]; exact here, chute, same,
    by rw [List.append_nil]; exact queue, .nil⟩

theorem ProducerGoes.stays (here : ProducerAt uri e number pushed)
    (chute : Chute net uri number pipe) : ProducerGoes uri number pushed pipe (t, e, net) :=
  .turns here chute (Or.inl rfl) rfl

theorem ProducerGoes.pushes {m : Message} {frames : Frames}
    (here : ProducerAt uri e number (pushed ++ [m])) (arrives : Arrives m frames)
    (chute : Chute net uri number { pipe with queue := pipe.queue ++ [frames] }) :
    ProducerGoes uri number pushed pipe (t, e, net) :=
  ⟨number, [m], [frames], _, here, chute, Or.inl rfl, rfl, .cons arrives .nil⟩

variable {phase : Phase (Pusher.Task (SourceCall × τ))} {push : Option PushSocket}
  {log : List Message} {name : String} {s : σ} {count : Nat} {lifecycle : Lifecycle} {stats : Stats}

/-- A producer that leaves lets its source and its pipe go. -/
theorem leaving_step (stream : Streams A uri s₀)
    (does : Leaving uri number phase push) (settled : Settled log pushed)
    (chute : Chute net uri number pipe) :
    ProducerGoes uri number pushed pipe
      ((producer uri name s log push count phase lifecycle stats).step (Pusher.strategy A.logged)
        net) := by
  cases does with
  | closing failure owns =>
    simp only [producer, Element.step, Element.advance, Pusher.strategy, Pusher.step, Pusher.begin]
    cases push with
    | none => exact .stays (.mk (.leaving (.turning _ (owns_none _ _)) settled)) chute
    | some socket => exact .stays (.mk (.leaving (.lingering failure _ owns) settled)) chute
  | @lingering failure socket rest owns =>
    obtain ⟨hnumber, huri, hbinder⟩ := owns socket rfl
    simp only [producer, Element.step, Element.advance, Pusher.strategy, Pusher.step]
    cases rest.next? socket net.limits.linger net with
    | none =>
      exact .turns (.mk (.leaving (.turning _ (owns_none _ _)) settled))
        (chute.close hnumber huri hbinder) (Or.inl rfl) rfl
    | some next =>
      by_cases same : next = rest
      · simp only [same, if_true]
        exact .stays (.mk (.leaving (.lingering failure rest owns) settled)) chute
      · simp only [same, if_false]
        exact .stays (.mk (.leaving (.lingering failure next owns) settled)) chute
  | turning failure owns =>
    exact .stays (.mk (.leaving (.disconnecting failure _ owns) settled)) chute
  | disconnecting failure task owns =>
    obtain ⟨progress, s', net', hstep, chute'⟩ := stream.step_chute chute task s
    have hlogged := Source.logged_step_of_ne .disconnect log (by decide) hstep
    simp only [producer, Element.step, Element.advance, Pusher.strategy, Pusher.step, hlogged]
    cases progress with
    | waiting until? =>
      exact .stays (.mk (.leaving (.disconnecting failure task owns) settled)) chute'
    | working rest =>
      exact .stays (.mk (.leaving (.disconnecting failure rest owns) settled)) chute'
    | finished result =>
      cases result <;> exact .stays (.mk (.leaving (.releasing _ owns) settled)) chute'
    | panicked => exact .stays (.mk (.leaving (.releasing _ owns) settled)) chute'
  | releasing outcome owns => exact .stays (.mk (.leaving (.dropping outcome _ owns) settled)) chute
  | dropping outcome task owns =>
    obtain ⟨progress, s', net', hstep, chute'⟩ := stream.step_chute chute task s
    have hlogged := Source.logged_step_of_ne .release log (by decide) hstep
    simp only [producer, Element.step, Pusher.strategy, Pusher.step, hlogged]
    cases progress with
    | waiting until? =>
      exact .stays (.mk (.leaving (.dropping outcome task owns) settled)) chute'
    | working rest =>
      exact .stays (.mk (.leaving (.dropping outcome rest owns) settled)) chute'
    | finished result =>
      cases push with
      | none => exact .stays (.mk (.leaving (.ended outcome _) settled)) chute'
      | some socket =>
        obtain ⟨hnumber, huri, hbinder⟩ := owns socket rfl
        exact .turns (.mk (.leaving (.ended outcome _) settled))
          (chute'.close hnumber huri hbinder) (Or.inl rfl) rfl
    | panicked => exact .stays (.mk (.leaving (.ended outcome _) settled)) chute'
  | ended outcome push => exact .stays (.mk (.leaving (.ended outcome push) settled)) chute

/-- A producer pushes what its source yields. -/
theorem dispatch_of_fits {m : Message} (fits : Fits m) (s : Pusher (σ × List Message))
    (net : Network) :
    (Pusher.dispatch m.kind.hook m s net : Pusher.Stepped _ (SourceCall × τ))
      = Pusher.send m m.isEnd s net := by
  rcases fits with isEnd | carries
  · have kind : m.kind = .endOfStream := eq_of_beq isEnd
    rw [isEnd, kind]
    rfl
  · rw [notEnd_of_carries carries, carries.1]
    rfl

/-- The source is connected before there is a pipe. -/
theorem connectingSource_step (stream : Streams A uri s₀) (task : τ)
    (chute : Chute net uri none pipe) :
    ProducerGoes uri none [] pipe
      ((producer uri name s [] none count (.connectingSource (.inSource .plain (.connect, task)))
        lifecycle stats).step (Pusher.strategy A.logged) net) := by
  obtain ⟨progress, s', net', hstep, chute'⟩ := stream.step_chute chute task s
  have hlogged := Source.logged_step_of_ne .connect [] (by decide) hstep
  simp only [producer, Element.step, Element.advance, Pusher.strategy, Pusher.step, hlogged]
  cases progress with
  | waiting until? => exact .stays (.mk (.producing (.connecting task))) chute'
  | working rest => exact .stays (.mk (.producing (.connecting rest))) chute'
  | panicked =>
    exact .stays (.mk (.leaving (.releasing _ (owns_none _ _)) (settled_nil _))) chute'
  | finished result =>
    cases result with
    | error cause =>
      exact .stays (.mk (.leaving (.closing _ (owns_none _ _)) (settled_nil _))) chute'
    | ok reply => exact .stays (.mk (.producing .binding)) chute'

/-- The message that was read is pushed. The end is the last that is pushed; after records the
producer goes on. -/
theorem pushing_step {m : Message} {frames : Frames} (owns : Owns uri number push)
    (carry : ∀ m ∈ pushed, m.Carries) (fits : Fits m) (framed : m.toFramesBatched = .ok frames)
    (chute : Chute net uri number pipe) :
    ProducerGoes uri number pushed pipe
      ((producer uri name s (pushed ++ [m]) push count (.dispatching m (.pushing frames m.isEnd))
        lifecycle stats).step (Pusher.strategy A.logged) net) := by
  simp only [producer, Element.step, Element.advance, Pusher.strategy, Pusher.step]
  cases push with
  | none => exact .stays (.mk (.leaving (.closing _ owns) (Or.inl carry))) chute
  | some socket =>
    simp only
    cases hsend : socket.send frames net with
    | blocked => exact .stays (.mk (.producing (.pushing owns carry fits framed))) chute
    | failed cause => exact .stays (.mk (.leaving (.closing _ owns) (Or.inl carry))) chute
    | done result net' =>
      have chute' := chute.send (owns socket rfl).1 hsend
      have arrives := arrives_of_framed fits framed
      rcases fits with isEnd | carries
      · have settled : Settled (pushed ++ [m]) (pushed ++ [m]) :=
          Or.inr ⟨rfl, pushed, m, rfl, isEnd, carry⟩
        simp only [Pusher.answer, isEnd, Bool.true_or, if_true]
        exact .pushes (.mk (.leaving (.closing _ owns) settled)) arrives chute'
      · have carry' : ∀ m' ∈ pushed ++ [m], m'.Carries := by
          rw [List.forall_mem_append, List.forall_mem_singleton]
          exact ⟨carry, carries⟩
        have running : (m.isEnd || m.kind == .exitRequest) = false := by
          rw [notEnd_of_carries carries, carries.1]
          rfl
        simp only [Pusher.answer, running, Bool.false_eq_true, if_false]
        exact .pushes (.mk (.producing (.fetching owns carry'))) arrives chute'

/-- A producer in its loop reads a message, or pushes the one it has read. -/
theorem producing_step (stream : Streams A uri s₀)
    (does : Producing uri phase push number log pushed)
    (reached : Pusher.Reached A s₀ phase.task?
      { name, uri, source := (s, log), push, pushed := count })
    (chute : Chute net uri number pipe) :
    ProducerGoes uri number pushed pipe
      ((producer uri name s log push count phase lifecycle stats).step (Pusher.strategy A.logged)
        net) := by
  cases does with
  | created => exact .stays (.mk (.producing .beginning)) chute
  | beginning => exact .stays (.mk (.producing (.connecting _))) chute
  | connecting task => exact connectingSource_step stream task chute
  | binding =>
    simp only [producer, Element.step, Element.advance, Pusher.strategy, Pusher.step, Pusher.begin]
    cases hbind : PushSocket.bind net uri with
    | blocked => exact .stays (.mk (.producing .binding)) chute
    | failed cause =>
      exact .stays (.mk (.leaving (.closing _ (owns_none _ _)) (settled_nil _))) chute
    | done socket net' =>
      obtain ⟨huri, hbinder, chute'⟩ := Chute.bind hbind
      have owns : Owns uri (some socket.number) (some socket) := fun socket' h => by
        cases h
        exact ⟨rfl, huri, hbinder⟩
      exact .turns (.mk (.producing (.fetching owns (List.forall_mem_nil _)))) chute' (Or.inr rfl)
        (chute.empty rfl).symm
  | fetching owns carry => exact .stays (.mk (.producing (.reading _ owns carry))) chute
  | reading task owns carry =>
    obtain ⟨progress, s', net', hstep, chute'⟩ := stream.step_chute chute task s
    simp only [producer, Element.step, Element.advance, Pusher.strategy, Pusher.step, Source.logged,
      hstep]
    cases progress with
    | waiting until? => exact .stays (.mk (.producing (.reading task owns carry))) chute'
    | working rest => exact .stays (.mk (.producing (.reading rest owns carry))) chute'
    | panicked => exact .stays (.mk (.leaving (.releasing _ owns) (Or.inl carry))) chute'
    | finished result =>
      cases result with
      | error cause => exact .stays (.mk (.leaving (.closing _ owns) (Or.inl carry))) chute'
      | ok reply =>
        -- The source yields only messages that the pusher can send.
        obtain ⟨m, rfl, fits⟩ := stream.yields task s net reply reached (by rw [hstep])
        exact .stays (.mk (.producing (.taking owns carry fits))) chute'
  | @taking _ _ _ m owns carry fits =>
    simp only [producer, Element.step, Element.advance, Pusher.strategy, Pusher.step, Pusher.begin,
      dispatch_of_fits fits, Pusher.send]
    cases framed : m.toFramesBatched with
    | error cause => exact .stays (.mk (.leaving (.closing _ owns) (Or.inl carry))) chute
    | ok frames => exact .stays (.mk (.producing (.pushing owns carry fits framed))) chute
  | pushing owns carry fits framed => exact pushing_step owns carry fits framed chute

/-- **A step of a producer** binds the pipe, pushes a message that arrives, closes the pipe, or
leaves the pipe alone. -/
theorem producer_step (stream : Streams A uri s₀) (here : ProducerAt uri e number pushed)
    (reached : Pusher.Reached A s₀ e.phase.task? e.strategy) (chute : Chute net uri number pipe) :
    ProducerGoes uri number pushed pipe (e.step (Pusher.strategy A.logged) net) := by
  obtain ⟨does⟩ := here
  cases does with
  | producing does => exact producing_step stream does reached chute
  | leaving does settled => exact leaving_step stream does settled chute

end Steps

end Push

end RecordFarm
