import RecordFarm.Proofs.Element.Hooks
import RecordFarm.Proofs.Fanout.Heeding
import RecordFarm.Proofs.Farm.Stream
import RecordFarm.Proofs.Pipeline.Routing

/-!
# How much a dispenser has queued

A distributor reads its source only while its dispenser wants more, and the message that it reads is
the only one that it sends until it asks again. So the mark of the dispenser bounds its queue
(`Backlog.queue_within_mark`), as long as no peer has anything to be passed on (`peerKinds`): what
peers say is taken whether the dispenser wants more or not.

Only sending adds to the queue (`Queue.length_call_le`), and what a step does to the queue is what
it asks of it (`Dispenser.Does.alters`). `Backlog.At` says where a pipeline may be about to send.
-/

namespace RecordFarm

namespace Fanout

/-! ## What calls add to the queue -/

namespace Queue

/-- A round never lengthens the queue. -/
theorem length_round_le {q after : Queue} {due : List Delivery} (h : q.round = .served due after) :
    after.messages.length ≤ q.messages.length := by
  unfold round at h
  repeat' split at h
  all_goals simp only [reduceCtorEq, Round.served.injEq] at h
  all_goals obtain ⟨-, rfl⟩ := h
  all_goals simp_all

/-- Serving adds nothing to the queue. Induction on the service itself. -/
theorem length_serve_le (q : Queue) (due : List Delivery) :
    (q.serve due).2.messages.length ≤ q.messages.length := by
  fun_induction serve q due with
  | case1 q due idle => exact Nat.le_refl _
  | case2 q due more mid served ih => exact Nat.le_trans ih (length_round_le served)
  | case3 q due after misplaced =>
    obtain ⟨m, behind, -, atEnd, rfl⟩ := atEnd_of_misplaced misplaced
    rw [atEnd.oldest]
    exact Nat.le_succ _

/-- **Only sending adds to the queue**, and at most the message that is sent. -/
theorem length_call_le (q : Queue) (c : Call) :
    (q.call c).2.messages.length ≤ q.messages.length + c.sent?.toList.length := by
  cases c with
  | send m =>
    simp only [call, send]
    split
    · exact Nat.le_add_right _ _
    · refine Nat.le_trans (length_serve_le _ _) (Nat.le_of_eq ?_)
      exact List.length_append
  | request id => exact length_serve_le _ _
  | register id => exact Nat.le_refl _
  | unregister id => exact length_serve_le _ _

end Queue

namespace Dispenser

variable {s s' : Dispenser} {net : Network} {task : Task} {m : Message}

/-! ## What a step changes -/

/-- What a step that asks this of the queue changes of the queue, of the mark and of the request to
exit that is held. -/
structure Alters (s : Dispenser) (task : Task) (asked : Option Call) (s' : Dispenser) : Prop where
  queue : s'.queue = match asked with
    | none => s.queue
    | some c => (s.queue.call c).2
  highWaterMark : s'.highWaterMark = s.highWaterMark
  held : ∀ m, s'.heldExit = some m → s.heldExit = some m ∨ m.kind = .exitRequest
  /-- What is sent comes with the call, and not from a peer in the rundown. -/
  sends : ∀ m, asked.bind Call.sent? = some m → task = .begin (.send m)

/-- It asks nothing of the queue. -/
theorem Alters.apart (queue : s'.queue = s.queue)
    (highWaterMark : s'.highWaterMark = s.highWaterMark)
    (held : ∀ m, s'.heldExit = some m → s.heldExit = some m ∨ m.kind = .exitRequest) :
    Alters s task none s' where
  queue := queue
  highWaterMark := highWaterMark
  held := held
  sends := nofun

/-- It asks this of the queue. -/
theorem Alters.call {c : Call} {result : Except Violation (List Delivery)} {after : Queue}
    (h : s.queue.call c = (result, after))
    (sends : ∀ m, c.sent? = some m → task = .begin (.send m)) :
    Alters s task (some c) { s with queue := after } where
  queue := (congrArg Prod.snd h).symm
  highWaterMark := rfl
  held _ := Or.inl
  sends := sends

/-- What a call sends to the queue is what it was asked to send. -/
theorem begin_send_of_asks {call : SinkCall} {c : Call} (asks : Call.ofSink? call = some c)
    (m : Message) (sent : c.sent? = some m) : Task.begin call = .begin (.send m) := by
  cases call with
  | send m' =>
    cases asks
    cases sent
    rfl
  | request id | register id | unregister id =>
    cases asks
    cases sent
  | _ => cases asks

/-- **What a step changes.** -/
theorem Does.alters {stepped : Stepped} {asked : Option Call} {gone : Option (Delivery × Bool)}
    (does : Does s net task stepped asked gone) : Alters s task asked stepped.2.1 := by
  cases does with
  | gives => exact .apart rfl rfl nofun
  | exits exit =>
    refine .apart rfl rfl fun m held => Or.inr ?_
    cases held
    exact exit
  | @registers id => exact .call (c := .register id) rfl nofun
  | calls asks h => exact .call h (begin_send_of_asks asks)
  | breaks asks h => exact .call h (begin_send_of_asks asks)
  | serves silent h | sinks silent h =>
    refine .call h fun m sent => ?_
    rw [silent] at sent
    cases sent
  | binds | waits | hears | stops | hands | misses | refuses | runsDown | ends | drained | awaits
  | fails | ignores => exact .apart rfl rfl fun _ => Or.inl

/-! ## Below the mark -/

/-- The queue is not over the mark, and only a request to exit is held. -/
structure Within (mark : Nat) (s : Dispenser) : Prop where
  highWaterMark : s.highWaterMark = mark
  bounded : s.queue.messages.length ≤ mark
  held : ∀ m, s.heldExit = some m → m.kind = .exitRequest

/-- **A step stays below the mark**, unless it sends while the dispenser wants nothing. -/
theorem Within.alter {mark : Nat} {asked : Option Call} (within : Within mark s)
    (alters : Alters s task asked s')
    (room : ∀ m, task = .begin (.send m) → s.wantsInput = true) : Within mark s' where
  highWaterMark := alters.highWaterMark.trans within.highWaterMark
  bounded := by
    rw [alters.queue]
    cases asked with
    | none => exact within.bounded
    | some c =>
      refine Nat.le_trans (Queue.length_call_le s.queue c) ?_
      cases sent : c.sent? with
      | none => exact within.bounded
      | some m =>
        have wants := room m (alters.sends m sent)
        unfold wantsInput at wants
        rw [within.highWaterMark] at wants
        exact of_decide_eq_true wants
  held m held := (alters.held m held).elim (within.held m) id

/-! ## What peers say -/

/-- What the peers of a dispenser have to say to it. Nothing of it is passed on. -/
def peerKinds : List Kind :=
  [.registration, .unregistration, .dataRequest, .exitRequest, .endOfStream]

/-- What its peers have said and the dispenser has not taken yet. -/
def mail (s : Dispenser) (net : Network) : List Message :=
  ((s.router.bind fun router => heard router.number net).getD []).filterMap fun x =>
    (Message.ofFrames x.2).toOption

/-- What a dispenser could hear now: the rows at its router that read as messages. -/
theorem mem_mail_iff : m ∈ s.mail net ↔ ∃ router waiting, s.router = some router ∧
    heard router.number net = some waiting ∧ ∃ x ∈ waiting, Message.ofFrames x.2 = .ok m := by
  have readable : ∀ frames, (Message.ofFrames frames).toOption = some m
      ↔ Message.ofFrames frames = .ok m := by
    intro frames
    cases Message.ofFrames frames <;> simp [Except.toOption]
  unfold mail
  rw [List.mem_filterMap]
  simp only [readable]
  constructor
  · rintro ⟨x, waits, read⟩
    cases there : s.router.bind fun router => heard router.number net with
    | none =>
      rw [there] at waits
      cases waits
    | some waiting =>
      obtain ⟨router, bound, said⟩ := Option.bind_eq_some_iff.1 there
      rw [there] at waits
      exact ⟨router, waiting, bound, said, x, waits, read⟩
  · rintro ⟨router, waiting, bound, said, x, waits, read⟩
    refine ⟨x, ?_, read⟩
    rw [bound, Option.bind_some, said]
    exact waits

theorem mem_mail_of_receive {net' : Network} (h : s.receive net = .done (.ok m) net') :
    m ∈ s.mail net := by
  rw [mem_mail_iff]
  cases bound : s.router with
  | none =>
    unfold receive at h
    rw [bound] at h
    cases h
  | some router =>
    cases there : heard router.number net with
    | none =>
      unfold receive RouterSocket.recv at h
      rw [bound] at h
      simp only [Option.map_eq_none_iff.1 there] at h
      cases h
    | some waiting =>
      cases waiting with
      | nil =>
        rw [receive_of_nothing bound there] at h
        cases h
      | cons request rest =>
        rw [receive_of_request bound there] at h
        refine ⟨router, _, rfl, there, request, List.mem_cons_self, ?_⟩
        cases read : Message.ofFrames request.2 with
        | error cause =>
          rw [read] at h
          cases h
        | ok m' =>
          rw [read] at h
          cases h
          rfl

/-- What peers have said waits at some router. -/
theorem exists_of_mem_mail (h : m ∈ s.mail net) :
    ∃ r ∈ net.routers, ∃ x ∈ r.inbound, Message.ofFrames x.2 = .ok m := by
  obtain ⟨router, waiting, -, said, x, waits, read⟩ := mem_mail_iff.1 h
  obtain ⟨r, stands, rfl⟩ := Option.map_eq_some_iff.1 said
  exact ⟨r, List.mem_of_getElem? stands, x, waits, read⟩

inductive Hears (waits : Bool) (s : Dispenser) (net : Network) : Progress Task Reply → Prop where
  | waits : Hears waits s net (.waiting none)
  | fails (cause : Error) : Hears waits s net (.finished (.error cause))
  | nobody (polls : waits = false) : Hears waits s net (.finished (.ok none))
  | heard {m : Message} (said : s.heldExit = some m ∨ m ∈ s.mail net) :
      Hears waits s net (.finished (.ok (some m)))

/-- A call for the next message hears the exit that is held, or what waits at the router. -/
theorem hears_nextMessage (waits : Bool) (s : Dispenser) (net : Network) :
    Hears waits s net (nextMessage waits s net).1 := by
  unfold nextMessage
  cases held : s.heldExit with
  | some m => exact .heard (Or.inl held)
  | none =>
    simp only
    cases received : s.receive net with
    | blocked =>
      cases waits with
      | true => exact .waits
      | false => exact .nobody rfl
    | failed cause => exact .fails _
    | done result net' =>
      cases result with
      | error cause => exact .fails cause
      | ok m => exact .heard (Or.inr (mem_mail_of_receive received))

/-- If the peers have nothing to be passed on, what is heard is not to be passed on. -/
theorem Within.peer {mark : Nat} (within : Within mark s)
    (quiet : ∀ m ∈ s.mail net, m.kind ∈ peerKinds)
    (said : s.heldExit = some m ∨ m ∈ s.mail net) : m.kind ∈ peerKinds := by
  rcases said with held | said
  · rw [within.held m held]
    decide
  · exact quiet m said

/-- A dispenser that asks nothing of its queue wants as much as before. -/
theorem Alters.wantsInput (alters : Alters s task none s') : s'.wantsInput = s.wantsInput := by
  unfold Dispenser.wantsInput
  rw [alters.queue, alters.highWaterMark]

/-- A call that is not answered in its first step does not send again. -/
theorem room_of_pending {rest : Task}
    (room : ∀ m, task = .begin (.send m) → s.wantsInput = true)
    (pending : (step task s net).1.pending task = some rest) :
    ∀ m, rest = .begin (.send m) → (step task s net).2.1.wantsInput = true := by
  obtain ⟨asked, gone, does⟩ := exists_does task s net
  generalize step task s net = stepped at does pending
  cases does with
  | waits | awaits | stops =>
    cases pending
    exact room
  | calls | hands | misses | runsDown | ignores | serves =>
    cases pending
    nofun
  | binds | hears | gives | registers | breaks | refuses | ends | drained | fails | exits
  | sinks => cases pending

end Dispenser

/-! ## Hooks of a pipeline -/

namespace Backlog

open Pipeline (SourceUse SinkUse Handled handled_dispatch)
open Dispenser (Within peerKinds does_step)

variable {σ τ π : Type}

abbrev State (σ π : Type) := Pipeline σ π Dispenser

abbrev Task (τ : Type) := Pipeline.Task τ Dispenser.Task

/-- The message may be sent, for the dispenser wants more, or it will not be, for a peer said it. -/
def Admitted (m : Message) (s : State σ π) : Prop :=
  s.sink.wantsInput = true ∨ s.origin = .sink ∧ m.kind ∈ peerKinds

inductive At : HookCall → Task τ → State σ π → Prop where
  | begin {call : HookCall} {s : State σ π}
      (fresh : ∀ m, call.about? = some m → call = m.handling ∧ Admitted m s) :
      At call (.begin call) s
  /-- The source serves a call, and yields nothing. -/
  | inSource {call : HookCall} {use : SourceUse} {rest : τ} {s : State σ π}
      (noFetch : call ≠ .fetch) (noMessage : use ≠ .fetched) : At call (.inSource use rest) s
  /-- The dispenser serves a call, and yields nothing. If it is sent something, it wants more. -/
  | inSink {call : HookCall} {use : SinkUse} {rest : Dispenser.Task} {s : State σ π}
      (noFetch : call ≠ .fetch) (noMessage : use = .plain ∨ use = .checked)
      (room : ∀ m, rest = .begin (.send m) → s.sink.wantsInput = true) :
      At call (.inSink use rest) s
  /-- The pipeline asks whether a peer speaks. -/
  | polling {s : State σ π} (wants : s.sink.wantsInput = true) :
      At .fetch (.inSink .polled (.begin .poll)) s
  /-- The pipeline waits for the peers. -/
  | getting {s : State σ π} (origin : s.origin = .sink) :
      At .fetch (.inSink .fetched (.begin .get)) s
  /-- The source is read. -/
  | reading {rest : τ} {s : State σ π} (wants : s.sink.wantsInput = true) :
      At .fetch (.inSource .fetched rest) s

variable (mark : Nat)

/-- Where a pipeline stands in the middle of a hook. -/
def Stands (call : HookCall) (task : Task τ) (s : State σ π) : Prop :=
  Within mark s.sink ∧ At call task s

def Answered (call : HookCall) (result : Except Error HookReply) (s : State σ π) : Prop :=
  Within mark s.sink ∧
    (call = .fetch → ∀ reply, result = .ok reply → Admitted reply.message s)

abbrev Comes (call : HookCall) (task : Task τ)
    (x : Pipeline.Stepped Network σ π Dispenser τ Dispenser.Task) : Prop :=
  Element.Comes (fun call task s _ => Stands mark call task s)
    (fun call result s _ => Answered mark call result s) (fun s _ => Within mark s.sink) call task x

variable {mark} {A : Source Network σ τ} {P : Processor π} {call : HookCall} {task : Task τ}
  {s : State σ π} {net : Network}

/-- An answer to a hook other than the one that looks for a message tells of no message. -/
theorem answered_of_ne_fetch {result : Except Error HookReply} (within : Within mark s.sink)
    (noFetch : call ≠ .fetch) : Answered mark call result s :=
  ⟨within, (absurd · noFetch)⟩

/-- A hook that fails admits no message. -/
theorem answered_error (cause : Error) (within : Within mark s.sink) :
    Answered mark call (.error cause) s :=
  ⟨within, fun _ _ h => by cases h⟩

/-! ### Hooks begin -/

/-- What peers say is not sent. -/
theorem not_sent_of_peer {m sent : Message} {p : π} (peer : m.kind ∈ peerKinds) :
    (Pipeline.route P p .sink m).1 ≠ some (.toSink (.send sent)) := by
  unfold Pipeline.route
  intro h
  cases hkind : m.kind <;> rw [hkind] at h peer
  case process | barrier | ignore | other => simp [peerKinds] at peer
  case endOfStream | exitRequest => cases h
  case registration | unregistration | dataRequest =>
    cases hid : m.identity <;> rw [hid] at h <;> cases h

/-- A message is sent only if the dispenser wants more. -/
theorem Admitted.wants {m sent : Message} {p : π} (admitted : Admitted m s)
    (h : (Pipeline.route P p s.origin m).1 = some (.toSink (.send sent))) :
    s.sink.wantsInput = true := by
  rcases admitted with wants | ⟨origin, peer⟩
  · exact wants
  · rw [origin] at h
    exact absurd h (not_sent_of_peer peer)

/-- Handling a message that was admitted keeps the queue within the mark. -/
theorem comes_dispatch {m : Message} (within : Within mark s.sink) (admitted : Admitted m s) :
    Comes mark m.handling task (Pipeline.dispatch A P Dispenser.sink m.kind.hook m s net) := by
  have handled := handled_dispatch A P Dispenser.sink m s net
  generalize Pipeline.dispatch A P Dispenser.sink m.kind.hook m s net = stepped at handled
  cases handled with
  | dropped p h => exact answered_of_ne_fetch within nofun
  | refused cause p h => exact answered_error cause within
  | panicked p h => exact within
  | toSource call p h about => exact ⟨within, .inSource nofun nofun⟩
  | toSink use call p h checks about =>
    refine ⟨within, .inSink nofun (checks.symm.imp_left And.left) fun sent hsent => ?_⟩
    cases hsent
    exact admitted.wants (congrArg Prod.fst h)

/-- A message is looked for at the source only while the queue is below the mark. -/
theorem comes_fetch (within : Within mark s.sink) :
    Comes mark .fetch task
      (Pipeline.fetch Dispenser.sink s net : Pipeline.Stepped Network σ π Dispenser τ _) := by
  unfold Pipeline.fetch
  split
  · exact ⟨within, .getting rfl⟩
  · have asked : Dispenser.sink.wantsInput s.sink net = (s.sink.wantsInput, s.sink, net) := rfl
    rw [asked]
    cases wants : s.sink.wantsInput with
    | true => exact ⟨within, .polling wants⟩
    | false => exact ⟨within, .getting rfl⟩

/-- A hook begins with a message that was admitted, or is about none. -/
theorem comes_begin (within : Within mark s.sink)
    (fresh : ∀ m, call.about? = some m → call = m.handling ∧ Admitted m s) :
    Comes mark call task (Pipeline.begin A P Dispenser.sink call s net) := by
  cases call with
  | fetch => exact comes_fetch within
  | send m => cases (fresh m rfl).1
  | dispatch hook m running =>
    obtain ⟨hcall, admitted⟩ := fresh m rfl
    obtain ⟨rfl, -, -⟩ := HookCall.dispatch.inj hcall
    rw [hcall]
    exact comes_dispatch within admitted
  | connectSource | disconnectSource | release => exact ⟨within, .inSource nofun nofun⟩
  | connectSink | disconnectSink => exact ⟨within, .inSink nofun (.inl rfl) nofun⟩

/-! ### Hooks go on -/

/-- The source goes on with a call, or answers it, or breaks down. -/
theorem comes_inSource {use : SourceUse} {rest : τ} (within : Within mark s.sink)
    (stays : ∀ (rest : τ) (source : σ), At call (.inSource use rest) { s with source })
    (goes : ∀ result (source : σ) net', Comes mark call (.inSource use rest)
      (Pipeline.afterSource Dispenser.sink use result { s with source } net')) :
    Comes mark call (.inSource use rest)
      (Pipeline.step A P Dispenser.sink (.inSource use rest) s net) := by
  simp only [Pipeline.step]
  rcases A.step rest s.source net with ⟨progress, source, net'⟩
  cases progress with
  | waiting until? => exact ⟨within, stays rest source⟩
  | working rest => exact ⟨within, stays rest source⟩
  | finished result => exact goes result source net'
  | panicked => exact within

/-- The source answers a call that yields nothing. -/
theorem comes_afterSource {use : SourceUse} (within : Within mark s.sink) (noFetch : call ≠ .fetch)
    (noMessage : use ≠ .fetched) (result : Except Error Reply) :
    Comes mark call task
      (Pipeline.afterSource Dispenser.sink use result s net
        : Pipeline.Stepped Network σ π Dispenser τ _) := by
  cases use with
  | fetched => exact absurd rfl noMessage
  | released => exact ⟨within, .inSink noFetch (.inl rfl) nofun⟩
  | plain => cases result <;> exact answered_of_ne_fetch within noFetch

/-- The source is read. -/
theorem comes_read (within : Within mark s.sink) (wants : s.sink.wantsInput = true)
    (result : Except Error Reply) :
    Comes mark .fetch task
      (Pipeline.afterSource Dispenser.sink .fetched result s net
        : Pipeline.Stepped Network σ π Dispenser τ _) := by
  cases result with
  | error cause => exact answered_error cause within
  | ok reply => exact ⟨within, fun _ _ _ => Or.inl wants⟩

/-- The dispenser serves a call that yields nothing. -/
theorem comes_inSink {use : SinkUse} {rest : Dispenser.Task} (within : Within mark s.sink)
    (noFetch : call ≠ .fetch) (noMessage : use = .plain ∨ use = .checked)
    (room : ∀ m, rest = .begin (.send m) → s.sink.wantsInput = true) :
    Comes mark call (.inSink use rest)
      (Pipeline.step A P Dispenser.sink (.inSink use rest) s net) := by
  have within' : Within mark (Dispenser.sink.step rest s.sink net).2.1 :=
    within.alter (does_step rest s.sink net).alters room
  have room' : ∀ rest', (Dispenser.sink.step rest s.sink net).1.pending rest = some rest' →
      ∀ m, rest' = .begin (.send m) →
        (Dispenser.sink.step rest s.sink net).2.1.wantsInput = true := fun rest' =>
    Dispenser.room_of_pending room
  simp only [Pipeline.step]
  generalize Dispenser.sink.step rest s.sink net = stepped at within' room' ⊢
  obtain ⟨progress, sink, net'⟩ := stepped
  cases progress with
  | waiting until? => exact ⟨within', .inSink noFetch noMessage (room' rest rfl)⟩
  | working rest' => exact ⟨within', .inSink noFetch noMessage (room' rest' rfl)⟩
  | panicked => exact within'
  | finished result =>
    rcases noMessage with rfl | rfl <;> cases result <;>
      exact answered_of_ne_fetch within' noFetch

/-- The pipeline learns what a peer said, or that it can read the source. -/
theorem comes_polling (within : Within mark s.sink) (wants : s.sink.wantsInput = true)
    (quiet : ∀ m ∈ s.sink.mail net, m.kind ∈ peerKinds) :
    Comes mark .fetch (.inSink .polled (.begin .poll))
      (Pipeline.step A P Dispenser.sink (.inSink .polled (.begin .poll)) s net) := by
  have alters : Dispenser.Alters s.sink (.begin .poll) none
      (Dispenser.sink.step (.begin .poll) s.sink net).2.1 :=
    (does_step (.begin .poll) s.sink net).alters
  have within' := within.alter alters nofun
  have wants' := alters.wantsInput.trans wants
  have hears : Dispenser.Hears false s.sink net
      (Dispenser.sink.step (.begin .poll) s.sink net).1 :=
    Dispenser.hears_nextMessage false s.sink net
  simp only [Pipeline.step]
  generalize Dispenser.sink.step (.begin .poll) s.sink net = stepped at within' wants' hears ⊢
  obtain ⟨progress, sink, net'⟩ := stepped
  cases hears with
  | waits => exact ⟨within', .polling wants'⟩
  | fails cause => exact answered_error cause within'
  | nobody polls => exact ⟨within', .reading wants'⟩
  | heard said =>
    refine ⟨within', fun _ reply h => ?_⟩
    cases h
    exact Or.inr ⟨rfl, within.peer quiet said⟩

/-- The pipeline learns what a peer said. -/
theorem comes_getting (within : Within mark s.sink) (origin : s.origin = .sink)
    (quiet : ∀ m ∈ s.sink.mail net, m.kind ∈ peerKinds) :
    Comes mark .fetch (.inSink .fetched (.begin .get))
      (Pipeline.step A P Dispenser.sink (.inSink .fetched (.begin .get)) s net) := by
  have within' : Within mark (Dispenser.sink.step (.begin .get) s.sink net).2.1 :=
    within.alter (does_step (.begin .get) s.sink net).alters nofun
  have hears : Dispenser.Hears true s.sink net
      (Dispenser.sink.step (.begin .get) s.sink net).1 :=
    Dispenser.hears_nextMessage true s.sink net
  simp only [Pipeline.step]
  generalize Dispenser.sink.step (.begin .get) s.sink net = stepped at within' hears ⊢
  obtain ⟨progress, sink, net'⟩ := stepped
  cases hears with
  | waits => exact ⟨within', .getting origin⟩
  | fails cause => exact answered_error cause within'
  | nobody polls => cases polls
  | heard said =>
    refine ⟨within', fun _ reply h => ?_⟩
    cases h
    exact Or.inr ⟨origin, within.peer quiet said⟩

/-- **What a step of a hook comes to**, if the peers have nothing to be passed on. -/
theorem comes_step (stands : Stands mark call task s)
    (quiet : ∀ m ∈ s.sink.mail net, m.kind ∈ peerKinds) :
    Comes mark call task (Pipeline.step A P Dispenser.sink task s net) := by
  obtain ⟨within, here⟩ := stands
  cases here with
  | begin fresh => exact comes_begin within fresh
  | inSource noFetch noMessage =>
    exact comes_inSource within (fun _ _ => .inSource noFetch noMessage) fun result source _ =>
      comes_afterSource (s := { s with source }) within noFetch noMessage result
  | reading wants =>
    exact comes_inSource within (fun _ _ => .reading wants) fun result source _ =>
      comes_read (s := { s with source }) within wants result
  | inSink noFetch noMessage room => exact comes_inSink within noFetch noMessage room
  | polling wants => exact comes_polling within wants quiet
  | getting origin => exact comes_getting within origin quiet

/-! ## A whole run -/

/-- A distributor is where its pipeline may be, and its queue is not over the mark. -/
def Below (mark : Nat) (e : Element (State σ π) (Task τ)) (net : Network) : Prop :=
  Element.Follows (fun call task s _ => Stands mark call task s) (fun s _ => Within mark s.sink)
    e net

/-- An element that is below the mark has its queue within it. -/
theorem Below.within {e : Element (State σ π) (Task τ)} (below : Below mark e net) :
    Within mark e.strategy.sink := by
  unfold Below Element.Follows at below
  split at below
  · exact below
  · exact below.1

/-- The world around a distributor says nothing of where it is. -/
theorem Below.elsewhere {e : Element (State σ π) (Task τ)} (below : Below mark e net)
    (net' : Network) : Below mark e net' := below

/-- **A step of a distributor stays below the mark**, if the peers have nothing to be passed on. -/
theorem below_step {e : Element (State σ π) (Task τ)} (below : Below mark e net)
    (quiet : ∀ m ∈ e.strategy.sink.mail net, m.kind ∈ peerKinds) :
    Below mark (e.step (Pipeline.strategy A P Dispenser.sink) net).2.1
      (e.step (Pipeline.strategy A P Dispenser.sink) net).2.2 := by
  refine Element.follows_step (S := Pipeline.strategy A P Dispenser.sink)
    (fun call result s _ => Answered mark call result s) ?_ ?_ ?_ ?_ below
  · intro call s net' plain within
    refine ⟨within, .begin fun m about => ?_⟩
    rw [plain] at about
    cases about
  · intro reply s net' ⟨within, admitted⟩
    refine ⟨within, .begin fun m about => ?_⟩
    cases about
    exact ⟨rfl, admitted rfl reply rfl⟩
  · exact fun call result s net' _ answered => answered.1
  · exact fun call task stands => comes_step stands quiet

/-- A distributor after as many steps as there are networks, each step in its own. -/
abbrev after (A : Source Network σ τ) (P : Processor π) (start : State σ π) (nets : List Network) :
    Element (State σ π) (Task τ) :=
  Element.after (Pipeline.strategy A P Dispenser.sink) start nets

/-- During this run nobody asks for anything to be passed on: at each step only what peers have to
say waits for the dispenser. -/
def Quiet (A : Source Network σ τ) (P : Processor π) (start : State σ π) (nets : List Network) :
    Prop :=
  ∀ earlier net later, nets = earlier ++ net :: later →
    ∀ m ∈ (after A P start earlier).strategy.sink.mail net, m.kind ∈ peerKinds

/-- What is quiet all the time is quiet at first. -/
theorem Quiet.of_append {start : State σ π} {nets more : List Network}
    (quiet : Quiet A P start (nets ++ more)) : Quiet A P start nets := by
  rintro earlier net later rfl
  exact quiet earlier net (later ++ more) (by rw [List.append_assoc, List.cons_append])

/-- **A run stays below the mark.** Induction on the steps. -/
theorem below_after {start : State σ π} (within : Within mark start.sink) (nets : List Network)
    (quiet : Quiet A P start nets) (net : Network) :
    Below mark (after A P start nets) net := by
  induction nets using List.reverseRecOn with
  | nil => exact within
  | append_singleton nets last ih =>
    rw [after, Element.after, List.foldl_append]
    have below := (ih quiet.of_append).elsewhere last
    exact (below_step below (quiet nets last [] rfl)).elsewhere net

/-- **Back-pressure bounds the queue.** Whatever the source yields, whatever the processor makes of
it, and however many barriers are in progress: as long as the peers of the dispenser only come, ask,
leave, pass on the end of the stream and ask to exit, the queue never holds more messages than the
mark says, which is at least one. -/
theorem queue_within_mark (A : Source Network σ τ) (P : Processor π) (name uri : String)
    (source : σ) (processor : π) (expected : Nat) (isBarrier : Message → Bool)
    (highWaterMark : Nat) (nets : List Network) :
    let start : State σ π :=
      { name, source, processor, sink := .new uri (.new expected isBarrier) highWaterMark }
    Quiet A P start nets → ∀ earlier, earlier <+: nets →
      (after A P start earlier).strategy.sink.queue.messages.length ≤ max highWaterMark 1 := by
  rintro start quiet earlier ⟨later, rfl⟩
  have within : Within (max highWaterMark 1) start.sink := ⟨rfl, Nat.zero_le _, nofun⟩
  exact (below_after within earlier quiet.of_append { limits := ⟨0, 0, 0⟩ }).within.bounded

def spoken (said : List Message) : Network where
  limits := ⟨1, 0, 0⟩
  routers :=
    [{ uri := ""
       inbound := said.map fun m => (⟨1⟩, Bytes.ofUInt32 m.kind.code :: m.parts)
       mailboxes := [[]]
       peers := [(⟨1⟩, 0)] }]

/-- Two clients come, one of them asks, and then nobody says anything. -/
def quietRun : List Network :=
  List.replicate 5 { limits := ⟨1, 0, 0⟩ } ++ List.replicate 7 (spoken [])
    ++ List.replicate 4 (spoken [.registration ⟨1⟩])
    ++ List.replicate 4 (spoken [.registration ⟨2⟩])
    ++ spoken [.dataRequest ⟨1⟩] :: List.replicate 12 (spoken [])

/-- The mark is one, though zero was given. -/
def fullHouse : State (List Message) Unit where
  name := ""
  source := [.barrier [], .process [[4, 0, 0, 0]], .process [[4, 0, 0, 0]]]
  processor := ()
  sink := .new "" (.new 2 fun m => m.kind == .barrier) 0

theorem quietRun_quiet : Quiet Farm.row .passThrough fullHouse quietRun := by
  have said : ∀ net ∈ quietRun, ∀ r ∈ net.routers, ∀ x ∈ r.inbound,
      ∀ m ∈ (Message.ofFrames x.2).toOption, m.kind ∈ peerKinds := by decide
  intro earlier net later split m mail
  obtain ⟨r, hr, x, hx, read⟩ := Dispenser.exists_of_mem_mail mail
  have here : net ∈ quietRun := by
    rw [split]
    exact List.mem_append_right _ List.mem_cons_self
  exact said net here r hr x hx m (by rw [read]; rfl)

/-- One client has the barrier and the other does not yet, the next message is queued, and the
distributor waits for the clients though its source has more. -/
theorem queue_within_mark_full :
    let e := after Farm.row .passThrough fullHouse quietRun
    Quiet Farm.row .passThrough fullHouse quietRun ∧ quietRun <+: quietRun ∧
    e.strategy.sink.queue.messages.length ≤ max 0 1 ∧
    e.strategy.sink.queue.barrier.isSome = true ∧
    e.strategy.sink.queue.messages = [.process [[4, 0, 0, 0]]] ∧
    e.strategy.source = [.process [[4, 0, 0, 0]]] ∧
    e.phase = .fetching (.inSink .fetched (.begin .get)) := by
  have bounded := queue_within_mark Farm.row .passThrough "" "" fullHouse.source () 2
    (fun m => m.kind == .barrier) 0 quietRun quietRun_quiet quietRun List.prefix_rfl
  exact ⟨quietRun_quiet, List.prefix_rfl, bounded, by decide +kernel, by decide +kernel,
    by decide +kernel, by decide +kernel⟩

end Backlog

end Fanout

end RecordFarm
