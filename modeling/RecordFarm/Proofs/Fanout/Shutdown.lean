import RecordFarm.Proofs.Fanout.Diary
import RecordFarm.Proofs.Farm.Erasure
import RecordFarm.Proofs.Farm.Stream
import RecordFarm.Proofs.Pipeline.Routing

/-!
# When a distributor stops

A distributor is an element that runs a pipeline into a dispenser. It stops when its source has
ended and the dispenser owes nothing to anybody, neither sooner nor later
(`Distributor.stops_in_time`): the dispenser can come to owe nothing only in a call after which the
pipeline checks, and the pipeline stops only after such a check.

The source keeps a log of what it yields, and the dispenser a diary. `Books` ties them to the state
of the pipeline, and `Stands` says what is known in the middle of each hook.
-/

namespace RecordFarm

namespace Fanout

namespace Distributor

open Pipeline (SourceUse SinkUse Handled askSource askSink handled_dispatch)

variable {σ τ π : Type}

/-- The states of the pipeline of a distributor whose parts write down what they do. -/
abbrev State (σ π : Type) := Pipeline (σ × List Message) π (Dispenser × Diary)

abbrev Task (τ : Type) := Pipeline.Task (SourceCall × τ) Dispenser.Task

abbrev Step (σ τ π : Type) :=
  Pipeline.Stepped Network (σ × List Message) π (Dispenser × Diary) (SourceCall × τ) Dispenser.Task

def strategy (A : Source Network σ τ) (P : Processor π) : Strategy Network (State σ π) (Task τ) :=
  Pipeline.strategy A.logged P Dispenser.diary

/-- The strategy with log and diary shows the strategy without. -/
theorem strategy_shows (A : Source Network σ τ) (P : Processor π) :
    (strategy A P).toService.Shows (Pipeline.strategy A P Dispenser.sink).toService
      (Pipeline.Task.map Prod.snd id) (Pipeline.map Prod.fst id Prod.fst) id :=
  Pipeline.strategy_shows A.logged_shows (.refl P) Dispenser.diary_shows

def drained (s : State σ π) : Bool := s.sink.1.queue.isDrained

/-- What the log and the diary say of the state of a pipeline, when this is due. -/
structure Books (expected : Nat) (isBarrier : Message → Bool) (due : List Delivery)
    (s : State σ π) : Prop where
  kept : Kept expected isBarrier due s.sink
  source : s.sourceDone = s.source.2.any Message.isEnd
  /-- The end of the stream is sent only when the source has ended. -/
  ended : ∀ m ∈ s.sink.2.sent, m.isEnd = true → s.sourceDone = true

def EndKnown (m : Message) (s : State σ π) : Prop :=
  m.isEnd = true → s.origin = .source → s.sourceDone = true

def Loops : HookCall → Prop
  | .fetch | .dispatch _ _ _ => True
  | _ => False

def Fresh (call : HookCall) (s : State σ π) : Prop :=
  match call with
  | .dispatch _ m _ => call = m.handling ∧ EndKnown m s
  | .send _ => False
  | _ => True

section Hooks

variable (expected : Nat) (isBarrier : Message → Bool)

/-- Where a pipeline stands in the middle of a hook. The flag says whether the dispenser was drained
before. -/
inductive Stands : HookCall → Bool → Task τ → State σ π → Prop where
  | begin {call : HookCall} {b : Bool} {s : State σ π} (books : Books expected isBarrier [] s)
      (still : drained s = b) (loops : Loops call → b = false) (fresh : Fresh call s) :
      Stands call b (.begin call) s
  /-- The source serves a call, and yields nothing. -/
  | inSource {call : HookCall} {b : Bool} {use : SourceUse} {asked : SourceCall} {rest : τ}
      {s : State σ π} (books : Books expected isBarrier [] s) (still : drained s = b)
      (loops : Loops call → b = false)
      (uses : use = .plain ∧ call ≠ .fetch ∨ use = .released ∧ ¬ Loops call)
      (noNext : asked ≠ .next) : Stands call b (.inSource use (asked, rest)) s
  /-- The dispenser serves a call that leaves its queue alone. -/
  | inSink {call : HookCall} {b : Bool} {asked : SinkCall} {s : State σ π}
      (books : Books expected isBarrier [] s) (still : drained s = b) (noLoop : ¬ Loops call)
      (apart : Call.ofSink? asked = none) : Stands call b (.inSink .plain (.begin asked)) s
  /-- The pipeline asks whether a peer speaks. -/
  | polling {s : State σ π} (books : Books expected isBarrier [] s) (still : drained s = false) :
      Stands .fetch false (.inSink .polled (.begin .poll)) s
  /-- The pipeline waits for the peers. -/
  | getting {s : State σ π} (books : Books expected isBarrier [] s) (still : drained s = false)
      (origin : s.origin = .sink) : Stands .fetch false (.inSink .fetched (.begin .get)) s
  /-- The source is read. -/
  | reading {rest : τ} {s : State σ π} (books : Books expected isBarrier [] s)
      (still : drained s = false) : Stands .fetch false (.inSource .fetched (.next, rest)) s
  /-- The queue of the dispenser is going to be asked. If the pipeline does not check afterwards,
  this cannot begin the rundown. -/
  | asking {hook : Hook} {m : Message} {running : Bool} {use : SinkUse} {asked : SinkCall}
      {c : Call} {s : State σ π} (books : Books expected isBarrier [] s)
      (asks : Call.ofSink? asked = some c)
      (checks : use = .checked ∨ use = .plain ∧ ∃ sent, c = .send sent ∧ sent.isEnd = false)
      (ended : ∀ sent, c = .send sent → sent.isEnd = true → s.sourceDone = true) :
      Stands (.dispatch hook m running) false (.inSink use (.begin asked)) s
  /-- The dispenser hands out what is due, or runs down. -/
  | delivering {hook : Hook} {m : Message} {running : Bool} {use : SinkUse} {due : List Delivery}
      {runningDown : Bool} {s : State σ π} (books : Books expected isBarrier due s)
      (checks : use = .checked ∨
        use = .plain ∧ s.sink.1.queue.rundown = false ∧ runningDown = false) :
      Stands (.dispatch hook m running) false (.inSink use (.deliver due runningDown)) s

def Answered (call : HookCall) (b : Bool) (result : Except Error HookReply) (s : State σ π) :
    Prop :=
  match call, result with
  | .fetch, .ok reply =>
    Books expected isBarrier [] s ∧ drained s = false ∧ EndKnown reply.message s
  | .dispatch _ _ _, .ok reply => Books expected isBarrier [] s ∧ drained s = reply.stop
  | .fetch, .error _ | .dispatch _ _ _, .error _ => True
  | _, _ => Books expected isBarrier [] s ∧ drained s = b

def Comes (call : HookCall) (b : Bool) (task : Task τ) (x : Step σ τ π) : Prop :=
  match x with
  | (.waiting _, s, _) => Stands expected isBarrier call b task s
  | (.working rest, s, _) => Stands expected isBarrier call b rest s
  | (.finished result, s, _) => Answered expected isBarrier call b result s
  | (.panicked, s, _) => Books expected isBarrier [] s ∧ drained s = b

end Hooks

variable {A : Source Network σ τ} {P : Processor π} {expected : Nat} {isBarrier : Message → Bool}
  {due : List Delivery} {s : State σ π} {call : HookCall} {b : Bool} {task : Task τ} {w : Network}

theorem rundown_of_drained (h : drained s = true) : s.sink.1.queue.rundown = true := by
  unfold drained Queue.isDrained at h
  rw [Bool.and_eq_true, Bool.and_eq_true] at h
  exact h.1.1

theorem not_drained (running : s.sink.1.queue.rundown = false) : drained s = false := by
  rw [Bool.eq_false_iff]
  intro h
  exact absurd (running.symm.trans (rundown_of_drained h)) Bool.false_ne_true

namespace Books

/-- A dispenser that owes nothing has been told that the source has ended. -/
theorem sourceDone (books : Books expected isBarrier [] s) (h : drained s = true) :
    s.sourceDone = true := by
  obtain ⟨earlier, m, -, -, sent, isEnd, -⟩ := books.kept.farewell (rundown_of_drained h)
  refine books.ended m ?_ isEnd
  rw [sent]
  exact List.mem_append_right _ (List.mem_singleton_self m)

/-- So the pipeline is done when the dispenser owes nothing. -/
theorem isDone (books : Books expected isBarrier [] s) (w : Network) :
    Pipeline.isDone Dispenser.diary s w = drained s := by
  show (s.sourceDone && drained s) = drained s
  cases h : drained s with
  | true => rw [books.sourceDone h]; rfl
  | false => exact Bool.and_false _

/-- The queue is asked. -/
theorem ask {c : Call} {after : Queue} {d : Diary} (books : Books expected isBarrier [] s)
    (adds : s.sink.2.Adds d (some c) none) (h : s.sink.1.queue.call c = (.ok due, after))
    (ended : ∀ sent, c = .send sent → sent.isEnd = true → s.sourceDone = true) :
    Books expected isBarrier due { s with sink := ({ s.sink.1 with queue := after }, d) } where
  kept := books.kept.call adds h
  source := books.source
  ended := by
    intro m hm isEnd
    have hm : m ∈ d.sent := hm
    rw [adds.sent, List.mem_append, Option.mem_toList] at hm
    rcases hm with old | new
    · exact books.ended m old isEnd
    · cases c with
      | send sent =>
        cases new
        exact ended m rfl isEnd
      | _ => cases new

/-- The dispenser leaves its queue alone. -/
theorem same {s' : Dispenser} {d : Diary} (books : Books expected isBarrier due s)
    (adds : s.sink.2.Adds d none none) (queue : s'.queue = s.sink.1.queue)
    (delivered : s'.delivered = s.sink.1.delivered) :
    Books expected isBarrier due { s with sink := (s', d) } where
  kept := books.kept.same adds queue delivered
  source := books.source
  ended := by
    intro m hm
    have hm : m ∈ d.sent := hm
    rw [adds.sent, Option.bind_none, Option.toList_none, List.append_nil] at hm
    exact books.ended m hm

/-- What was due first is done with. -/
theorem part {x : Delivery} {there : Bool} {s' : Dispenser} {d : Diary}
    (books : Books expected isBarrier (x :: due) s) (adds : s.sink.2.Adds d none (some (x, there)))
    (missed : there = false → x.2.isEnd = true)
    (delivered : s'.delivered = s.sink.1.delivered + there.toNat)
    (queue : s'.queue = s.sink.1.queue) :
    Books expected isBarrier due { s with sink := (s', d) } where
  kept := books.kept.part adds missed delivered queue
  source := books.source
  ended := by
    intro m hm
    have hm : m ∈ d.sent := hm
    rw [adds.sent, Option.bind_none, Option.toList_none, List.append_nil] at hm
    exact books.ended m hm

end Books

/-- A hook that asks nothing of the queue and fetches nothing leaves the dispenser as it was. -/
theorem answered_still (books : Books expected isBarrier [] s) (still : drained s = b)
    (loops : Loops call → b = false) (noFetch : call ≠ .fetch) :
    Answered expected isBarrier call b (.ok {}) s := by
  cases call with
  | fetch => exact absurd rfl noFetch
  | dispatch hook m running => exact ⟨books, still.trans (loops trivial)⟩
  | _ => exact ⟨books, still⟩

/-- A failure ends the loop. -/
theorem answered_error (cause : Error) (books : Books expected isBarrier [] s)
    (still : drained s = b) : Answered expected isBarrier call b (.error cause) s := by
  cases call with
  | fetch | dispatch hook m running => trivial
  | _ => exact ⟨books, still⟩

/-- An answer to a hook outside the loop leaves the books as they are. -/
theorem answered_of_not_loops {result : Except Error HookReply}
    (books : Books expected isBarrier [] s) (still : drained s = b) (noLoop : ¬ Loops call) :
    Answered expected isBarrier call b result s := by
  cases call with
  | fetch | dispatch hook m running => exact absurd trivial noLoop
  | _ => exact ⟨books, still⟩

/-! ## Hooks begin -/

/-- A message is looked for while the queue is not drained. -/
theorem comes_fetch (books : Books expected isBarrier [] s) (still : drained s = false) :
    Comes expected isBarrier .fetch false task
      (Pipeline.fetch Dispenser.diary s w : Step σ τ π) := by
  have getting : Stands expected isBarrier .fetch false
      (.inSink .fetched (.begin .get) : Task τ) { s with origin := .sink } :=
    .getting ⟨books.kept, books.source, books.ended⟩ still rfl
  unfold Pipeline.fetch
  split
  · exact getting
  · have hwants : Dispenser.diary.wantsInput s.sink w = (s.sink.1.wantsInput, s.sink, w) := rfl
    rw [hwants]
    cases s.sink.1.wantsInput with
    | true => exact .polling ⟨books.kept, books.source, books.ended⟩ still
    | false => exact getting

/-- What the pipeline asks the dispenser for a message, it asks the queue. -/
theorem exists_call {asked : SinkCall}
    (about : (Pipeline.Event.sink (.asked asked)).handed? = some (.toSink asked)) :
    ∃ c, Call.ofSink? asked = some c ∧ ∀ sent, c = .send sent → asked = .send sent := by
  cases asked with
  | send m => exact ⟨_, rfl, by rintro sent ⟨⟩; rfl⟩
  | request id | register id | unregister id => exact ⟨_, rfl, by nofun⟩
  | _ => cases about

/-- A message is handled by its kind; an end is sent on only when the source has ended. -/
theorem comes_dispatch {m : Message} (books : Books expected isBarrier [] s)
    (still : drained s = false) (known : EndKnown m s) :
    Comes expected isBarrier m.handling false task
      (Pipeline.dispatch A.logged P Dispenser.diary m.kind.hook m s w : Step σ τ π) := by
  have handled := handled_dispatch A.logged P Dispenser.diary m s w
  generalize Pipeline.dispatch A.logged P Dispenser.diary m.kind.hook m s w = stepped at handled
  cases handled with
  | dropped p h => exact ⟨⟨books.kept, books.source, books.ended⟩, still⟩
  | refused cause p h => trivial
  | panicked p h => exact ⟨⟨books.kept, books.source, books.ended⟩, still⟩
  | toSource asked p h about =>
    refine .inSource ⟨books.kept, books.source, books.ended⟩ still (fun _ => rfl)
      (.inl ⟨rfl, by nofun⟩) ?_
    rintro rfl
    cases about
  | toSink use asked p h checks about =>
    obtain ⟨c, asks, sends⟩ := exists_call about
    refine .asking ⟨books.kept, books.source, books.ended⟩ asks ?_ ?_
    · refine checks.imp_right (And.imp_right ?_)
      rintro ⟨sent, rfl, notEnd⟩
      exact ⟨sent, (Option.some.inj asks).symm, notEnd⟩
    · -- Only the end of the source itself is passed on.
      rintro sent hc isEnd
      obtain rfl := sends sent hc
      obtain ⟨origin, isEnd⟩ := (Pipeline.route_sent (congrArg Prod.fst h)).2 isEnd
      exact known isEnd origin

/-- A hook begins with the books in order, in the loop only while the queue is not drained. -/
theorem comes_begin (books : Books expected isBarrier [] s) (still : drained s = b)
    (loops : Loops call → b = false) (fresh : Fresh call s) :
    Comes expected isBarrier call b task
      (Pipeline.begin A.logged P Dispenser.diary call s w : Step σ τ π) := by
  cases call with
  | send m => exact absurd fresh id
  | fetch =>
    obtain rfl := loops trivial
    exact comes_fetch books still
  | dispatch hook m running =>
    obtain rfl := loops trivial
    obtain ⟨hcall, known⟩ := fresh
    obtain ⟨rfl, -, -⟩ := HookCall.dispatch.inj hcall
    rw [hcall]
    exact comes_dispatch books still known
  | connectSource | disconnectSource =>
    exact .inSource books still loops (.inl ⟨rfl, by nofun⟩) (by nofun)
  | release => exact .inSource books still loops (.inr ⟨rfl, id⟩) (by nofun)
  | connectSink | disconnectSink => exact .inSink books still id rfl

/-! ## Hooks go on -/

/-- The source goes on with a call, or answers it, or breaks down. -/
theorem comes_inSource {use : SourceUse} {asked : SourceCall} {rest : τ}
    (books : Books expected isBarrier [] s) (still : drained s = b)
    (stays : ∀ (rest : τ) (source : σ), Stands expected isBarrier call b
      (.inSource use (asked, rest) : Task τ) { s with source := (source, s.source.2) })
    (goes : ∀ result source w', Comes expected isBarrier call b task
      (Pipeline.afterSource Dispenser.diary use result
        { s with source := (source, s.source.2 ++ asked.yielded result) } w' : Step σ τ π))
    (htask : task = .inSource use (asked, rest)) :
    Comes expected isBarrier call b task ((strategy A P).step task s w) := by
  subst htask
  have logs := A.logged_step asked rest s.source w
  simp only [strategy, Pipeline.strategy, Pipeline.step]
  generalize A.logged.step (asked, rest) s.source w = stepped at logs ⊢
  cases logs with
  | waiting until? source w' => exact stays rest source
  | working rest source w' => exact stays rest source
  | finished result source w' => exact goes result source w'
  | panicked source w' => exact ⟨⟨books.kept, books.source, books.ended⟩, still⟩

/-- The source answers a call that yields nothing. -/
theorem comes_afterSource {use : SourceUse} {asked : SourceCall} {result : Except Error Reply}
    {source : σ} (books : Books expected isBarrier [] s) (still : drained s = b)
    (loops : Loops call → b = false)
    (uses : use = .plain ∧ call ≠ .fetch ∨ use = .released ∧ ¬ Loops call)
    (noNext : asked ≠ .next) :
    Comes expected isBarrier call b task
      (Pipeline.afterSource Dispenser.diary use result
        { s with source := (source, s.source.2 ++ asked.yielded result) } w : Step σ τ π) := by
  have nothing : asked.yielded result = [] := by
    cases asked with
    | next => exact absurd rfl noNext
    | _ => rfl
  rw [nothing, List.append_nil]
  have books : Books expected isBarrier [] { s with source := (source, s.source.2) } :=
    ⟨books.kept, books.source, books.ended⟩
  rcases uses with ⟨rfl, noFetch⟩ | ⟨rfl, noLoop⟩
  · cases result with
    | error cause => exact answered_error cause books still
    | ok reply => exact answered_still books still loops noFetch
  · exact .inSink books still noLoop rfl

/-- The source has yielded a message. -/
theorem comes_read {result : Except Error Reply} {source : σ}
    (books : Books expected isBarrier [] s) (still : drained s = false) :
    Comes expected isBarrier .fetch false task
      (Pipeline.afterSource Dispenser.diary .fetched result
        { s with source := (source, s.source.2 ++ SourceCall.next.yielded result) } w
        : Step σ τ π) := by
  cases result with
  | error cause => trivial
  | ok reply =>
    refine ⟨⟨books.kept, ?_, fun m hm isEnd => ?_⟩, still, fun isEnd _ => ?_⟩
    · show (s.sourceDone || (reply.getD .ignore).isEnd) = (s.source.2 ++ _).any Message.isEnd
      rw [List.any_append, books.source]
      cases reply with
      | none => rfl
      | some m => exact congrArg _ (Bool.or_false _).symm
    · show (s.sourceDone || _) = true
      rw [books.ended m hm isEnd, Bool.true_or]
    · show (s.sourceDone || (reply.getD .ignore).isEnd) = true
      rw [show (reply.getD .ignore).isEnd = true from isEnd, Bool.or_true]

/-- After the check the pipeline stops if the dispenser owes nothing. -/
theorem comes_checked {hook : Hook} {m : Message} {running : Bool} {reply : Reply}
    (books : Books expected isBarrier [] s) :
    Comes expected isBarrier (.dispatch hook m running) false task
      (Pipeline.afterSink A.logged Dispenser.diary .checked (.ok reply) s w : Step σ τ π) :=
  ⟨books, (books.isDone w).symm⟩

/-- The dispenser goes on with a call, or answers it. It never breaks down. -/
theorem comes_of_does {use : SinkUse} {rest : Dispenser.Task}
    (goesOn : ∀ stepped asked gone d, Dispenser.Does s.sink.1 w rest stepped asked gone →
      s.sink.2.Adds d asked gone →
      match stepped with
      | (.waiting _, s', _) =>
        Stands expected isBarrier call b (.inSink use rest : Task τ) { s with sink := (s', d) }
      | (.working rest', s', _) =>
        Stands expected isBarrier call b (.inSink use rest' : Task τ) { s with sink := (s', d) }
      | (.finished result, s', w') => Comes expected isBarrier call b task
          (Pipeline.afterSink A.logged Dispenser.diary use result { s with sink := (s', d) } w'
            : Step σ τ π)
      | (.panicked, _, _) => False)
    (htask : task = .inSink use rest) :
    Comes expected isBarrier call b task ((strategy A P).step task s w) := by
  subst htask
  obtain ⟨d, asked, gone, adds, -, does, same⟩ := Dispenser.diary_step rest s.sink.1 s.sink.2 w
  have comes := goesOn _ asked gone d does adds
  simp only [strategy, Pipeline.strategy, Pipeline.step]
  rw [show s.sink = (s.sink.1, s.sink.2) from rfl, same]
  generalize Dispenser.step rest s.sink.1 w = stepped at comes
  obtain ⟨progress, s', w'⟩ := stepped
  cases progress with
  | panicked => exact absurd comes id
  | _ => exact comes

/-- The dispenser answers a call that leaves its queue alone. -/
theorem comes_inSink {use : SinkUse} {asked : SinkCall} (books : Books expected isBarrier [] s)
    (still : drained s = b) (apart : Call.ofSink? asked = none)
    (stays : ∀ s' : State σ π, Books expected isBarrier [] s' → drained s' = b →
      s'.origin = s.origin →
        Stands expected isBarrier call b (.inSink use (.begin asked) : Task τ) s')
    (goes : ∀ result (s' : State σ π) w', Books expected isBarrier [] s' → drained s' = b →
      s'.origin = s.origin → Comes expected isBarrier call b task
        (Pipeline.afterSink A.logged Dispenser.diary use result s' w' : Step σ τ π))
    (htask : task = .inSink use (.begin asked)) :
    Comes expected isBarrier call b task ((strategy A P).step task s w) := by
  refine comes_of_does (fun stepped c gone d does adds => ?_) htask
  cases does with
  | waits => exact stays _ (books.same adds rfl rfl) still rfl
  | binds | hears | gives => exact goes _ _ _ (books.same adds rfl rfl) still rfl
  | registers => cases apart
  | calls asks | breaks asks =>
    rw [apart] at asks
    cases asks

/-- A peer spoke, or the source is read. -/
theorem comes_polled {result : Except Error Reply} (books : Books expected isBarrier [] s)
    (still : drained s = false) :
    Comes expected isBarrier .fetch false task
      (Pipeline.afterSink A.logged Dispenser.diary .polled result s w : Step σ τ π) := by
  cases result with
  | error cause => trivial
  | ok reply =>
    cases reply with
    | none => exact .reading books still
    | some m => exact ⟨⟨books.kept, books.source, books.ended⟩, still, fun _ => nofun⟩

/-- What the sink was asked to get comes from a client, so it does not end the source. -/
theorem comes_got {result : Except Error Reply} (books : Books expected isBarrier [] s)
    (still : drained s = false) (origin : s.origin = .sink) :
    Comes expected isBarrier .fetch false task
      (Pipeline.afterSink A.logged Dispenser.diary .fetched result s w : Step σ τ π) := by
  cases result with
  | error cause => trivial
  | ok reply =>
    refine ⟨books, still, fun _ source => ?_⟩
    rw [origin] at source
    cases source

/-- The queue is asked, and what is due then is handed out. -/
theorem comes_asking {hook : Hook} {m : Message} {running : Bool} {use : SinkUse} {asked : SinkCall}
    {c : Call} (books : Books expected isBarrier [] s) (asks : Call.ofSink? asked = some c)
    (checks : use = .checked ∨ use = .plain ∧ ∃ sent, c = .send sent ∧ sent.isEnd = false)
    (ended : ∀ sent, c = .send sent → sent.isEnd = true → s.sourceDone = true) :
    Comes expected isBarrier (.dispatch hook m running) false (.inSink use (.begin asked))
      ((strategy A P).step (.inSink use (.begin asked)) s w) := by
  refine comes_of_does (fun stepped c' gone d does adds => ?_) rfl
  cases does with
  | calls asks' h =>
    obtain rfl := Option.some.inj (asks.symm.trans asks')
    have after := books.ask adds h ended
    refine .delivering after (checks.imp_right (And.imp_right ?_))
    rintro ⟨sent, rfl, notEnd⟩
    exact ⟨after.kept.running_of_send adds notEnd, rfl⟩
  | breaks => rcases checks with rfl | ⟨rfl, -⟩ <;> trivial
  | registers =>
    obtain rfl := Option.some.inj asks
    rcases checks with rfl | ⟨-, sent, hsent, -⟩
    · exact comes_checked (books.ask adds rfl ended)
    · cases hsent
  | binds apart =>
    rw [asks] at apart
    cases apart
  | waits fetches | hears fetches | gives fetches =>
    exact absurd fetches (Dispenser.not_fetches asks)

/-- While deliveries are due the queue may be drained already, if the loop is told so afterwards. -/
theorem comes_delivering {hook : Hook} {m : Message} {running : Bool} {use : SinkUse}
    {runningDown : Bool} (books : Books expected isBarrier due s)
    (checks : use = .checked ∨
      use = .plain ∧ s.sink.1.queue.rundown = false ∧ runningDown = false) :
    Comes expected isBarrier (.dispatch hook m running) false
      (.inSink use (.deliver due runningDown))
      ((strategy A P).step (.inSink use (.deliver due runningDown)) s w) := by
  refine comes_of_does (fun stepped c gone d does adds => ?_) rfl
  cases does with
  | hands => exact .delivering (books.part adds nofun rfl rfl) checks
  | misses _ isEnd => exact .delivering (books.part adds (fun _ => isEnd) rfl rfl) checks
  | stops | awaits | ignores => exact .delivering (books.same adds rfl rfl) checks
  | runsDown ended =>
    -- The pipeline checks, or else the queue would not run down.
    rcases checks with rfl | ⟨-, notEnded, -⟩
    · exact .delivering (books.same adds rfl rfl) (.inl rfl)
    · exact absurd (notEnded.symm.trans ended) Bool.false_ne_true
  | serves silent h =>
    have after := books.ask adds h (by rintro sent rfl; cases silent)
    rcases checks with rfl | ⟨-, -, running⟩
    · exact .delivering after (.inl rfl)
    · cases running
  | refuses | fails | sinks => rcases checks with rfl | ⟨rfl, -⟩ <;> trivial
  | ends | drained | exits =>
    rcases checks with rfl | ⟨rfl, notEnded, -⟩
    · exact comes_checked (books.same adds rfl rfl)
    · exact ⟨books.same adds rfl rfl, not_drained notEnded⟩

/-- **Whatever the source and the dispenser do in a step, the pipeline goes on as it should.** -/
theorem comes_step (stands : Stands expected isBarrier call b task s) (w : Network) :
    Comes expected isBarrier call b task ((strategy A P).step task s w) := by
  cases stands with
  | begin books still loops fresh => exact comes_begin books still loops fresh
  | inSource books still loops uses noNext =>
    refine comes_inSource books still (fun rest source => ?_) (fun result source w' => ?_) rfl
    · exact .inSource ⟨books.kept, books.source, books.ended⟩ still loops uses noNext
    · exact comes_afterSource books still loops uses noNext
  | reading books still =>
    refine comes_inSource books still (fun rest source => ?_) (fun result source w' => ?_) rfl
    · exact .reading ⟨books.kept, books.source, books.ended⟩ still
    · exact comes_read books still
  | inSink books still noLoop apart =>
    refine comes_inSink books still apart
      (fun s' books still _ => .inSink books still noLoop apart)
      (fun result s' w' books still _ => ?_) rfl
    cases result <;> exact answered_of_not_loops books still noLoop
  | polling books still =>
    exact comes_inSink books still rfl (fun s' books still _ => .polling books still)
      (fun result s' w' books still _ => comes_polled books still) rfl
  | getting books still origin =>
    exact comes_inSink books still rfl
      (fun s' books still same => .getting books still (same.trans origin))
      (fun result s' w' books still same => comes_got books still (same.trans origin)) rfl
  | asking books asks checks ended => exact comes_asking books asks checks ended
  | delivering books checks => exact comes_delivering books checks

/-! ## A whole run -/

/-- What a distributor knows of its dispenser wherever it stands, unless it has failed. -/
def InOrder (expected : Nat) (isBarrier : Message → Bool) (e : Element (State σ π) (Task τ)) :
    Prop :=
  match e.phase with
  | .created => Books expected isBarrier [] e.strategy ∧ drained e.strategy = false
  | .connectingSource task => Stands expected isBarrier .connectSource false task e.strategy
  | .connectingSink task => Stands expected isBarrier .connectSink false task e.strategy
  | .fetching task => Stands expected isBarrier .fetch false task e.strategy
  | .dispatching m task => Stands expected isBarrier m.handling false task e.strategy ∧
      (m.kind = .exitRequest → e.stats.exits ≠ 0)
  | .disconnectingSink none task => ∃ b, (e.stats.exits = 0 → b = true) ∧
      Stands expected isBarrier .disconnectSink b task e.strategy
  | .disconnectingSource none task => ∃ b, (e.stats.exits = 0 → b = true) ∧
      Stands expected isBarrier .disconnectSource b task e.strategy
  | .releasing (.returned (.ok stats)) task => ∃ b, (stats.exits = 0 → b = true) ∧
      Stands expected isBarrier .release b task e.strategy
  | .over (.returned (.ok stats)) => Books expected isBarrier [] e.strategy ∧
      (stats.exits = 0 → drained e.strategy = true)
  | _ => True

section Run

variable {e : Element (State σ π) (Task τ)}

/-- A phase that makes a step of its hook stays in order if it does so with what the hook comes to.
-/
theorem inOrder_advance {again : Task τ → Phase (Task τ)}
    {andThen : Except Error HookReply → Element (State σ π) (Task τ) → Element (State σ π) (Task τ)}
    (stands : Stands expected isBarrier call b task e.strategy) (hphase : e.phase = again task)
    (stays : ∀ rest (s : State σ π), Stands expected isBarrier call b rest s →
      InOrder expected isBarrier { e with strategy := s, phase := again rest })
    (goes : ∀ result (s : State σ π), Answered expected isBarrier call b result s →
      InOrder expected isBarrier (andThen result { e with strategy := s }))
    (w : Network)
    (hstep : e.step (strategy A P) w = Element.advance (strategy A P) e w task again andThen) :
    InOrder expected isBarrier (e.step (strategy A P) w).2.1 := by
  have comes : Comes expected isBarrier call b task ((strategy A P).step task e.strategy w) :=
    comes_step stands w
  rw [hstep, Element.advance]
  generalize (strategy A P).step task e.strategy w = stepped at comes
  obtain ⟨progress, s, w'⟩ := stepped
  cases progress with
  | waiting until? =>
    have inOrder := stays task s comes
    rw [← hphase] at inOrder
    exact inOrder
  | working rest => exact stays rest s comes
  | finished result => exact goes result s comes
  | panicked => trivial

/-- After a failure nothing is asked of the dispenser. -/
theorem inOrder_failed {again : Task τ → Phase (Task τ)}
    {andThen : Except Error HookReply → Element (State σ π) (Task τ) → Element (State σ π) (Task τ)}
    (hphase : e.phase = again task)
    (stays : ∀ rest (s : State σ π),
      InOrder expected isBarrier { e with strategy := s, phase := again rest })
    (goes : ∀ result (s : State σ π),
      InOrder expected isBarrier (andThen result { e with strategy := s }))
    (w : Network)
    (hstep : e.step (strategy A P) w = Element.advance (strategy A P) e w task again andThen) :
    InOrder expected isBarrier (e.step (strategy A P) w).2.1 := by
  rw [hstep, Element.advance]
  rcases (strategy A P).step task e.strategy w with ⟨progress, s, w'⟩
  cases progress with
  | waiting until? =>
    have inOrder := stays task s
    rw [← hphase] at inOrder
    exact inOrder
  | working rest => exact stays rest s
  | finished result => exact goes result s
  | panicked => trivial

section Phases

variable {stage : Lifecycle} {stats : Stats}

/-- What is fetched is known, and a request to exit has been counted. -/
theorem inOrder_fetching (inOrder : InOrder expected isBarrier ⟨s, .fetching task, stage, stats⟩)
    (w : Network) :
    InOrder expected isBarrier
      ((Element.mk s (.fetching task) stage stats).step (strategy A P) w).2.1 := by
  refine inOrder_advance inOrder rfl (fun _ _ => id) (fun result s answered => ?_) w
    (by unfold Element.step; rfl)
  cases result with
  | error cause => trivial
  | ok reply =>
    refine ⟨.begin answered.1 answered.2.1 (fun _ => rfl) ⟨rfl, answered.2.2⟩, fun exit => ?_⟩
    show (stats.record reply.message.kind).exits ≠ 0
    rw [exit]
    exact Nat.succ_ne_zero _

/-- The loop is left because the dispenser owes nothing, or for a request to exit. -/
theorem inOrder_dispatching {m : Message}
    (inOrder : InOrder expected isBarrier ⟨s, .dispatching m task, stage, stats⟩) (w : Network) :
    InOrder expected isBarrier
      ((Element.mk s (.dispatching m task) stage stats).step (strategy A P) w).2.1 := by
  obtain ⟨stands, exits⟩ := inOrder
  refine inOrder_advance stands rfl
    (fun _ _ stands => ⟨stands, exits⟩) (fun result s answered => ?_) w
    (by unfold Element.step; rfl)
  cases result with
  | error cause => trivial
  | ok reply =>
    obtain ⟨books, stop⟩ := answered
    simp only
    split
    · next stops =>
      refine ⟨drained s, fun hnone => ?_, .begin books rfl nofun trivial⟩
      rw [Bool.or_eq_true] at stops
      rw [stop]
      rcases stops with stops | exit
      · exact stops
      · exact absurd hnone (exits (eq_of_beq exit))
    · next goesOn =>
      rw [Bool.or_eq_true, not_or] at goesOn
      exact .begin books (stop.trans (Bool.eq_false_iff.2 goesOn.1)) (fun _ => rfl) trivial

/-- Nothing is asked of the dispenser while all is let go. -/
theorem inOrder_releasing {outcome : Outcome}
    (inOrder : InOrder expected isBarrier ⟨s, .releasing outcome task, stage, stats⟩)
    (w : Network) :
    InOrder expected isBarrier
      ((Element.mk s (.releasing outcome task) stage stats).step (strategy A P) w).2.1 := by
  rcases outcome with (cause | stats') | _
  · simp only [Element.step]
    rcases (strategy A P).step task s w with ⟨progress, s', w'⟩
    cases progress <;> trivial
  · obtain ⟨b, owed, stands⟩ := inOrder
    have comes : Comes expected isBarrier .release b task ((strategy A P).step task s w) :=
      comes_step stands w
    simp only [Element.step]
    generalize (strategy A P).step task s w = stepped at comes
    obtain ⟨progress, s', w'⟩ := stepped
    cases progress with
    | waiting until? => exact ⟨b, owed, comes⟩
    | working rest => exact ⟨b, owed, comes⟩
    | finished result | panicked => exact ⟨comes.1, fun hnone => comes.2.trans (owed hnone)⟩
  · simp only [Element.step]
    rcases (strategy A P).step task s w with ⟨progress, s', w'⟩
    cases progress <;> trivial

end Phases

/-- **A step of a distributor in order leaves it in order.** One lemma for each phase. -/
theorem inOrder_step (inOrder : InOrder expected isBarrier e) (w : Network) :
    InOrder expected isBarrier (e.step (strategy A P) w).2.1 := by
  obtain ⟨s, phase, stage, stats⟩ := e
  cases phase with
  | created => exact .begin inOrder.1 inOrder.2 (fun _ => rfl) trivial
  | connectingSource task | connectingSink task =>
    refine inOrder_advance inOrder rfl (fun _ _ => id) (fun result s answered => ?_) w
      (by unfold Element.step; rfl)
    cases result with
    | error cause => trivial
    | ok reply => exact .begin answered.1 answered.2 (fun _ => rfl) trivial
  | fetching task => exact inOrder_fetching inOrder w
  | dispatching m task => exact inOrder_dispatching inOrder w
  | disconnectingSink failure task | disconnectingSource failure task =>
    cases failure with
    | some cause =>
      refine inOrder_failed rfl (fun _ _ => ?_) (fun result s => ?_) w
        (by unfold Element.step; rfl)
      · trivial
      · cases result <;> trivial
    | none =>
      obtain ⟨b, owed, stands⟩ := inOrder
      refine inOrder_advance stands rfl (fun _ _ stands => ⟨b, owed, stands⟩)
        (fun result s answered => ?_) w (by unfold Element.step; rfl)
      cases result with
      | error cause => trivial
      | ok reply => exact ⟨b, owed, .begin answered.1 answered.2 nofun trivial⟩
  | releasing outcome task => exact inOrder_releasing inOrder w
  | «over» outcome => exact inOrder

end Run

/-- What has happened when a distributor is done. -/
structure Finished (expected : Nat) (isBarrier : Message → Bool) (s : State σ π) : Prop where
  /-- The source has yielded the end of the stream. -/
  ended : ∃ m ∈ s.source.2, m.isEnd = true
  /-- Everything that was sent before it was handed out, and then ends. -/
  parted : ∃ earlier m items farewells, s.sink.2.sent = earlier ++ [m] ∧ m.isEnd = true ∧
    s.sink.2.handed = items ++ farewells ∧ Farewell earlier items farewells
  /-- Everybody who came has left. -/
  left : ∀ before id later,
    s.sink.2.called = before ++ .register id :: later → .unregister id ∈ later
  came : expected ≤ (s.sink.2.called.filterMap Call.registers?).toFinset.card
  /-- Each of these was laid into the mailbox of its client when it was handed out. -/
  posted : s.sink.2.Posted
  /-- The diary is that of this dispenser. -/
  queue : s.sink.1.queue = (Queue.new expected isBarrier).after s.sink.2.called
  delivered : s.sink.1.delivered = s.sink.2.handed.length

/-- Where the loop was left because the queue was drained, everything is finished. -/
theorem Books.finished (books : Books expected isBarrier [] s) (owed : drained s = true) :
    Finished expected isBarrier s := by
  have ended := rundown_of_drained owed
  obtain ⟨log, run, -⟩ := books.kept.run
  have queue := Queue.after_of_calls run
  have isDrained := owed
  unfold drained at isDrained
  rw [← queue] at ended isDrained
  obtain ⟨left, came⟩ := (Queue.isDrained_after ended).1 isDrained
  rw [queue] at ended
  have sourceEnded := books.source.symm.trans (books.sourceDone owed)
  exact ⟨List.any_eq_true.1 sourceEnded, books.kept.farewell ended, left, came,
    books.kept.posted, queue.symm, books.kept.delivered⟩

/-- A run that returned its statistics, and met no exit, has finished. -/
theorem InOrder.finished {e : Element (State σ π) (Task τ)} {stats : Stats}
    (inOrder : InOrder expected isBarrier e) (h : e.outcome? = some (.returned (.ok stats)))
    (noExit : stats.exits = 0) : Finished expected isBarrier e.strategy := by
  obtain ⟨s, phase, stage, counted⟩ := e
  cases phase with
  | «over» outcome =>
    cases h
    exact inOrder.1.finished (inOrder.2 noExit)
  | _ => cases h

/-- Who looks for a message has a queue that is not drained. -/
theorem Stands.not_drained (stands : Stands expected isBarrier .fetch false task s) :
    drained s = false := by
  cases stands with
  | begin _ still | inSource _ still | inSink _ still | polling _ still | getting _ still
  | reading _ still => exact still

theorem InOrder.fetching {e : Element (State σ π) (Task τ)}
    (inOrder : InOrder expected isBarrier e) (h : e.phase = .fetching task) :
    drained e.strategy = false := by
  obtain ⟨s, phase, stage, stats⟩ := e
  cases h
  exact Stands.not_drained inOrder

/-- **A distributor stops in time.** Its source, its processor and everything that happens between
its steps may be any. If it ends well without having been asked to exit, then its source has ended,
everything that was sent to the dispenser was handed out before the ends, each delivery as one new
row in the mailbox of its client, and all clients have left, among them as many as were expected.
And whenever it fetches a message, be it after its source has ended, the dispenser still owes
something. -/
theorem stops_in_time (A : Source Network σ τ) (P : Processor π) (name uri : String) (source : σ)
    (processor : π) (expected : Nat) (isBarrier : Message → Bool) (highWaterMark : Nat)
    (nets : List Network) :
    let dispenser := Dispenser.new uri (.new expected isBarrier) highWaterMark
    let e := Element.after (strategy A P)
      { name, source := (source, []), processor, sink := (dispenser, {}) } nets
    e.map (Pipeline.Task.map Prod.snd id) (Pipeline.map Prod.fst id Prod.fst)
      = Element.after (Pipeline.strategy A P Dispenser.sink)
        { name, source, processor, sink := dispenser } nets
    ∧ (∀ stats, e.outcome? = some (.returned (.ok stats)) → stats.exits = 0 →
      Finished expected isBarrier e.strategy)
    ∧ (∀ task, e.phase = .fetching task → e.strategy.sink.1.queue.isDrained = false) := by
  intro dispenser e
  have inOrder : InOrder expected isBarrier e := by
    refine Element.after_induction (P := InOrder expected isBarrier) ?_
      (fun e w inOrder => inOrder_step inOrder w) nets
    exact ⟨⟨.start expected isBarrier uri highWaterMark, rfl, nofun⟩, rfl⟩
  exact ⟨Element.after_shows (strategy_shows A P) _ nets,
    fun _ houtcome noExit => inOrder.finished houtcome noExit, fun _ => inOrder.fetching⟩

/-- A network in which one client is connected and has said this. -/
def visited (said : List Message) : Network where
  limits := ⟨1, 0, 0⟩
  routers :=
    [{ uri := ""
       inbound := said.map fun m => (⟨1⟩, Bytes.ofUInt32 m.kind.code :: m.parts)
       mailboxes := [[]]
       peers := [(⟨1⟩, 0)] }]

/-- The client comes and gets a barrier, and the source ends. -/
def visit : List Network :=
  List.replicate 5 { limits := ⟨1, 0, 0⟩ } ++ visited [] :: visited [.registration ⟨1⟩]
    :: List.replicate 9 (visited []) ++ visited [.dataRequest ⟨1⟩]
    :: List.replicate 11 (visited [])

/-- The client asks again, and leaves. -/
def departure : List Network :=
  visited [.dataRequest ⟨1⟩] :: List.replicate 4 (visited []) ++ visited [.unregistration ⟨1⟩]
    :: List.replicate 8 (visited [])

def atHome : State (List Message) Unit where
  name := ""
  source := ([.barrier []], [])
  processor := ()
  sink := (.new "" (.new 1 fun m => m.kind == .barrier) 4, {})

/-- While the client is there the distributor waits for it, and then it stops. -/
theorem stops_in_time_rehearsal :
    let waiting := Element.after (strategy Farm.row .passThrough) atHome visit
    let done := Element.after (strategy Farm.row .passThrough) atHome (visit ++ departure)
    (waiting.phase = .fetching (.inSink .fetched (.begin .get)) ∧
      waiting.strategy.source.2 = [.barrier [], .endOfStream] ∧
      waiting.strategy.sink.1.queue.isDrained = false) ∧
    done.outcome? = some (.returned (.ok
      { registrations := 1, ends := 1, dataRequests := 2, other := 1 })) ∧
    done.strategy.sink.2.handed = [(⟨1⟩, .barrier []), (⟨1⟩, .endOfStream)] ∧
    Finished 1 (fun m => m.kind == .barrier) done.strategy := by
  have fetches : (Element.after (strategy Farm.row .passThrough) atHome visit).phase
      = .fetching (.inSink .fetched (.begin .get)) := by decide +kernel
  have returns : (Element.after (strategy Farm.row .passThrough) atHome
      (visit ++ departure)).outcome? = some (.returned (.ok
        { registrations := 1, ends := 1, dataRequests := 2, other := 1 })) := by decide +kernel
  obtain ⟨-, -, waits⟩ := stops_in_time Farm.row .passThrough "" "" [.barrier []] () 1
    (fun m => m.kind == .barrier) 4 visit
  obtain ⟨-, ends, -⟩ := stops_in_time Farm.row .passThrough "" "" [.barrier []] () 1
    (fun m => m.kind == .barrier) 4 (visit ++ departure)
  exact ⟨⟨fetches, by decide +kernel, waits _ fetches⟩, returns, by decide +kernel,
    ends _ returns rfl⟩

end Distributor

end Fanout

end RecordFarm
