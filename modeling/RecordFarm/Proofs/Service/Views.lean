import RecordFarm.Element.Pipeline

/-!
# What is seen of a server

A server may carry more than matters: it may keep a log, or write into the world. Seen through a map
of its tasks, one of its states and one of the world, it can do exactly what a simpler server does
(`Service.Shows`). A pipeline of such parts does what the pipeline of the simpler parts does
(`Pipeline.strategy_shows`), and an element does what the element of the simpler strategy does, step
by step (`Element.step_shows`).
-/

namespace RecordFarm

variable {ω ω' ξ σ σ' τ τ' π π' κ κ' υ υ' α : Type}

/-- Seen through these maps, the server `A` does what `A'` does. -/
structure Service.Shows (A : Service ω ξ σ τ α) (A' : Service ω' ξ σ' τ' α) (onTask : τ → τ')
    (onState : σ → σ') (onWorld : ω → ω') : Prop where
  start : ∀ call, A'.start call = onTask (A.start call)
  step : ∀ task s w, A'.step (onTask task) (onState s) (onWorld w)
    = ((A.step task s w).1.mapTask onTask, onState (A.step task s w).2.1,
      onWorld (A.step task s w).2.2)

structure Sink.Shows (B : Sink ω κ υ) (B' : Sink ω' κ' υ') (onTask : υ → υ') (onState : κ → κ')
    (onWorld : ω → ω') : Prop
    extends B.toService.Shows B'.toService onTask onState onWorld where
  wantsInput : ∀ s w, B'.wantsInput (onState s) (onWorld w)
    = ((B.wantsInput s w).1, onState (B.wantsInput s w).2.1, onWorld (B.wantsInput s w).2.2)
  isDrained : ∀ s w, B'.isDrained (onState s) (onWorld w) = B.isDrained s w

theorem Progress.mapTask_id (progress : Progress τ α) : progress.mapTask id = progress := by
  cases progress <;> rfl

theorem Service.Shows.refl (A : Service ω ξ σ τ α) : A.Shows A id id id where
  start _ := rfl
  step task s w := by
    rw [Progress.mapTask_id]
    rfl

theorem Sink.Shows.refl (B : Sink ω κ υ) : B.Shows B id id id where
  toShows := Service.Shows.refl B.toService
  wantsInput _ _ := rfl
  isDrained _ _ := rfl

/-- Through `onState`, the processor `P` does what `P'` does. -/
def Processor.Projects (P : Processor π) (P' : Processor π') (onState : π → π') : Prop :=
  ∀ record s, P'.process record (onState s)
    = ((P.process record s).1, onState (P.process record s).2)

namespace Processor

theorem Projects.refl (P : Processor π) : P.Projects P id := fun _ _ => rfl

variable {P : Processor π} {P' : Processor π'} {onState : π → π'}

theorem Projects.run (h : P.Projects P' onState) (records : List Bytes) (s : π) :
    P'.run records (onState s) = ((P.run records s).1, onState (P.run records s).2) := by
  induction records generalizing s with
  | nil => rfl
  | cons record rest ih =>
    simp only [Processor.run, h record s]
    rcases P.process record s with ⟨result, s'⟩
    cases result with
    | error fault => rfl
    | ok outputs =>
      simp only [ih s']
      rcases P.run rest s' with ⟨more, s''⟩
      cases more <;> rfl

theorem Projects.apply (h : P.Projects P' onState) (m : Message) (s : π) :
    P'.apply m (onState s) = ((P.apply m s).1, onState (P.apply m s).2) := by
  unfold Processor.apply
  cases m.records with
  | error cause => rfl
  | ok records =>
    simp only [h.run records s]
    rcases P.run records s with ⟨result, s'⟩
    cases result with
    | error fault => rfl
    | ok outputs => cases outputs <;> rfl

end Processor

/-! ## Pipelines -/

namespace Pipeline

def Task.map (onA : τ → τ') (onB : υ → υ') : Task τ υ → Task τ' υ'
  | .begin call => .begin call
  | .inSource use rest => .inSource use (onA rest)
  | .inSink use rest => .inSink use (onB rest)

def map (ofA : σ → σ') (ofP : π → π') (ofB : κ → κ') (s : Pipeline σ π κ) : Pipeline σ' π' κ' :=
  { s with source := ofA s.source, processor := ofP s.processor, sink := ofB s.sink }

variable {A : Source ω σ τ} {A' : Source ω' σ' τ'} {P : Processor π} {P' : Processor π'}
  {B : Sink ω κ υ} {B' : Sink ω' κ' υ'} {onA : τ → τ'} {ofA : σ → σ'} {ofP : π → π'}
  {onB : υ → υ'} {ofB : κ → κ'} {ofW : ω → ω'}

def Stepped.map (onA : τ → τ') (ofA : σ → σ') (ofP : π → π') (onB : υ → υ') (ofB : κ → κ')
    (ofW : ω → ω') (x : Stepped ω σ π κ τ υ) : Stepped ω' σ' π' κ' τ' υ' :=
  (x.1.mapTask (Task.map onA onB), x.2.1.map ofA ofP ofB, ofW x.2.2)

variable (hA : A.toService.Shows A'.toService onA ofA ofW) (hP : P.Projects P' ofP)
  (hB : B.Shows B' onB ofB ofW) (s : Pipeline σ π κ) (w : ω)

include hA in
theorem askSource_map (use : SourceUse) (call : SourceCall) :
    (askSource A' use call (s.map ofA ofP ofB) (ofW w) : Stepped ω' σ' π' κ' τ' υ')
      = (askSource A use call s w).map onA ofA ofP onB ofB ofW := by
  unfold askSource
  rw [hA.start]
  rfl

include hB in
theorem askSink_map (use : SinkUse) (call : SinkCall) :
    (askSink B' use call (s.map ofA ofP ofB) (ofW w) : Stepped ω' σ' π' κ' τ' υ')
      = (askSink B use call s w).map onA ofA ofP onB ofB ofW := by
  unfold askSink
  rw [hB.start]
  rfl

include hB in
theorem isDone_map : isDone B' (s.map ofA ofP ofB) (ofW w) = isDone B s w := by
  unfold isDone
  exact congrArg (s.sourceDone && ·) (hB.isDrained s.sink w)

include hB in
theorem fetch_map :
    (fetch B' (s.map ofA ofP ofB) (ofW w) : Stepped ω' σ' π' κ' τ' υ')
      = (fetch B s w).map onA ofA ofP onB ofB ofW := by
  unfold fetch
  by_cases hdone : s.sourceDone = true
  · rw [if_pos hdone, if_pos (show (s.map ofA ofP ofB).sourceDone = true from hdone)]
    exact askSink_map hB { s with origin := .sink } w .fetched .get
  · rw [if_neg hdone, if_neg (show ¬ (s.map ofA ofP ofB).sourceDone = true from hdone)]
    -- Both sinks want the same, and are left in states that look the same.
    have hwants := hB.wantsInput s.sink w
    rcases hmine : B.wantsInput s.sink w with ⟨wants, sink, w'⟩
    rw [hmine] at hwants
    rw [show (s.map ofA ofP ofB).sink = ofB s.sink from rfl, hwants]
    cases wants with
    | true => exact askSink_map hB { s with sink } w' .polled .poll
    | false => exact askSink_map hB { s with sink, origin := .sink } w' .fetched .get

include hP hB in
theorem process_map (m : Message) :
    (process P' B' m (s.map ofA ofP ofB) (ofW w) : Stepped ω' σ' π' κ' τ' υ')
      = (process P B m s w).map onA ofA ofP onB ofB ofW := by
  unfold process
  have happly := hP.apply m s.processor
  rcases hmine : P.apply m s.processor with ⟨result, processor⟩
  rw [hmine] at happly
  -- The processors come to the same, so the same is passed on.
  rw [show (s.map ofA ofP ofB).processor = ofP s.processor from rfl, happly]
  cases result with
  | error fault => cases fault <;> rfl
  | ok output =>
    simp only
    split
    · rfl
    · exact askSink_map hB { s with processor } w .plain (.send output)

include hA hP hB in
theorem dispatch_map (hook : Hook) (m : Message) :
    (dispatch A' P' B' hook m (s.map ofA ofP ofB) (ofW w) : Stepped ω' σ' π' κ' τ' υ')
      = (dispatch A P B hook m s w).map onA ofA ofP onB ofB ofW := by
  -- Both sides look at the same end, and ask the same of it.
  have horigin : (s.map ofA ofP ofB).origin = s.origin := rfl
  cases hook with
  | process => exact process_map hP hB s w m
  | exit => rfl
  | endOfStream =>
    simp only [dispatch, horigin]
    cases s.origin with
    | sink => rfl
    | source => exact askSink_map hB s w .checked (.send m)
  | register =>
    simp only [dispatch, horigin]
    cases m.identity with
    | error cause => rfl
    | ok id =>
      cases s.origin with
      | source => exact askSource_map hA s w .plain (.register id)
      | sink => exact askSink_map hB s w .checked (.register id)
  | unregister =>
    simp only [dispatch, horigin]
    cases m.identity with
    | error cause => rfl
    | ok id =>
      cases s.origin with
      | source => exact askSource_map hA s w .plain (.unregister id)
      | sink => exact askSink_map hB s w .checked (.unregister id)
  | dataRequest =>
    simp only [dispatch]
    cases m.identity with
    | error cause => rfl
    | ok id => exact askSink_map hB s w .checked (.request id)
  | other =>
    simp only [dispatch]
    cases Hook.forwarded? .other m with
    | none => rfl
    | some m => exact askSink_map hB s w .plain (.send m)

include hA hP hB in
theorem begin_map (call : HookCall) :
    (begin A' P' B' call (s.map ofA ofP ofB) (ofW w) : Stepped ω' σ' π' κ' τ' υ')
      = (begin A P B call s w).map onA ofA ofP onB ofB ofW := by
  cases call with
  | connectSource => exact askSource_map hA s w .plain .connect
  | connectSink => exact askSink_map hB s w .plain .connect
  | disconnectSink => exact askSink_map hB s w .plain .disconnect
  | disconnectSource => exact askSource_map hA s w .plain .disconnect
  | fetch => exact fetch_map hB s w
  | send m => exact askSink_map hB s w .plain (.send m)
  | dispatch hook m _ => exact dispatch_map hA hP hB s w hook m
  | release => exact askSource_map hA s w .released .release

include hB in
theorem afterSource_map (use : SourceUse) (result : Except Error Reply) :
    (afterSource B' use result (s.map ofA ofP ofB) (ofW w) : Stepped ω' σ' π' κ' τ' υ')
      = (afterSource B use result s w).map onA ofA ofP onB ofB ofW := by
  cases use with
  | released => exact askSink_map hB s w .plain .release
  | plain => cases result <;> rfl
  | fetched => cases result <;> rfl

include hA hB in
theorem afterSink_map (use : SinkUse) (result : Except Error Reply) :
    (afterSink A' B' use result (s.map ofA ofP ofB) (ofW w) : Stepped ω' σ' π' κ' τ' υ')
      = (afterSink A B use result s w).map onA ofA ofP onB ofB ofW := by
  cases result with
  | error cause => cases use <;> rfl
  | ok reply =>
    cases use with
    | plain => rfl
    | checked =>
      simp only [afterSink, isDone_map hB]
      rfl
    | fetched => rfl
    | polled =>
      cases reply with
      | some m => rfl
      | none => exact askSource_map hA s w .fetched .next

include hA hP hB in
/-- A pipeline does what is done by the pipeline of what is seen of its parts. -/
theorem strategy_shows :
    (strategy A P B).toService.Shows (strategy A' P' B').toService (Task.map onA onB)
      (map ofA ofP ofB) ofW where
  start _ := rfl
  step := by
    intro task s w
    cases task with
    | begin call => exact begin_map hA hP hB s w call
    | inSource use rest =>
      have hstep := hA.step rest s.source w
      simp only [strategy, Task.map, step, show (s.map ofA ofP ofB).source = ofA s.source from rfl,
        hstep]
      rcases A.step rest s.source w with ⟨progress, source, w'⟩
      cases progress with
      | finished result => exact afterSource_map hB { s with source } w' use result
      | _ => rfl
    | inSink use rest =>
      have hstep := hB.step rest s.sink w
      simp only [strategy, Task.map, step, show (s.map ofA ofP ofB).sink = ofB s.sink from rfl,
        hstep]
      rcases B.step rest s.sink w with ⟨progress, sink, w'⟩
      cases progress with
      | finished result => exact afterSink_map hA hB { s with sink } w' use result
      | _ => rfl

end Pipeline

/-! ## Elements -/

def Phase.map (onTask : τ → τ') : Phase τ → Phase τ'
  | .created => .created
  | .connectingSource task => .connectingSource (onTask task)
  | .connectingSink task => .connectingSink (onTask task)
  | .fetching task => .fetching (onTask task)
  | .dispatching m task => .dispatching m (onTask task)
  | .disconnectingSink failure task => .disconnectingSink failure (onTask task)
  | .disconnectingSource failure task => .disconnectingSource failure (onTask task)
  | .releasing outcome task => .releasing outcome (onTask task)
  | .over outcome => .over outcome

namespace Element

def map (onTask : τ → τ') (onState : σ → σ') (e : Element σ τ) : Element σ' τ' where
  strategy := onState e.strategy
  phase := e.phase.map onTask
  lifecycle := e.lifecycle
  stats := e.stats

variable {S : Strategy ω σ τ} {S' : Strategy ω' σ' τ'} {onTask : τ → τ'} {onState : σ → σ'}
  {onWorld : ω → ω'}

theorem outcome?_map (e : Element σ τ) : (e.map onTask onState).outcome? = e.outcome? := by
  obtain ⟨strategy, phase, lifecycle, stats⟩ := e
  cases phase <;> rfl

def Stepped.map (onTask : τ → τ') (onState : σ → σ') (onWorld : ω → ω') (x : Stepped ω σ τ) :
    Stepped ω' σ' τ' :=
  (x.1, x.2.1.map onTask onState, onWorld x.2.2)

variable (h : S.toService.Shows S'.toService onTask onState onWorld) (e : Element σ τ) (w : ω)

include h

theorem drain_map (failure : Option Error) :
    drain S' failure (e.map onTask onState) = (drain S failure e).map onTask onState := by
  unfold drain
  rw [h.start]
  rfl

theorem release_map (outcome : Outcome) :
    release S' outcome (e.map onTask onState) = (release S outcome e).map onTask onState := by
  unfold release
  rw [h.start]
  rfl

theorem fetch_map : fetch S' (e.map onTask onState) = (fetch S e).map onTask onState := by
  unfold fetch
  rw [h.start]
  rfl

theorem dispatch_map (m : Message) :
    dispatch S' m (e.map onTask onState) = (dispatch S m e).map onTask onState := by
  unfold dispatch
  rw [h.start]
  rfl

theorem advance_map {task : τ} {again : τ → Phase τ} {again' : τ' → Phase τ'}
    {andThen : Except Error HookReply → Element σ τ → Element σ τ}
    {andThen' : Except Error HookReply → Element σ' τ' → Element σ' τ'}
    (hagain : ∀ rest, again' (onTask rest) = (again rest).map onTask)
    (hthen : ∀ result e, andThen' result (e.map onTask onState)
      = (andThen result e).map onTask onState) :
    advance S' (e.map onTask onState) (onWorld w) (onTask task) again' andThen'
      = (advance S e w task again andThen).map onTask onState onWorld := by
  -- The strategies take the same step, so the elements go on in the same way.
  have hstep := h.step task e.strategy w
  unfold advance
  rw [show (e.map onTask onState).strategy = onState e.strategy from rfl, hstep]
  rcases S.step task e.strategy w with ⟨progress, strategy, w'⟩
  cases progress with
  | waiting until? => rfl
  | working rest =>
    simp only [Progress.mapTask, hagain]
    rfl
  | finished result =>
    simp only [Progress.mapTask, Stepped.map, ← hthen]
    rfl
  | panicked =>
    simp only [Progress.mapTask, Stepped.map, ← release_map h]
    rfl

/-- An element does what is done by the element of what is seen of its strategy. -/
theorem step_shows :
    (e.map onTask onState).step S' (onWorld w) = (e.step S w).map onTask onState onWorld := by
  unfold step
  rw [show (e.map onTask onState).phase = e.phase.map onTask from rfl]
  cases e.phase with
  | created =>
    simp only [Phase.map, h.start]
    rfl
  | connectingSource task =>
    refine advance_map h e w (fun _ => rfl) fun result e => ?_
    cases result with
    | error cause => exact drain_map h e (some cause)
    | ok reply =>
      simp only [h.start]
      rfl
  | connectingSink task =>
    refine advance_map h e w (fun _ => rfl) fun result e => ?_
    cases result with
    | error cause => exact drain_map h e (some cause)
    | ok reply => exact fetch_map h e
  | fetching task =>
    refine advance_map h e w (fun _ => rfl) fun result e => ?_
    cases result with
    | error cause => exact drain_map h e (some cause)
    | ok reply => exact dispatch_map h e reply.message
  | dispatching m task =>
    refine advance_map h e w (fun _ => rfl) fun result e => ?_
    cases result with
    | error cause => exact drain_map h e (some cause)
    | ok reply =>
      simp only
      split
      · exact drain_map h e none
      · exact fetch_map h e
  | disconnectingSink failure task =>
    refine advance_map h e w (fun _ => rfl) fun result e => ?_
    simp only [h.start]
    rfl
  | disconnectingSource failure task =>
    refine advance_map h e w (fun _ => rfl) fun result e => ?_
    simp only [release_map h]
    rfl
  | releasing outcome task =>
    have hstep := h.step task e.strategy w
    simp only [Phase.map, show (e.map onTask onState).strategy = onState e.strategy from rfl, hstep]
    rcases S.step task e.strategy w with ⟨progress, strategy, w'⟩
    cases progress <;> rfl
  | «over» outcome => rfl

end Element

end RecordFarm
