import RecordFarm.Element.Pipeline
import RecordFarm.Proofs.Element.Hooks
import RecordFarm.Proofs.Farm.Logs

/-!
# Streams of records

A source is only ever in states that it comes to by calls, from the state in which it began
(`Service.Reached`). It is a stream of records if it yields records from there, and ends of the
stream (`Source.IsStream`); what it might do in other states does not matter, because the source of
an element never gets there (`Element.reached_step`). A source that `Feeds` an element may yield
barriers too.
-/

namespace RecordFarm

variable {ω ξ σ τ π κ υ α : Type}

def Progress.left (task : τ) : Progress τ α → Option τ
  | .waiting _ => some task
  | .working rest => some rest
  | .finished _ => none
  | .panicked => none

/-- A server that began in `s₀` may come to this: it is in this state, between calls or in the
middle of a call, of which this task is left. -/
inductive Service.Reached (A : Service ω ξ σ τ α) (s₀ : σ) : Option (ξ × τ) → σ → Prop where
  | start : A.Reached s₀ none s₀
  | call {s : σ} (here : A.Reached s₀ none s) (call : ξ) :
      A.Reached s₀ (some (call, A.start call)) s
  | step {call : ξ} {task : τ} {s : σ} (here : A.Reached s₀ (some (call, task)) s) (w : ω) :
      A.Reached s₀ (((A.step task s w).1.left task).map (call, ·)) (A.step task s w).2.1

/-- A source that began in `s₀` yields messages with records that can be read, and ends of the
stream. It works by itself: it leaves routers, pipes and addresses alone. -/
structure Source.IsStream (A : Source Network σ τ) (s₀ : σ) : Prop where
  apart : ∀ task s (net : Network), net.SameWires (A.step task s net).2.2
  yields : ∀ task s net reply, A.Reached s₀ (some (.next, task)) s →
    (A.step task s net).1 = .finished (.ok reply) → ∃ m, reply = some m ∧
      (m.isEnd = true ∨ m.Carries)

/-- A source that began in `s₀` feeds an element with fit messages, which are records or barriers,
and ends of the stream. It works by itself: it leaves routers, pipes and addresses alone. -/
structure Source.Feeds (A : Source Network σ τ) (s₀ : σ) (fit : Message → Prop) : Prop where
  apart : ∀ task s (net : Network), net.SameWires (A.step task s net).2.2
  yields : ∀ task s net reply, A.Reached s₀ (some (.next, task)) s →
    (A.step task s net).1 = .finished (.ok reply) → ∃ m, reply = some m ∧
      (m.isEnd = true ∨ fit m)
  sorts : ∀ m, fit m → m.Carries ∨ m.kind = .barrier

/-- A stream feeds its farm messages that carry records. -/
theorem Source.IsStream.feeds {A : Source Network σ τ} {s₀ : σ} (stream : A.IsStream s₀) :
    A.Feeds s₀ Message.Carries :=
  ⟨stream.apart, stream.yields, fun _ => Or.inl⟩

/-- A step of the source leaves router and pipe as they are. -/
theorem Source.Feeds.step_lines {A : Source Network σ τ} {s₀ : σ} {fit : Message → Prop}
    (feeds : A.Feeds s₀ fit) {net : Network} {d c : String} {rn pn : Option Nat} {r : Router}
    {p : Pipe} (lines : Lines net d c rn pn r p) (task : τ) (s : σ) :
    ∃ progress s' net', A.step task s net = (progress, s', net') ∧ Lines net' d c rn pn r p :=
  ⟨_, _, _, rfl, lines.elsewhere (feeds.apart task s net)⟩

inductive Progress.Fails : Progress τ α → Prop where
  | finished (cause : Error) : Fails (.finished (.error cause))
  | panicked : Fails .panicked

/-- No call of a server that began in `s₀` fails. -/
def Service.Steady (A : Service ω ξ σ τ α) (s₀ : σ) : Prop :=
  ∀ call task s (w : ω), A.Reached s₀ (some (call, task)) s → ¬ (A.step task s w).1.Fails

/-- Only what is asked for with `next` is logged. -/
theorem Source.logged_step_of_ne {A : Source ω σ τ} {task : τ} {s s' : σ} {w w' : ω}
    {progress : Progress τ Reply} (call : SourceCall) (log : List Message) (other : call ≠ .next)
    (h : A.step task s w = (progress, s', w')) :
    A.logged.step (call, task) (s, log) w
      = (progress.mapTask fun rest => (call, rest), (s', log), w') := by
  simp only [Source.logged, h]
  cases progress with
  | finished result =>
    cases result with
    | error cause => rfl
    | ok reply =>
      cases reply with
      | none => rfl
      | some m =>
        simp only [if_neg other]
        rfl
  | _ => rfl

/-! ## Pipelines -/

namespace Pipeline

def Task.inSource? : Task (SourceCall × τ) υ → Option (SourceCall × τ)
  | .inSource _ rest => some rest
  | _ => none

def Stepped.Reached (A : Source ω σ τ) (s₀ : σ) (task : Task (SourceCall × τ) υ)
    (x : Stepped ω (σ × List Message) π κ (SourceCall × τ) υ) : Prop :=
  A.toService.Reached s₀ ((x.1.left task).bind Task.inSource?) x.2.1.source.1

variable {A : Source ω σ τ} {P : Processor π} {B : Sink ω κ υ} {s₀ : σ}
  {task : Task (SourceCall × τ) υ} {s : Pipeline (σ × List Message) π κ} {w : ω}

theorem reached_process (m : Message) (here : A.toService.Reached s₀ none s.source.1) :
    (process P B m s w).Reached A s₀ task := by
  unfold process
  rcases P.apply m s.processor with ⟨result, processor⟩
  cases result with
  | error fault => cases fault <;> exact here
  | ok output =>
    simp only
    split <;> exact here

theorem reached_dispatch (hook : Hook) (m : Message)
    (here : A.toService.Reached s₀ none s.source.1) :
    (dispatch A.logged P B hook m s w).Reached A s₀ task := by
  cases hook with
  | process => exact reached_process m here
  | exit => exact here
  | endOfStream =>
    simp only [dispatch]
    split <;> exact here
  | register =>
    simp only [dispatch]
    split
    · exact here
    · split
      · exact here.call _
      · exact here
  | unregister =>
    simp only [dispatch]
    split
    · exact here
    · split
      · exact here.call _
      · exact here
  | dataRequest =>
    simp only [dispatch]
    split <;> exact here
  | other =>
    simp only [dispatch]
    split <;> exact here

theorem reached_begin (call : HookCall) (here : A.toService.Reached s₀ none s.source.1) :
    (begin A.logged P B call s w).Reached A s₀ task := by
  cases call with
  | connectSource => exact here.call _
  | disconnectSource => exact here.call _
  | release => exact here.call _
  | connectSink => exact here
  | disconnectSink => exact here
  | send m => exact here
  | fetch =>
    simp only [begin, fetch]
    split
    · exact here
    · split <;> exact here
  | dispatch hook m _ => exact reached_dispatch hook m here

theorem reached_afterSource (use : SourceUse) (result : Except Error Reply)
    (here : A.toService.Reached s₀ none s.source.1) :
    (afterSource B use result s w : Stepped ω _ π κ (SourceCall × τ) υ).Reached A s₀ task := by
  cases use <;> cases result <;> exact here

theorem reached_afterSink (use : SinkUse) (result : Except Error Reply)
    (here : A.toService.Reached s₀ none s.source.1) :
    (afterSink A.logged B use result s w).Reached A s₀ task := by
  cases result with
  | error cause => cases use <;> exact here
  | ok reply =>
    cases use with
    | polled =>
      cases reply with
      | none => exact here.call _
      | some m => exact here
    | _ => exact here

/-- A step of a pipeline leaves its source where it may be. -/
theorem reached_step (here : A.toService.Reached s₀ task.inSource? s.source.1) :
    (step A.logged P B task s w).Reached A s₀ task := by
  cases task with
  | begin call => exact reached_begin call here
  | inSink use rest =>
    simp only [step]
    rcases B.step rest s.sink w with ⟨progress, sink, w'⟩
    cases progress with
    | finished result => exact reached_afterSink use result here
    | _ => exact here
  | inSource use rest =>
    -- The log only writes down what the source does, so its state is the one that it came to.
    obtain ⟨call, rest⟩ := rest
    have next := here.step w
    simp only [step, Source.logged]
    rcases hstep : A.step rest s.source.1 w with ⟨progress, source, w'⟩
    rw [hstep] at next
    cases progress with
    | finished result =>
      cases result with
      | error cause => exact reached_afterSource use _ next
      | ok reply => cases reply <;> exact reached_afterSource use _ next
    | _ => exact next

end Pipeline

/-! ## Elements -/

def Phase.task? : Phase τ → Option τ
  | .created => none
  | .connectingSource task => some task
  | .connectingSink task => some task
  | .fetching task => some task
  | .dispatching _ task => some task
  | .disconnectingSink _ task => some task
  | .disconnectingSource _ task => some task
  | .releasing _ task => some task
  | .over _ => none

namespace Element

section Keeping

variable {S : Strategy ω σ τ} {I : Option τ → σ → Prop}
  (start : ∀ call s, I none s → I (some (S.start call)) s)
  (step : ∀ task s w, I (some task) s → I ((S.step task s w).1.left task) (S.step task s w).2.1)

include start step

/-- **What calls and steps of a strategy keep, its element keeps.** It does not matter which hook it
is in the middle of. -/
theorem step_keeps {e : Element σ τ} (here : I e.phase.task? e.strategy) (w : ω) :
    I (e.step S w).2.1.phase.task? (e.step S w).2.1.strategy := by
  have follows : ∀ (e : Element σ τ) (w : ω),
      Follows (fun _ task s _ => I (some task) s) (fun s _ => I none s) e w
        ↔ I e.phase.task? e.strategy := by
    rintro ⟨strategy, phase, lifecycle, stats⟩ w
    cases phase <;> exact Iff.rfl
  refine (follows _ (e.step S w).2.2).1 (follows_step (fun _ _ s _ => I none s)
    (fun call s _ _ => start call s) (fun reply s _ => start _ s) (fun _ _ _ _ _ => id)
    (fun call task now => ?_) ((follows e w).2 here))
  have next := step task e.strategy w now
  generalize S.step task e.strategy w = stepped at next
  obtain ⟨progress, s, w'⟩ := stepped
  cases progress <;> exact next

end Keeping

/-- The source of an element is where it may be, if it began in `s₀`. -/
def Reached (A : Source ω σ τ) (s₀ : σ)
    (e : Element (Pipeline (σ × List Message) π κ) (Pipeline.Task (SourceCall × τ) υ)) : Prop :=
  A.toService.Reached s₀ (e.phase.task?.bind Pipeline.Task.inSource?) e.strategy.source.1

/-- **The source of an element never gets where it may not be.** -/
theorem reached_step {A : Source ω σ τ} {P : Processor π} {B : Sink ω κ υ} {s₀ : σ} {w : ω}
    {e : Element (Pipeline (σ × List Message) π κ) (Pipeline.Task (SourceCall × τ) υ)}
    (here : e.Reached A s₀) : (e.step (Pipeline.strategy A.logged P B) w).2.1.Reached A s₀ :=
  step_keeps (S := Pipeline.strategy A.logged P B)
    (I := fun task s => A.toService.Reached s₀ (task.bind Pipeline.Task.inSource?) s.source.1)
    (fun _ _ free => free) (fun _ _ _ now => Pipeline.reached_step now) here w

end Element

/-! ## A row of messages -/

namespace Farm

/-- A source that yields the messages of a row and then ends. -/
def row : Source Network (List Message) SourceCall where
  start := id
  step
    | .next, m :: rest, net => (.finished (.ok (some m)), rest, net)
    | .next, [], net => (.finished (.ok (some .endOfStream)), [], net)
    | _, s, net => (.finished (.ok none), s, net)
  connector? _ := none

/-- A row of fit messages feeds an element. -/
theorem row_feeds {fit : Message → Prop} (sorts : ∀ m, fit m → m.Carries ∨ m.kind = .barrier)
    {items : List Message} (fits : ∀ m ∈ items, fit m) : row.Feeds items fit where
  apart task s net := by
    cases task with
    | next => cases s <;> exact Network.SameWires.refl net
    | _ => exact Network.SameWires.refl net
  yields := by
    -- What is left of the row is fit, wherever the source got to.
    have left : ∀ o s, row.toService.Reached items o s →
        (∀ m ∈ s, fit m) ∧ ∀ call task, o = some (call, task) → task = call := by
      intro o s reached
      induction reached with
      | start => exact ⟨fits, fun _ _ h => nomatch h⟩
      | call _ call ih => exact ⟨ih.1, fun _ _ h => by cases h; rfl⟩
      | @step call task s _ w ih =>
        obtain rfl := ih.2 call task rfl
        cases task with
        | next =>
          cases s with
          | nil => exact ⟨ih.1, fun _ _ h => nomatch h⟩
          | cons m rest =>
            exact ⟨fun n hn => ih.1 n (List.mem_cons_of_mem _ hn), fun _ _ h => nomatch h⟩
        | _ => exact ⟨ih.1, fun _ _ h => nomatch h⟩
    intro task s net reply reached h
    obtain ⟨fits, htask⟩ := left _ _ reached
    obtain rfl := htask _ _ rfl
    cases s with
    | nil =>
      cases h
      exact ⟨_, rfl, Or.inl rfl⟩
    | cons m rest =>
      cases h
      exact ⟨m, rfl, Or.inr (fits m List.mem_cons_self)⟩
  sorts := sorts

/-- A row of messages with records is a stream. -/
theorem row_isStream {items : List Message} (carry : ∀ m ∈ items, m.Carries) :
    row.IsStream items :=
  have feeds := row_feeds (fun _ => Or.inl) carry
  ⟨feeds.apart, feeds.yields⟩

theorem row_steady (items : List Message) : row.Steady items := by
  intro call task s net _ fails
  cases task with
  | next => cases s <;> cases fails
  | _ => cases fails

end Farm

end RecordFarm
