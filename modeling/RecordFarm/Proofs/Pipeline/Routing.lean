import RecordFarm.Proofs.Element.Hooks
import RecordFarm.Proofs.Pipeline.Routes

/-!
# A pipeline hands on what it takes

Whatever its source, its processor and its sink do, a pipeline reads its source only when the sink
wants more and none of the sink's peers is waiting, and never after the source has ended; and it
hands on to its source and its sink, message by message, what `routes` says (`Pipeline.hands_on`).
-/

namespace RecordFarm

namespace Pipeline

variable {ω σ τ π κ υ : Type}

abbrev WatchedState (σ π κ : Type) := Pipeline (σ × Bool) π (κ × Bool)

abbrev WatchedTask (τ υ : Type) := Task (SourceCall × τ) (SinkCall × υ)

abbrev WatchedStep (ω σ τ π κ υ : Type) :=
  Stepped (ω × List Event) (σ × Bool) π (κ × Bool) (SourceCall × τ) (SinkCall × υ)

/-- The pipeline whose source and sink take notes. -/
def watched (A : Source ω σ τ) (P : Processor π) (B : Sink ω κ υ) :
    Strategy (ω × List Event) (WatchedState σ π κ)
      (WatchedTask τ υ) :=
  strategy (A.noted fun note => [.source note]) P
    (B.noted (fun note => [.sink note]) fun more => [.wants more])

/-- The strategy that is watched shows the strategy. -/
theorem watched_shows (A : Source ω σ τ) (P : Processor π) (B : Sink ω κ υ) :
    (watched A P B).toService.Shows (strategy A P B).toService (Task.map Prod.snd Prod.snd)
      (map Prod.fst id Prod.fst) Prod.fst :=
  strategy_shows (A.toService.noted_shows _) (.refl P) (B.noted_shows _ _)

def dueOfSource (call : SourceCall) (busy : Bool) : List Event :=
  Service.due (fun note : Note SourceCall Reply => [.source note]) call busy

def dueOfSink (call : SinkCall) (busy : Bool) : List Event :=
  Service.due (fun note : Note SinkCall Reply => [.sink note]) call busy

@[simp] theorem append_dueOfSource (events : List Event) (call : SourceCall) :
    events ++ dueOfSource call true = events := List.append_nil events

@[simp] theorem append_dueOfSink (events : List Event) (call : SinkCall) :
    events ++ dueOfSink call true = events := List.append_nil events

def Idle (s : WatchedState σ π κ) : Prop :=
  s.source.2 = false ∧ s.sink.2 = false

section Hooks

variable (P : Processor π) (start : π)

/-- Before a hook everything has been handed on, but for the message that the hook is to handle. -/
def Fresh (call : HookCall) (s : WatchedState σ π κ) (events : List Event) : Prop :=
  match call with
  | .dispatch _ m _ =>
    call = m.handling ∧ Holding P start m s.sourceDone s.origin s.processor events
  | .send _ => False
  | _ => Settled P start s.sourceDone s.processor events

/-- Everything that was taken has been handed on, but for one message that is being handled. -/
def Near (call : HookCall) (events : List Event) : Prop :=
  handed events = (routes P start (taken events)).1
  ∨ (∃ m : Message, call = m.handling) ∧ handed events = (routes P start (taken events).dropLast).1

/-- Where a pipeline stands in the middle of a hook. The call that its source or its sink is busy
with counts as made. -/
inductive Stands : HookCall → WatchedTask τ υ →
    WatchedState σ π κ → List Event → Prop where
  | begin {call : HookCall} {s : WatchedState σ π κ} {events : List Event}
      (idle : Idle s) (fresh : Fresh P start call s events) : Stands call (.begin call) s events
  /-- The source serves a call. -/
  | inSource {call : HookCall} {use : SourceUse} {asked : SourceCall} {rest : τ}
      {s : WatchedState σ π κ} {events : List Event} (noFetch : call ≠ .fetch)
      (noMessage : use ≠ .fetched) (noNext : asked ≠ .next) (idle : s.sink.2 = false)
      (settled : Settled P start s.sourceDone s.processor (events ++ dueOfSource asked s.source.2))
      (near : Near P start call events) : Stands call (.inSource use (asked, rest)) s events
  /-- The sink serves a call. -/
  | inSink {call : HookCall} {use : SinkUse} {asked : SinkCall} {rest : υ}
      {s : WatchedState σ π κ} {events : List Event} (noFetch : call ≠ .fetch)
      (noMessage : use = .plain ∨ use = .checked) (noPoll : asked ≠ .poll) (noGet : asked ≠ .get)
      (idle : s.source.2 = false)
      (settled : Settled P start s.sourceDone s.processor (events ++ dueOfSink asked s.sink.2))
      (near : Near P start call events) : Stands call (.inSink use (asked, rest)) s events
  /-- The sink wants more, and is asked whether anybody waits. -/
  | polling {rest : υ} {s : WatchedState σ π κ} {events : List Event}
      (idle : s.source.2 = false) (going : s.sourceDone = false)
      (settled : Settled P start s.sourceDone s.processor (events ++ dueOfSink .poll s.sink.2))
      (wants : ∃ earlier, events ++ dueOfSink .poll s.sink.2
        = earlier ++ [.wants true, .sink (.asked .poll)]) :
      Stands .fetch (.inSink .polled (.poll, rest)) s events
  /-- The pipeline waits for the sink's peers. -/
  | getting {rest : υ} {s : WatchedState σ π κ} {events : List Event}
      (idle : s.source.2 = false) (origin : s.origin = .sink)
      (settled : Settled P start s.sourceDone s.processor (events ++ dueOfSink .get s.sink.2)) :
      Stands .fetch (.inSink .fetched (.get, rest)) s events
  /-- The source is read. -/
  | reading {rest : τ} {s : WatchedState σ π κ} {events : List Event}
      (idle : s.sink.2 = false) (going : s.sourceDone = false)
      (settled : Settled P start s.sourceDone s.processor
        (events ++ dueOfSource .next s.source.2)) :
      Stands .fetch (.inSource .fetched (.next, rest)) s events

def Answered (call : HookCall) (result : Except Error HookReply)
    (s : WatchedState σ π κ) (events : List Event) : Prop :=
  Idle s ∧ match call, result with
    | .fetch, .ok reply =>
      Holding P start reply.message s.sourceDone s.origin s.processor events
    | _, _ => Settled P start s.sourceDone s.processor events

def Comes (call : HookCall) (task : WatchedTask τ υ)
    (x : WatchedStep ω σ τ π κ υ) :
    Prop :=
  match x with
  | (.waiting _, s, (_, events)) => Stands P start call task s events
  | (.working rest, s, (_, events)) => Stands P start call rest s events
  | (.finished result, s, (_, events)) => Answered P start call result s events
  | (.panicked, s, (_, events)) => Idle s ∧ Settled P start s.sourceDone s.processor events

end Hooks

variable {A : Source ω σ τ} {P : Processor π} {B : Sink ω κ υ} {start : π}
  {s : WatchedState σ π κ} {w : ω} {events : List Event}

/-- When all is settled, any call may begin. -/
theorem Settled.near {done : Bool} {p : π} (settled : Settled P start done p events)
    (call : HookCall) : Near P start call events := Or.inl settled.passed

/-- When a message is held, the call that handles it may begin. -/
theorem Holding.near {m : Message} {done : Bool} {origin : Origin} {p : π}
    (holding : Holding P start m done origin p events) : Near P start m.handling events := by
  obtain ⟨earlier, htaken, hhanded, hp⟩ := holding.held
  refine Or.inr ⟨⟨m, rfl⟩, ?_⟩
  rw [htaken, List.dropLast_concat]
  exact hhanded

/-- How a message is handled: nothing is handed on and the hook is done, or what is to be handed on
goes to the source or to the sink. The end of the stream is sent with a check whether the pipeline
is done. -/
inductive Handled (A : Source ω σ τ) (P : Processor π) (B : Sink ω κ υ) (m : Message)
    (s : Pipeline σ π κ) (w : ω) : Stepped ω σ π κ τ υ → Prop where
  | dropped (p : π) (h : route P s.processor s.origin m = (none, p)) :
      Handled A P B m s w (answer (.ok {}) { s with processor := p } w)
  | refused (cause : Error) (p : π) (h : route P s.processor s.origin m = (none, p)) :
      Handled A P B m s w (answer (.error cause) { s with processor := p } w)
  | panicked (p : π) (h : route P s.processor s.origin m = (none, p)) :
      Handled A P B m s w (.panicked, { s with processor := p }, w)
  | toSource (call : SourceCall) (p : π)
      (h : route P s.processor s.origin m = (some (.toSource call), p))
      (about : (Event.source (.asked call)).handed? = some (.toSource call)) :
      Handled A P B m s w (askSource A .plain call { s with processor := p } w)
  | toSink (use : SinkUse) (call : SinkCall) (p : π)
      (h : route P s.processor s.origin m = (some (.toSink call), p))
      (checks : use = .checked ∨ use = .plain ∧ ∃ sent, call = .send sent ∧ sent.isEnd = false)
      (about : (Event.sink (.asked call)).handed? = some (.toSink call)) :
      Handled A P B m s w (askSink B use call { s with processor := p } w)

/-- Processing a message hands on what is made of it. -/
theorem handled_process (A : Source ω σ τ) (P : Processor π) (B : Sink ω κ υ) {m : Message}
    (hkind : m.kind = .process) (s : Pipeline σ π κ) (w : ω) :
    Handled A P B m s w (process P B m s w) := by
  unfold process
  rcases happly : P.apply m s.processor with ⟨result, p⟩
  cases result with
  | error fault =>
    have hroute : route P s.processor s.origin m = (none, p) := by
      simp only [route, hkind, happly]
    cases fault with
    | error cause => exact .refused cause p hroute
    | panic => exact .panicked p hroute
  | ok output =>
    by_cases hignore : output.kind = .ignore
    · simp only [if_pos hignore]
      exact .dropped p (by simp only [route, hkind, happly, if_pos hignore])
    · simp only [if_neg hignore]
      have notEnd : output.isEnd = false := by
        rw [Message.isEnd, (apply_kind happly).resolve_right hignore]
        rfl
      exact .toSink .plain (.send output) p
        (by simp only [route, hkind, happly, if_neg hignore]) (.inr ⟨rfl, output, rfl, notEnd⟩) rfl

/-- A message of a kind without a hook of its own is handed on to the sink. -/
theorem handled_other (A : Source ω σ τ) (P : Processor π) (B : Sink ω κ υ) {m : Message}
    (hook : m.kind.hook = .other) (forwarded : m.kind ≠ .ignore) (s : Pipeline σ π κ) (w : ω)
    (hroute : route P s.processor s.origin m = (some (.toSink (.send m)), s.processor)) :
    Handled A P B m s w (dispatch A P B .other m s w) := by
  have notEnd : m.isEnd = false := by
    rw [Message.isEnd, beq_eq_false_iff_ne]
    intro isEnd
    rw [isEnd] at hook
    cases hook
  simp only [dispatch, Hook.forwarded?, ne_eq, forwarded, not_false_eq_true, and_self, if_true]
  exact .toSink .plain (.send m) s.processor hroute (.inr ⟨rfl, m, rfl, notEnd⟩) rfl

/-- Handling a message hands on what belongs to its kind. -/
theorem handled_dispatch (A : Source ω σ τ) (P : Processor π) (B : Sink ω κ υ) (m : Message)
    (s : Pipeline σ π κ) (w : ω) : Handled A P B m s w (dispatch A P B m.kind.hook m s w) := by
  -- One case for each kind.
  cases hkind : m.kind with
  | process => exact handled_process A P B hkind s w
  | exitRequest => exact .dropped s.processor (by simp only [route, hkind])
  | ignore =>
    simp only [Kind.hook, dispatch, Hook.forwarded?, hkind, ne_eq, not_true, and_false, if_false]
    exact .dropped s.processor (by simp only [route, hkind])
  | endOfStream =>
    simp only [Kind.hook, dispatch]
    cases horigin : s.origin with
    | sink => exact .dropped s.processor (by simp [route, hkind, horigin])
    | source =>
      exact .toSink .checked (.send m) s.processor (by simp [route, hkind, horigin]) (.inl rfl) rfl
  | registration =>
    simp only [Kind.hook, dispatch]
    cases hid : m.identity with
    | error cause => exact .refused cause s.processor (by simp only [route, hkind, hid])
    | ok id =>
      cases horigin : s.origin with
      | source =>
        exact .toSource (.register id) s.processor (by simp only [route, hkind, hid, horigin]) rfl
      | sink =>
        exact .toSink .checked (.register id) s.processor
          (by simp only [route, hkind, hid, horigin]) (.inl rfl) rfl
  | unregistration =>
    simp only [Kind.hook, dispatch]
    cases hid : m.identity with
    | error cause => exact .refused cause s.processor (by simp only [route, hkind, hid])
    | ok id =>
      cases horigin : s.origin with
      | source =>
        exact .toSource (.unregister id) s.processor
          (by simp only [route, hkind, hid, horigin]) rfl
      | sink =>
        exact .toSink .checked (.unregister id) s.processor
          (by simp only [route, hkind, hid, horigin]) (.inl rfl) rfl
  | dataRequest =>
    simp only [Kind.hook, dispatch]
    cases hid : m.identity with
    | error cause => exact .refused cause s.processor (by simp only [route, hkind, hid])
    | ok id =>
      exact .toSink .checked (.request id) s.processor (by simp only [route, hkind, hid])
        (.inl rfl) rfl
  | barrier | other code =>
    refine handled_other A P B (by rw [hkind]; rfl) ?_ s w ?_
    · rw [hkind]
      intro h
      cases h
    · simp only [route, hkind]

section Begin

variable {call : HookCall} {task : WatchedTask τ υ} {use : SourceUse}

theorem comes_askSource {asked : SourceCall} (noFetch : call ≠ .fetch) (noMessage : use ≠ .fetched)
    (noNext : asked ≠ .next) (idle : Idle s)
    (settled : Settled P start s.sourceDone s.processor (events ++ [.source (.asked asked)]))
    (near : Near P start call events) :
    Comes P start call task
      (askSource (A.noted fun note => [.source note]) use asked s (w, events)
        : WatchedStep ω σ τ π κ υ) := by
  refine Stands.inSource noFetch noMessage noNext idle.2 ?_ near
  rw [dueOfSource, idle.1]
  exact settled

theorem comes_askSink {use : SinkUse} {asked : SinkCall} (noFetch : call ≠ .fetch)
    (noMessage : use = .plain ∨ use = .checked) (noPoll : asked ≠ .poll) (noGet : asked ≠ .get)
    (idle : Idle s)
    (settled : Settled P start s.sourceDone s.processor (events ++ [.sink (.asked asked)]))
    (near : Near P start call events) :
    Comes P start call task
      (askSink (B.noted (fun note => [.sink note]) fun more => [.wants more]) use asked s
        (w, events) : WatchedStep ω σ τ π κ υ) := by
  refine Stands.inSink noFetch noMessage noPoll noGet idle.1 ?_ near
  rw [dueOfSink, idle.2]
  exact settled

theorem comes_fetch (idle : Idle s) (settled : Settled P start s.sourceDone s.processor events) :
    Comes P start .fetch task
      (fetch (B.noted (fun note => [.sink note]) fun more => [.wants more]) s (w, events)
        : WatchedStep ω σ τ π κ υ) := by
  unfold fetch
  split
  · refine Stands.getting idle.1 rfl ?_
    rw [dueOfSink, show s.sink.2 = false from idle.2]
    exact settled.other rfl rfl (by nofun)
  · next hdone =>
    have hdone : s.sourceDone = false := Bool.eq_false_iff.2 hdone
    -- That the sink wants more is written down, and then it is asked.
    rcases hmine : B.wantsInput s.sink.1 w with ⟨wants, sink, w'⟩
    have hwants : (B.noted (fun note => [Event.sink note]) fun more => [.wants more]).wantsInput
        s.sink (w, events) = (wants, (sink, s.sink.2), (w', events ++ [.wants wants])) := by
      simp only [Sink.noted, hmine]
    rw [hwants]
    have asked : ∀ asked : SinkCall, (Event.sink (.asked asked)).handed? = none →
        Settled P start s.sourceDone s.processor
          (events ++ [.wants wants] ++ [.sink (.asked asked)]) := fun asked silent =>
      (settled.other rfl rfl (by nofun)).other rfl silent (by nofun)
    cases wants with
    | true =>
      refine Stands.polling idle.1 hdone ?_ ⟨events, ?_⟩
      · show Settled _ _ _ _ (_ ++ Service.due _ _ s.sink.2)
        rw [show s.sink.2 = false from idle.2]
        exact asked .poll rfl
      · show _ ++ Service.due _ _ s.sink.2 = _
        rw [show s.sink.2 = false from idle.2]
        exact List.append_assoc _ _ _
    | false =>
      refine Stands.getting idle.1 rfl ?_
      show Settled _ _ _ _ (_ ++ Service.due _ _ s.sink.2)
      rw [show s.sink.2 = false from idle.2]
      exact asked .get rfl

theorem comes_dispatch {m : Message} (idle : Idle s)
    (holding : Holding P start m s.sourceDone s.origin s.processor events) :
    Comes P start m.handling task
      (dispatch (A.noted fun note => [.source note]) P
        (B.noted (fun note => [.sink note]) fun more => [.wants more]) m.kind.hook m s (w, events)
        : WatchedStep ω σ τ π κ υ) := by
  have handled := handled_dispatch (A.noted fun note => [Event.source note]) P
    (B.noted (fun note => [Event.sink note]) fun more => [.wants more]) m s (w, events)
  generalize dispatch (A.noted fun note => [.source note]) P
    (B.noted (fun note => [.sink note]) fun more => [.wants more]) m.kind.hook m s (w, events)
      = stepped at handled
  cases handled with
  | dropped p h | refused cause p h | panicked p h =>
    have := holding.drop (congrArg Prod.fst h)
    rw [h] at this
    exact ⟨idle, this⟩
  | toSource asked p h about =>
    have := holding.pass (congrArg Prod.fst h) about rfl
    rw [h] at this
    refine comes_askSource (by nofun) (by nofun) ?_ idle this holding.near
    rintro rfl
    cases about
  | toSink use asked p h checks about =>
    have := holding.pass (congrArg Prod.fst h) about rfl
    rw [h] at this
    refine comes_askSink (by nofun) (checks.symm.imp_left And.left) ?_ ?_ idle this holding.near
    · rintro rfl
      cases about
    · rintro rfl
      cases about

theorem comes_begin (idle : Idle s) (fresh : Fresh P start call s events) :
    Comes P start call task
      (begin (A.noted fun note => [.source note]) P
        (B.noted (fun note => [.sink note]) fun more => [.wants more]) call s (w, events)
        : WatchedStep ω σ τ π κ υ) := by
  cases call with
  | fetch => exact comes_fetch idle fresh
  | send m => exact absurd fresh id
  | dispatch hook m running =>
    obtain ⟨hcall, holding⟩ := fresh
    obtain ⟨rfl, -, -⟩ := HookCall.dispatch.inj hcall
    rw [hcall]
    exact comes_dispatch idle holding
  | connectSink | disconnectSink =>
    have settled : Settled P start s.sourceDone s.processor events := fresh
    exact comes_askSink (by nofun) (.inl rfl) (by nofun) (by nofun) idle
      (settled.other rfl rfl (by nofun)) (settled.near _)
  | connectSource | disconnectSource | release =>
    have settled : Settled P start s.sourceDone s.processor events := fresh
    exact comes_askSource (by nofun) (by nofun) (by nofun) idle
      (settled.other rfl rfl (by nofun)) (settled.near _)

/-- The hook is done with an answer that is no message. -/
theorem comes_answer {result : Except Error HookReply} (noFetch : call ≠ .fetch) (idle : Idle s)
    (settled : Settled P start s.sourceDone s.processor events) :
    Comes P start call task (answer result s (w, events) : WatchedStep ω σ τ π κ υ) := by
  refine ⟨idle, ?_⟩
  split
  · exact absurd rfl noFetch
  · exact settled

theorem comes_afterSource {asked : SourceCall} {result : Except Error Reply}
    (noFetch : call ≠ .fetch) (noMessage : use ≠ .fetched) (noNext : asked ≠ .next) (idle : Idle s)
    (settled : Settled P start s.sourceDone s.processor events) :
    Comes P start call task
      (afterSource (B.noted (fun note => [.sink note]) fun more => [.wants more]) use result s
        (w, events ++ [.source (.answered asked result)]) : WatchedStep ω σ τ π κ υ) := by
  have answered := settled.other (Event.taken?_source noNext result) rfl (by nofun)
  cases use with
  | fetched => exact absurd rfl noMessage
  | plain =>
    cases result with
    | error cause => exact comes_answer noFetch idle answered
    | ok reply => exact comes_answer noFetch idle answered
  | released =>
    exact comes_askSink noFetch (.inl rfl) (by nofun) (by nofun) idle
      (answered.other rfl rfl (by nofun)) (answered.near call)

theorem comes_afterSink {use : SinkUse} {asked : SinkCall} {result : Except Error Reply}
    (noFetch : call ≠ .fetch) (noMessage : use = .plain ∨ use = .checked) (noPoll : asked ≠ .poll)
    (noGet : asked ≠ .get) (idle : Idle s)
    (settled : Settled P start s.sourceDone s.processor events) :
    Comes P start call task
      (afterSink (A.noted fun note => [.source note])
        (B.noted (fun note => [.sink note]) fun more => [.wants more]) use result s
        (w, events ++ [.sink (.answered asked result)]) : WatchedStep ω σ τ π κ υ) := by
  have answered := settled.other (Event.taken?_sink noPoll noGet result) rfl (by nofun)
  rcases noMessage with rfl | rfl <;> cases result <;> exact comes_answer noFetch idle answered

/-- The sink has said whether one of its peers waits. -/
theorem comes_polled {result : Except Error Reply} (idle : Idle s) (going : s.sourceDone = false)
    (settled : Settled P start s.sourceDone s.processor events)
    (wants : ∃ earlier, events = earlier ++ [.wants true, .sink (.asked .poll)]) :
    Comes P start .fetch task
      (afterSink (A.noted fun note => [.source note])
        (B.noted (fun note => [.sink note]) fun more => [.wants more]) .polled result s
        (w, events ++ [.sink (.answered .poll result)]) : WatchedStep ω σ τ π κ υ) := by
  cases result with
  | error cause => exact ⟨idle, settled.other rfl rfl (by nofun)⟩
  | ok reply =>
    cases reply with
    | some m => exact ⟨idle, settled.hold rfl rfl (settled.taken_sink rfl)⟩
    | none =>
      -- Nobody waits: this is when the source is read.
      obtain ⟨earlier, rfl⟩ := wants
      refine Stands.reading idle.2 going ?_
      rw [going] at settled ⊢
      rw [dueOfSource, idle.1]
      exact (settled.other rfl rfl (by nofun)).read ⟨earlier, List.append_assoc _ _ _⟩

theorem comes_got {result : Except Error Reply} (idle : Idle s) (origin : s.origin = .sink)
    (settled : Settled P start s.sourceDone s.processor events) :
    Comes P start .fetch task
      (afterSink (A.noted fun note => [.source note])
        (B.noted (fun note => [.sink note]) fun more => [.wants more]) .fetched result s
        (w, events ++ [.sink (.answered .get result)]) : WatchedStep ω σ τ π κ υ) := by
  cases result with
  | error cause => exact ⟨idle, settled.other rfl rfl (by nofun)⟩
  | ok reply =>
    have holding : Holding P start (reply.getD .ignore) s.sourceDone .sink s.processor
        (events ++ [.sink (.answered .get (.ok reply))]) :=
      settled.hold rfl rfl (settled.taken_sink rfl)
    rw [← origin] at holding
    exact ⟨idle, holding⟩

theorem comes_read {result : Except Error Reply} (idle : Idle s) (going : s.sourceDone = false)
    (settled : Settled P start s.sourceDone s.processor events) :
    Comes P start .fetch task
      (afterSource (B.noted (fun note => [.sink note]) fun more => [.wants more]) .fetched result s
        (w, events ++ [.source (.answered .next result)]) : WatchedStep ω σ τ π κ υ) := by
  cases result with
  | error cause => exact ⟨idle, settled.other rfl rfl (by nofun)⟩
  | ok reply =>
    rw [going] at settled
    have holding : Holding P start (reply.getD .ignore) (reply.getD .ignore).isEnd .source
        s.processor (events ++ [.source (.answered .next (.ok reply))]) :=
      settled.hold rfl rfl (settled.taken_source rfl)
    refine ⟨idle, ?_⟩
    show Holding P start _ (s.sourceDone || _) _ _ _
    rw [going, Bool.false_or]
    exact holding

/-- The source goes on with a call, or answers it, or breaks down. -/
theorem comes_inSource {asked : SourceCall} {rest : τ} (idle : s.sink.2 = false)
    (settled : Settled P start s.sourceDone s.processor (events ++ dueOfSource asked s.source.2))
    (stays : ∀ (rest : τ) (source : σ),
      Stands P start call (.inSource use (asked, rest) : WatchedTask τ υ)
        { s with source := (source, true) } (events ++ dueOfSource asked s.source.2))
    (goes : ∀ result source w', Comes P start call task
      (afterSource (B.noted (fun note => [.sink note]) fun more => [.wants more]) use result
        { s with source := (source, false) }
        (w', events ++ dueOfSource asked s.source.2 ++ [.source (.answered asked result)])
        : WatchedStep ω σ τ π κ υ)) (htask : task = .inSource use (asked, rest)) :
    Comes P start call task ((watched A P B).step task s (w, events)) := by
  subst htask
  have noted := A.toService.noted_step (fun note => [Event.source note]) asked rest s.source
    (w, events)
  simp only [watched, strategy, step]
  change Service.Noted _ _ _ _ ((A.noted _).step (asked, rest) s.source (w, events)) at noted
  generalize (A.noted _).step (asked, rest) s.source (w, events) = stepped at noted ⊢
  cases noted with
  | waiting until? source w' => exact stays rest source
  | working rest source w' => exact stays rest source
  | finished result source w' => exact goes result source w'
  | panicked source w' => exact ⟨⟨rfl, idle⟩, settled⟩

/-- The sink goes on with a call, or answers it, or breaks down. -/
theorem comes_inSink {use : SinkUse} {asked : SinkCall} {rest : υ} (idle : s.source.2 = false)
    (settled : Settled P start s.sourceDone s.processor (events ++ dueOfSink asked s.sink.2))
    (stays : ∀ (rest : υ) (sink : κ),
      Stands P start call (.inSink use (asked, rest) : WatchedTask τ υ)
        { s with sink := (sink, true) } (events ++ dueOfSink asked s.sink.2))
    (goes : ∀ result sink w', Comes P start call task
      (afterSink (A.noted fun note => [.source note])
        (B.noted (fun note => [.sink note]) fun more => [.wants more]) use result
        { s with sink := (sink, false) }
        (w', events ++ dueOfSink asked s.sink.2 ++ [.sink (.answered asked result)])
        : WatchedStep ω σ τ π κ υ)) (htask : task = .inSink use (asked, rest)) :
    Comes P start call task ((watched A P B).step task s (w, events)) := by
  subst htask
  have noted := B.toService.noted_step (fun note => [Event.sink note]) asked rest s.sink (w, events)
  simp only [watched, strategy, step]
  change Service.Noted _ _ _ _
    ((B.noted _ fun more => [Event.wants more]).step (asked, rest) s.sink (w, events)) at noted
  generalize (B.noted _ fun more => [Event.wants more]).step (asked, rest) s.sink (w, events)
    = stepped at noted ⊢
  cases noted with
  | waiting until? sink w' => exact stays rest sink
  | working rest sink w' => exact stays rest sink
  | finished result sink w' => exact goes result sink w'
  | panicked sink w' => exact ⟨⟨idle, rfl⟩, settled⟩

/-- Whatever the source and the sink do in a step, the pipeline goes on as it should. -/
theorem comes_step (stands : Stands P start call task s events) (w : ω) :
    Comes P start call task ((watched A P B).step task s (w, events)) := by
  cases stands with
  | begin idle fresh => exact comes_begin idle fresh
  | inSource noFetch noMessage noNext idle settled near =>
    refine comes_inSource idle settled (fun rest source => ?_) (fun result source w' => ?_) rfl
    · refine .inSource noFetch noMessage noNext idle ?_ (settled.near call)
      rw [append_dueOfSource]
      exact settled
    · exact comes_afterSource noFetch noMessage noNext ⟨rfl, idle⟩ settled
  | inSink noFetch noMessage noPoll noGet idle settled near =>
    refine comes_inSink idle settled (fun rest sink => ?_) (fun result sink w' => ?_) rfl
    · refine .inSink noFetch noMessage noPoll noGet idle ?_ (settled.near call)
      rw [append_dueOfSink]
      exact settled
    · exact comes_afterSink noFetch noMessage noPoll noGet ⟨idle, rfl⟩ settled
  | polling idle going settled wants =>
    refine comes_inSink idle settled (fun rest sink => ?_) (fun result sink w' => ?_) rfl
    · refine .polling idle going ?_ ?_ <;> rw [append_dueOfSink]
      · exact settled
      · exact wants
    · exact comes_polled ⟨idle, rfl⟩ going settled wants
  | getting idle origin settled =>
    refine comes_inSink idle settled (fun rest sink => ?_) (fun result sink w' => ?_) rfl
    · refine .getting idle origin ?_
      rw [append_dueOfSink]
      exact settled
    · exact comes_got ⟨idle, rfl⟩ origin settled
  | reading idle going settled =>
    refine comes_inSource idle settled (fun rest source => ?_) (fun result source w' => ?_) rfl
    · refine .reading idle going ?_
      rw [append_dueOfSource]
      exact settled
    · exact comes_read ⟨rfl, idle⟩ going settled

end Begin

def Kept (P : Processor π) (start : π)
    (x : Element (WatchedState σ π κ) (WatchedTask τ υ)
      × List Event) : Prop :=
  match x.1.phase with
  | .created => Idle x.1.strategy
      ∧ Settled P start x.1.strategy.sourceDone x.1.strategy.processor x.2
  | .connectingSource task => Stands P start .connectSource task x.1.strategy x.2
  | .connectingSink task => Stands P start .connectSink task x.1.strategy x.2
  | .fetching task => Stands P start .fetch task x.1.strategy x.2
  | .dispatching m task => Stands P start m.handling task x.1.strategy x.2
  | .disconnectingSink _ task => Stands P start .disconnectSink task x.1.strategy x.2
  | .disconnectingSource _ task => Stands P start .disconnectSource task x.1.strategy x.2
  | .releasing _ task => Stands P start .release task x.1.strategy x.2
  | .over _ => Settled P start x.1.strategy.sourceDone x.1.strategy.processor x.2

section Run

variable {e : Element (WatchedState σ π κ) (WatchedTask τ υ)} {call : HookCall}
  {task : WatchedTask τ υ}

/-- What a step of a hook comes to, as it is told of elements. -/
theorem Comes.element {x : WatchedStep ω σ τ π κ υ} (comes : Comes P start call task x) :
    Element.Comes (fun call task s (w : ω × List Event) => Stands P start call task s w.2)
      (fun call result s w => Answered P start call result s w.2)
      (fun s w => Idle s ∧ Settled P start s.sourceDone s.processor w.2) call task x := by
  obtain ⟨progress, s, w, events⟩ := x
  cases progress <;> exact comes

/-- A pipeline that is at rest begins a hook that is about no message. -/
theorem Stands.of_rest (plain : call.about? = none) (idle : Idle s)
    (settled : Settled P start s.sourceDone s.processor events) :
    Stands P start call (.begin call : WatchedTask τ υ) s events := by
  refine .begin idle ?_
  cases call with
  | send m | dispatch hook m running => cases plain
  | _ => exact settled

/-- A pipeline is at rest when a hook has answered, unless a message was fetched. -/
theorem Answered.settled {result : Except Error HookReply}
    (noMessage : call = .fetch → ∃ cause, result = .error cause)
    (answered : Answered P start call result s events) :
    Idle s ∧ Settled P start s.sourceDone s.processor events := by
  obtain ⟨idle, settled⟩ := answered
  refine ⟨idle, ?_⟩
  cases call with
  | fetch =>
    obtain ⟨cause, rfl⟩ := noMessage rfl
    exact settled
  | _ => exact settled

theorem kept_goOn (kept : Kept P start (e, events)) (w : ω) :
    Kept P start (Element.goOn (watched A P B) (fun _ => []) (e, events) w) := by
  rw [Element.goOn_silent]
  by_cases isOver : ∃ outcome, e.phase = .over outcome
  · obtain ⟨outcome, isOver⟩ := isOver
    unfold Element.step
    simp only [isOver]
    exact kept
  · -- The pipeline goes on hook by hook.
    have follows : Element.Follows
        (fun call task s (w : ω × List Event) => Stands P start call task s w.2)
        (fun s w => Idle s ∧ Settled P start s.sourceDone s.processor w.2) e (w, events) := by
      obtain ⟨strategy, phase, stage, stats⟩ := e
      cases phase with
      | «over» outcome => exact absurd ⟨outcome, rfl⟩ isOver
      | _ => exact kept
    have next := Element.follows_step (S := watched A P B)
      (fun call result s (w : ω × List Event) => Answered P start call result s w.2)
      (fun call s w plain rests => .of_rest plain rests.1 rests.2)
      (fun reply s w answered => .begin answered.1 ⟨rfl, answered.2⟩)
      (fun call result s w noMessage answered => answered.settled noMessage)
      (fun call task stands => (comes_step stands w).element) follows
    generalize e.step (watched A P B) (w, events) = stepped at next
    obtain ⟨turn, ⟨strategy, phase, stage, stats⟩, w'⟩ := stepped
    cases phase with
    | «over» outcome => exact next.2
    | _ => exact next

/-- At any time what was written is sound, and everything has been handed on but for one message
that may still be handled. -/
theorem Stands.sound (stands : Stands P start call task s events) :
    (∃ done, Sound done events) ∧ Near P start call events := by
  -- Calls that are no message count for nothing.
  have undo : ∀ {done p more}, Settled P start done p (events ++ more) → taken more = [] →
      handed more = [] → (∃ done, Sound done events) ∧ Near P start call events := by
    intro done p more settled hquiet hsilent
    refine ⟨⟨done, settled.toSound.of_append⟩, Or.inl ?_⟩
    have hpassed := settled.passed
    rw [taken, handed, List.filterMap_append, List.filterMap_append] at hpassed
    rw [show List.filterMap Event.taken? more = [] from hquiet,
      show List.filterMap Event.handed? more = [] from hsilent, List.append_nil, List.append_nil]
      at hpassed
    exact hpassed
  cases stands with
  | begin idle fresh =>
    cases call with
    | dispatch hook m running =>
      obtain ⟨hcall, holding⟩ := fresh
      rw [hcall]
      exact ⟨⟨_, holding.toSound⟩, holding.near⟩
    | send m => exact absurd fresh id
    | fetch | connectSink | disconnectSink | connectSource | disconnectSource | release =>
      have settled : Settled P start s.sourceDone s.processor events := fresh
      exact ⟨⟨_, settled.toSound⟩, settled.near _⟩
  | inSource noFetch noMessage noNext idle settled near =>
    exact ⟨⟨_, settled.toSound.of_append⟩, near⟩
  | inSink noFetch noMessage noPoll noGet idle settled near =>
    exact ⟨⟨_, settled.toSound.of_append⟩, near⟩
  | polling idle going settled wants =>
    exact undo settled (by cases s.sink.2 <;> rfl) (by cases s.sink.2 <;> rfl)
  | getting idle origin settled =>
    exact undo settled (by cases s.sink.2 <;> rfl) (by cases s.sink.2 <;> rfl)
  | reading idle going settled =>
    exact undo settled (by cases s.source.2 <;> rfl) (by cases s.source.2 <;> rfl)

/-- What the events of a pipeline say. -/
structure Routed (P : Processor π) (start : π) (handling : Prop) (events : List Event) : Prop where
  /-- The source is read in time only, and not after its end. -/
  reads : Reads events
  /-- After the source's end all messages come from the sink's peers. -/
  order : EndsOnce (taken events)
  /-- What was handed on is what is to be handed on, but for a message that is being handled. -/
  passed : handed events = (routes P start (taken events)).1
    ∨ handling ∧ handed events = (routes P start (taken events).dropLast).1
  /-- Nothing is sent that stands for having nothing to forward. -/
  noIgnore : ∀ m ∈ (handed events).filterMap Handed.sent?, m.kind ≠ .ignore
  oneEnd : ((handed events).filterMap Handed.sent?).countP Message.isEnd ≤ 1

/-- What is near a call is routed, with one message left if the call handles a message. -/
theorem Near.routed {done : Bool} (sound : Sound done events) (near : Near P start call events) :
    Routed P start (∃ m : Message, call = m.handling) events := by
  -- Either way, what was handed on are the routes of messages among which the source ends once.
  have ⟨messages, hmessages, order⟩ : ∃ messages, handed events = (routes P start messages).1
      ∧ EndsOnce messages := by
    rcases near with hpassed | ⟨-, hpassed⟩
    · exact ⟨_, hpassed, sound.order⟩
    · exact ⟨_, hpassed, List.Pairwise.sublist (List.dropLast_sublist _) sound.order⟩
  refine ⟨sound.reads, sound.order, near, ?_, ?_⟩
  · rw [hmessages]
    exact routes_noIgnore P start messages
  · rw [hmessages]
    exact Nat.le_trans (routes_ends P start messages) order.ends_le

theorem Routed.mono {handling handling' : Prop} (routed : Routed P start handling events)
    (h : handling → handling') : Routed P start handling' events :=
  { routed with passed := routed.passed.imp_right (And.imp_left h) }

/-- What was taken is routed, with one message left while it is handled. -/
theorem Kept.routed (kept : Kept P start (e, events)) :
    Routed P start (∃ m task, e.phase = .dispatching m task) events := by
  obtain ⟨strategy, phase, stage, stats⟩ := e
  -- But for the handling of a message no hook leaves anything open.
  have quiet : ∀ {call} {task : WatchedTask τ υ}, Stands P start call task strategy events →
      (∀ m : Message, call ≠ m.handling) → Routed P start False events := by
    intro call task stands noMessage
    obtain ⟨⟨done, sound⟩, near⟩ := stands.sound
    exact (near.routed sound).mono fun ⟨m, hm⟩ => noMessage m hm
  cases phase with
  | created =>
    exact ((kept.2.near .connectSource).routed kept.2.toSound).mono fun ⟨m, hm⟩ => by cases hm
  | «over» outcome =>
    have settled : Settled P start strategy.sourceDone strategy.processor events := kept
    exact ((settled.near .connectSource).routed settled.toSound).mono fun ⟨m, hm⟩ => by cases hm
  | dispatching m task =>
    have stands : Stands P start m.handling task strategy events := kept
    obtain ⟨⟨done, sound⟩, near⟩ := stands.sound
    exact (near.routed sound).mono fun _ => ⟨m, task, rfl⟩
  | connectingSource task | connectingSink task | fetching task | disconnectingSink failure task
  | disconnectingSource failure task | releasing outcome task =>
    exact (quiet kept (by nofun)).mono False.elim

end Run

/-- **A pipeline hands on what it takes.** Whatever the source, the processor and the sink do, and
whatever happens between their steps: the source is read only when the sink wants more and none of
its peers waits, and never after it has ended; each message goes to the source, to the sink or
nowhere as `routes` says, one after the other; and so the sink is sent nothing that is to be
ignored, and the end of the stream at most once. -/
theorem hands_on (A : Source ω σ τ) (P : Processor π) (B : Sink ω κ υ) (name : String) (source : σ)
    (start : π) (sink : κ) (worlds : List ω) :
    let life := Element.chronicle (watched A P B) (fun _ => [])
      { name, source := (source, false), processor := start, sink := (sink, false) } worlds
    life.1.map (Task.map Prod.snd Prod.snd) (map Prod.fst id Prod.fst)
      = Element.after (strategy A P B) { name, source, processor := start, sink } worlds
    ∧ Routed P start (∃ m task, life.1.phase = .dispatching m task) life.2 := by
  intro life
  have fresh : Settled P start false start [] := by
    refine ⟨⟨?_, List.Pairwise.nil, by nofun⟩, rfl, rfl⟩
    intro before after heq
    cases before <;> cases heq
  have kept : Kept P start life :=
    Element.chronicle_induction (P := fun e events => Kept P start (e, events))
      ⟨⟨rfl, rfl⟩, fresh⟩ (fun e events w kept => kept_goOn kept w) worlds
  exact ⟨Element.chronicle_shows (watched_shows A P B) _ _ worlds, kept.routed⟩

def saying : Source (Except Error Reply) Unit SourceCall where
  start call := call
  step _ s w := (.finished w, s, w)
  connector? _ := none

/-- The sink that answers what the world says, and always wants more. -/
def repeating : Sink (Except Error Reply) Unit SinkCall where
  start call := call
  step _ s w := (.finished w, s, w)
  connector? _ := none
  wantsInput s w := (true, s, w)
  isDrained _ _ := false

/-- The source yields a barrier, a peer says that the stream is over, and then the source ends. -/
theorem hands_on_rehearsal :
    let worlds : List (Except Error Reply) :=
      [.ok none, .ok none, .ok none, .ok none, .ok none,
        .ok none, .ok none, .ok (some (.barrier [])), .ok none, .ok none,
        .ok none, .ok (some .endOfStream), .ok none,
        .ok none, .ok none, .ok (some .endOfStream), .ok none, .ok none]
    let life := Element.chronicle (watched saying .passThrough repeating) (fun _ => [])
      { name := "", source := ((), false), processor := (), sink := ((), false) } worlds
    taken life.2 = [(.source, .barrier []), (.sink, .endOfStream), (.source, .endOfStream)]
    ∧ handed life.2 = [.toSink (.send (.barrier [])), .toSink (.send .endOfStream)]
    ∧ Routed .passThrough () (∃ m task, life.1.phase = .dispatching m task) life.2 := by
  intro worlds life
  exact ⟨rfl, rfl, (hands_on saying .passThrough repeating "" () () () worlds).2⟩

end Pipeline

end RecordFarm
