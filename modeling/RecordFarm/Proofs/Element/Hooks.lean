import RecordFarm.Proofs.Element.Course

/-!
# Elements hook by hook

What is known of a strategy may be told hook by hook: where it stands in the middle of one, what
holds when one has answered, and what holds when it rests between two of them (`Element.Follows`).
If each step of the strategy keeps to this, so does each step of the element
(`Element.follows_step`).
-/

namespace RecordFarm

variable {ω σ τ : Type}

def HookCall.about? : HookCall → Option Message
  | send m => some m
  | dispatch _ m _ => some m
  | _ => none

def Phase.hook? : Phase τ → Option (HookCall × τ)
  | .created => none
  | .connectingSource task => some (.connectSource, task)
  | .connectingSink task => some (.connectSink, task)
  | .fetching task => some (.fetch, task)
  | .dispatching m task => some (m.handling, task)
  | .disconnectingSink _ task => some (.disconnectSink, task)
  | .disconnectingSource _ task => some (.disconnectSource, task)
  | .releasing _ task => some (.release, task)
  | .over _ => none

namespace Element

section Hooks

variable (Stands : HookCall → τ → σ → ω → Prop)
  (Answered : HookCall → Except Error HookReply → σ → ω → Prop) (Rests : σ → ω → Prop)

/-- What a step of a hook comes to. -/
def Comes (call : HookCall) (task : τ) : Progress τ HookReply × σ × ω → Prop
  | (.waiting _, s, w) => Stands call task s w
  | (.working rest, s, w) => Stands call rest s w
  | (.finished result, s, w) => Answered call result s w
  | (.panicked, s, w) => Rests s w

/-- An element is where its strategy may be. -/
def Follows (e : Element σ τ) (w : ω) : Prop :=
  match e.phase.hook? with
  | none => Rests e.strategy w
  | some (call, task) => Stands call task e.strategy w

variable {Stands Rests} {S : Strategy ω σ τ}
  (begins : ∀ call s w, call.about? = none → Rests s w → Stands call (S.start call) s w)
  (handles : ∀ reply s w, Answered .fetch (.ok reply) s w →
    Stands reply.message.handling (S.start reply.message.handling) s w)
  (rests : ∀ call result s w, (call = .fetch → ∃ cause, result = .error cause) →
    Answered call result s w → Rests s w)

include begins in
theorem advance_follows {call : HookCall} {task : τ} {again : τ → Phase τ}
    {andThen : Except Error HookReply → Element σ τ → Element σ τ} {e : Element σ τ} {w : ω}
    (hphase : e.phase.hook? = some (call, task))
    (hagain : ∀ rest, (again rest).hook? = some (call, rest))
    (hthen : ∀ result s w', Answered call result s w' →
      Follows Stands Rests (andThen result { e with strategy := s }) w')
    (comes : Comes Stands Answered Rests call task (S.step task e.strategy w)) :
    Follows Stands Rests (advance S e w task again andThen).2.1
      (advance S e w task again andThen).2.2 := by
  unfold advance
  generalize S.step task e.strategy w = stepped at comes
  obtain ⟨progress, s, w'⟩ := stepped
  cases progress with
  | waiting until? =>
    unfold Follows
    simp only [hphase]
    exact comes
  | working rest =>
    unfold Follows
    simp only [hagain]
    exact comes
  | finished result => exact hthen result s w' comes
  | panicked => exact begins .release s w' rfl comes

include begins handles rests in
/-- **What the steps of a strategy keep to, the steps of its element keep to.** -/
theorem follows_step {e : Element σ τ} {w : ω}
    (steps : ∀ call task, Stands call task e.strategy w →
      Comes Stands Answered Rests call task (S.step task e.strategy w))
    (here : Follows Stands Rests e w) :
    Follows Stands Rests (e.step S w).2.1 (e.step S w).2.2 := by
  obtain ⟨strategy, phase, lifecycle, stats⟩ := e
  -- A hook other than `fetch` leaves the strategy at rest, and so does one that fails.
  have next : ∀ call' {call : HookCall} {result s w'}, call'.about? = none → call ≠ .fetch →
      Answered call result s w' → Stands call' (S.start call') s w' :=
    fun _ _ _ _ _ plain other answered =>
      begins _ _ _ plain (rests _ _ _ _ (absurd · other) answered)
  have failed : ∀ {call : HookCall} {cause s w'}, Answered call (.error cause) s w' →
      Stands .disconnectSink (S.start .disconnectSink) s w' :=
    fun answered => begins _ _ _ rfl (rests _ _ _ _ (fun _ => ⟨_, rfl⟩) answered)
  cases phase with
  | created => exact begins .connectSource strategy w rfl here
  | connectingSource task =>
    refine advance_follows Answered begins rfl (fun _ => rfl) (fun result s w' answered => ?_)
      (steps .connectSource task here)
    cases result with
    | error cause => exact failed answered
    | ok reply => exact next .connectSink rfl HookCall.noConfusion answered
  | connectingSink task =>
    refine advance_follows Answered begins rfl (fun _ => rfl) (fun result s w' answered => ?_)
      (steps .connectSink task here)
    cases result with
    | error cause => exact failed answered
    | ok reply => exact next .fetch rfl HookCall.noConfusion answered
  | fetching task =>
    refine advance_follows Answered begins rfl (fun _ => rfl) (fun result s w' answered => ?_)
      (steps .fetch task here)
    cases result with
    | error cause => exact failed answered
    | ok reply => exact handles reply s w' answered
  | dispatching m task =>
    refine advance_follows Answered begins rfl (fun _ => rfl) (fun result s w' answered => ?_)
      (steps m.handling task here)
    cases result with
    | error cause => exact failed answered
    | ok reply =>
      simp only
      split
      · exact next .disconnectSink rfl HookCall.noConfusion answered
      · exact next .fetch rfl HookCall.noConfusion answered
  | disconnectingSink failure task =>
    exact advance_follows Answered begins rfl (fun _ => rfl)
      (fun result s w' answered => next .disconnectSource rfl HookCall.noConfusion answered)
      (steps .disconnectSink task here)
  | disconnectingSource failure task =>
    exact advance_follows Answered begins rfl (fun _ => rfl)
      (fun result s w' answered => next .release rfl HookCall.noConfusion answered)
      (steps .disconnectSource task here)
  | releasing outcome task =>
    have comes := steps .release task here
    simp only [Element.step]
    generalize S.step task strategy w = stepped at comes
    obtain ⟨progress, s, w'⟩ := stepped
    cases progress with
    | waiting until? => exact comes
    | working rest => exact comes
    | finished result => exact rests .release result s w' HookCall.noConfusion comes
    | panicked => exact comes
  | «over» outcome => exact here

end Hooks

end Element

end RecordFarm
