import RecordFarm.Element.Push
import RecordFarm.Proofs.Farm.Stream
import RecordFarm.Proofs.Service.Views

/-!
# A pusher and its source

The source of a pusher is only ever in states that it comes to by the calls of the pusher
(`Pusher.reached_element`). A pusher whose source keeps a log does what it does without the log
(`Pusher.strategy_shows`).
-/

namespace RecordFarm

variable {σ σ' τ τ' : Type}

namespace Pusher

/-! ## Where the source may be -/

def Task.inSource? : Task τ → Option τ
  | .inSource _ rest => some rest
  | _ => none

/-- With this left to do, the source of a pusher is where it may be, if it began in `s₀`. -/
def Reached (A : Source Network σ τ) (s₀ : σ) (task : Option (Task (SourceCall × τ)))
    (s : Pusher (σ × List Message)) : Prop :=
  A.toService.Reached s₀ (task.bind Task.inSource?) s.source.1

def Stepped.Reached (A : Source Network σ τ) (s₀ : σ) (task : Task (SourceCall × τ))
    (x : Stepped (σ × List Message) (SourceCall × τ)) : Prop :=
  Pusher.Reached A s₀ (x.1.left task) x.2.1

variable {A : Source Network σ τ} {s₀ : σ} {s : Pusher (σ × List Message)} {net : Network}

theorem reached_send {task : Task (SourceCall × τ)} (m : Message) (isLast : Bool)
    (here : Reached A s₀ none s) : (send m isLast s net).Reached A s₀ task := by
  unfold send
  split <;> exact here

theorem reached_dispatch {task : Task (SourceCall × τ)} (hook : Hook) (m : Message)
    (here : Reached A s₀ none s) : (dispatch hook m s net).Reached A s₀ task := by
  unfold dispatch
  split
  · exact reached_send m false here
  · exact reached_send m true here
  · exact here
  · split
    · exact here
    · exact reached_send _ false here
  · exact here

theorem reached_begin (call : HookCall) (here : Reached A s₀ none s) :
    (begin A.logged call s net).Reached A s₀ (.begin call) := by
  cases call with
  | connectSource => exact here.call _
  | disconnectSource => exact here.call _
  | fetch => exact here.call _
  | release => exact here.call _
  | connectSink =>
    simp only [begin]
    split <;> exact here
  | disconnectSink =>
    simp only [begin]
    split <;> exact here
  | send m => exact reached_send m false here
  | dispatch hook m _ => exact reached_dispatch hook m here

theorem reached_afterSource {task : Task (SourceCall × τ)} (use : SourceUse)
    (result : Except Error Reply) (here : Reached A s₀ none s) :
    (afterSource use result s net).Reached A s₀ task := by
  cases use with
  | released =>
    simp only [afterSource]
    split <;> exact here
  | _ => cases result <;> exact here

/-- A step of a pusher leaves its source where it may be. -/
theorem reached_step {task : Task (SourceCall × τ)} (here : Reached A s₀ (some task) s) :
    (step A.logged task s net).Reached A s₀ task := by
  cases task with
  | begin call => exact reached_begin call here
  | inSource use rest =>
    obtain ⟨call, rest⟩ := rest
    have next := Service.Reached.step here net
    simp only [step, Source.logged]
    rcases hstep : A.step rest s.source.1 net with ⟨progress, source, net'⟩
    rw [hstep] at next
    cases progress with
    | finished result =>
      cases result with
      | error cause => exact reached_afterSource use _ next
      | ok reply => cases reply <;> exact reached_afterSource use _ next
    | _ => exact next
  | pushing frames isLast =>
    simp only [step]
    split
    · exact here
    · split <;> exact here
  | lingering push rest =>
    simp only [step]
    split
    · exact here
    · split <;> exact here

/-- **The source of a pusher never gets where it may not be.** -/
theorem reached_element {e : Element (Pusher (σ × List Message)) (Task (SourceCall × τ))}
    (here : Reached A s₀ e.phase.task? e.strategy) :
    Reached A s₀ (e.step (strategy A.logged) net).2.1.phase.task?
      (e.step (strategy A.logged) net).2.1.strategy :=
  Element.step_keeps (S := strategy A.logged) (I := Reached A s₀) (fun _ _ free => free)
    (fun _ _ _ now => reached_step now) here net

/-! ## What is seen of a pusher -/

def Task.map (onA : τ → τ') : Task τ → Task τ'
  | .begin call => .begin call
  | .inSource use rest => .inSource use (onA rest)
  | .pushing frames isLast => .pushing frames isLast
  | .lingering push rest => .lingering push rest

def map (ofA : σ → σ') (s : Pusher σ) : Pusher σ' := { s with source := ofA s.source }

def Stepped.map (onA : τ → τ') (ofA : σ → σ') (x : Stepped σ τ) : Stepped σ' τ' :=
  (x.1.mapTask (Task.map onA), x.2.1.map ofA, x.2.2)

variable {A : Source Network σ τ} {A' : Source Network σ' τ'} {onA : τ → τ'} {ofA : σ → σ'}
  (hA : A.toService.Shows A'.toService onA ofA id) (s : Pusher σ) (net : Network)

theorem send_map (m : Message) (isLast : Bool) :
    (send m isLast (s.map ofA) net : Stepped σ' τ') = (send m isLast s net).map onA ofA := by
  unfold send
  cases m.toFramesBatched <;> rfl

theorem dispatch_map (hook : Hook) (m : Message) :
    (dispatch hook m (s.map ofA) net : Stepped σ' τ') = (dispatch hook m s net).map onA ofA := by
  cases hook with
  | process => exact send_map s net m false
  | endOfStream => exact send_map s net m true
  | other =>
    simp only [dispatch]
    cases Hook.forwarded? .other m with
    | none => rfl
    | some m => exact send_map s net m false
  | _ => rfl

include hA in
theorem askSource_map (use : SourceUse) (call : SourceCall) :
    askSource A' use call (s.map ofA) net = (askSource A use call s net).map onA ofA := by
  unfold askSource
  rw [hA.start]
  rfl

include hA in
theorem begin_map (call : HookCall) :
    begin A' call (s.map ofA) net = (begin A call s net).map onA ofA := by
  cases call with
  | connectSource => exact askSource_map hA s net .plain .connect
  | disconnectSource => exact askSource_map hA s net .plain .disconnect
  | fetch => exact askSource_map hA s net .fetched .next
  | release => exact askSource_map hA s net .released .release
  | connectSink =>
    simp only [begin, show (s.map ofA).uri = s.uri from rfl]
    cases PushSocket.bind net s.uri <;> rfl
  | disconnectSink =>
    simp only [begin, show (s.map ofA).push = s.push from rfl]
    cases s.push <;> rfl
  | send m => exact send_map s net m false
  | dispatch hook m _ => exact dispatch_map s net hook m

theorem afterSource_map (use : SourceUse) (result : Except Error Reply) :
    (afterSource use result (s.map ofA) net : Stepped σ' τ')
      = (afterSource use result s net).map onA ofA := by
  cases use with
  | released =>
    simp only [afterSource, show (s.map ofA).push = s.push from rfl]
    cases s.push <;> rfl
  | _ => cases result <;> rfl

include hA in
/-- A pusher does what is done by the pusher of what is seen of its source. -/
theorem strategy_shows :
    (strategy A).toService.Shows (strategy A').toService (Task.map onA) (map ofA) id where
  start _ := rfl
  step := by
    intro task s net
    cases task with
    | begin call => exact begin_map hA s net call
    | inSource use rest =>
      have hstep := hA.step rest s.source net
      simp only [strategy, Task.map, step, show (s.map ofA).source = ofA s.source from rfl,
        show id net = net from rfl] at hstep ⊢
      rw [hstep]
      rcases A.step rest s.source net with ⟨progress, source, net'⟩
      cases progress with
      | finished result => exact afterSource_map { s with source } net' use result
      | _ => rfl
    | pushing frames isLast =>
      simp only [strategy, Task.map, step, show (s.map ofA).push = s.push from rfl]
      cases s.push with
      | none => rfl
      | some push =>
        simp only [id_eq]
        cases push.send frames net <;> rfl
    | lingering push rest =>
      simp only [strategy, Task.map, step, id_eq]
      cases rest.next? push net.limits.linger net with
      | none => rfl
      | some next =>
        simp only
        split <;> rfl

end Pusher

end RecordFarm
