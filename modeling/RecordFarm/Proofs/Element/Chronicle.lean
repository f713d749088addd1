import Mathlib.Data.List.Induction
import RecordFarm.Proofs.Service.Notes

/-!
# Elements among others

Between two steps of an element anything may happen to the world around it. So an element is
followed through any worlds, one for each of its steps (`Element.after`): whatever the others do,
and whatever it does to the world itself, is a choice of these. What a strategy writes down about
its hooks, and what others see of the element, make up its chronicle (`Element.chronicle`). -/

namespace RecordFarm

variable {ω σ σ' τ τ' ε : Type}

/-- What is written when an element has gone from one stage of its life to another. -/
def Lifecycle.news (before : Lifecycle) (tell : Lifecycle → List ε) (stage : Lifecycle) : List ε :=
  if stage = before then [] else tell stage

@[simp] theorem Lifecycle.news_self (tell : Lifecycle → List ε) (stage : Lifecycle) :
    stage.news tell stage = [] := if_pos rfl

namespace Element

/-- An element after as many steps as there are worlds, each step in its own. -/
def after (S : Strategy ω σ τ) (s : σ) (worlds : List ω) : Element σ τ :=
  worlds.foldl (fun e w => (e.step S w).2.1) { strategy := s }

/-- **Induction over steps.** -/
theorem after_induction {S : Strategy ω σ τ} {s : σ} {P : Element σ τ → Prop}
    (start : P { strategy := s }) (step : ∀ e w, P e → P (e.step S w).2.1) (worlds : List ω) :
    P (after S s worlds) := by
  induction worlds using List.reverseRecOn with
  | nil => exact start
  | append_singleton worlds w ih =>
    rw [after, List.foldl_append]
    exact step _ w ih

/-- Step by step, an element does what is seen of it. -/
theorem after_shows {S : Strategy ω σ τ} {S' : Strategy ω σ' τ'} {onTask : τ → τ'}
    {onState : σ → σ'} (h : S.toService.Shows S'.toService onTask onState id) (s : σ)
    (worlds : List ω) : (after S s worlds).map onTask onState = after S' (onState s) worlds := by
  induction worlds using List.reverseRecOn with
  | nil => rfl
  | append_singleton worlds w ih =>
    have hstep := step_shows h (after S s worlds) w
    rw [after, after, List.foldl_append, List.foldl_append]
    rw [ih] at hstep
    exact (congrArg (·.2.1) hstep).symm

def goOn (S : Strategy (ω × List ε) σ τ) (tell : Lifecycle → List ε) (x : Element σ τ × List ε)
    (w : ω) : Element σ τ × List ε :=
  match x.1.step S (w, x.2) with
  | (_, e, (_, events)) =>
    (e, events ++ x.1.lifecycle.news tell e.lifecycle)

/-- If no stages are written down, all that is added comes from the strategy. -/
theorem goOn_silent (S : Strategy (ω × List ε) σ τ) (x : Element σ τ × List ε) (w : ω) :
    goOn S (fun _ => []) x w = ((x.1.step S (w, x.2)).2.1, (x.1.step S (w, x.2)).2.2.2) := by
  simp only [goOn, Lifecycle.news, ite_self, List.append_nil]

/-- An element after as many steps as there are worlds, with all that was written. -/
def chronicle (S : Strategy (ω × List ε) σ τ) (tell : Lifecycle → List ε) (s : σ)
    (worlds : List ω) : Element σ τ × List ε :=
  worlds.foldl (goOn S tell) ({ strategy := s }, [])

/-- One world more is one step more, with its entries. -/
theorem chronicle_snoc (S : Strategy (ω × List ε) σ τ) (tell : Lifecycle → List ε) (s : σ)
    (worlds : List ω) (w : ω) :
    chronicle S tell s (worlds ++ [w]) = goOn S tell (chronicle S tell s worlds) w := by
  simp only [chronicle, List.foldl_append, List.foldl_cons, List.foldl_nil]

/-- **Induction over a chronicle.** -/
theorem chronicle_induction {S : Strategy (ω × List ε) σ τ} {tell : Lifecycle → List ε} {s : σ}
    {P : Element σ τ → List ε → Prop} (start : P { strategy := s } [])
    (step : ∀ e events w, P e events →
      P (goOn S tell (e, events) w).1 (goOn S tell (e, events) w).2)
    (worlds : List ω) :
    P (chronicle S tell s worlds).1 (chronicle S tell s worlds).2 := by
  induction worlds using List.reverseRecOn with
  | nil => exact start
  | append_singleton worlds w ih =>
    rw [chronicle_snoc]
    exact step _ _ w ih

/-- A chronicle is that of what the element does without it. -/
theorem chronicle_shows {S : Strategy (ω × List ε) σ τ} {S' : Strategy ω σ' τ'} {onTask : τ → τ'}
    {onState : σ → σ'} (h : S.toService.Shows S'.toService onTask onState Prod.fst)
    (tell : Lifecycle → List ε) (s : σ) (worlds : List ω) :
    (chronicle S tell s worlds).1.map onTask onState = after S' (onState s) worlds := by
  induction worlds using List.reverseRecOn with
  | nil => rfl
  | append_singleton worlds w ih =>
    have hstep := step_shows h (chronicle S tell s worlds).1 (w, (chronicle S tell s worlds).2)
    rw [chronicle_snoc, after, List.foldl_append]
    rw [ih] at hstep
    exact (congrArg (·.2.1) hstep).symm

end Element

end RecordFarm
