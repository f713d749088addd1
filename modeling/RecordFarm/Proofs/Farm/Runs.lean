import RecordFarm.Farm.Basic
import RecordFarm.Proofs.Farm.Lines

/-!
# Runs of a farm

A farm runs by steps of its elements in any order. In between the time may pass, inboxes may be
filled by others, and whoever waits for the farm may look around. An element that has failed never
ends well, so a farm in which all elements end well is one in which none of them ever failed.
-/

namespace RecordFarm

def Outcome.isOk : Outcome → Bool
  | .returned (.ok _) => true
  | _ => false

inductive Phase.Failed {τ : Type} : Phase τ → Prop where
  | disconnectingSink (cause : Error) (task : τ) : Failed (.disconnectingSink (some cause) task)
  | disconnectingSource (cause : Error) (task : τ) :
      Failed (.disconnectingSource (some cause) task)
  | releasing {outcome : Outcome} (h : outcome.isOk = false) (task : τ) :
      Failed (.releasing outcome task)
  | over {outcome : Outcome} (h : outcome.isOk = false) : Failed (.over outcome)

namespace Element

variable {ω σ τ : Type}

theorem firstFailure_some {α : Type} (cause : Error) (result : Except Error α) :
    ∃ first, firstFailure (some cause) result = some first := by
  cases result with
  | ok _ => exact ⟨cause, rfl⟩
  | error other => exact ⟨cause, rfl⟩

/-- A failure is never forgotten. -/
theorem failed_step (S : Strategy ω σ τ) {e : Element σ τ} (w : ω) (h : e.phase.Failed) :
    (e.step S w).2.1.phase.Failed := by
  obtain ⟨strategy, phase, lifecycle, stats⟩ := e
  cases h with
  | disconnectingSink cause task =>
    simp only [step, advance]
    split
    · exact .disconnectingSink cause task
    · exact .disconnectingSink cause _
    · -- Of two failures the first is kept.
      next result _ _ _ =>
      obtain ⟨first, hfirst⟩ := firstFailure_some cause result
      rw [hfirst]
      exact .disconnectingSource first _
    · exact .releasing rfl _
  | disconnectingSource cause task =>
    simp only [step, advance]
    split
    · exact .disconnectingSource cause task
    · exact .disconnectingSource cause _
    · next result _ _ _ =>
      obtain ⟨first, hfirst⟩ := firstFailure_some cause result
      rw [hfirst]
      exact .releasing rfl _
    · exact .releasing rfl _
  | releasing h task =>
    simp only [step]
    split
    · exact .releasing h task
    · exact .releasing h _
    · exact .over h
  | «over» h => exact .over h

theorem not_failed_of_outcome {e : Element σ τ} {name : String} {stats : Stats}
    (h : e.outcome?.map (·.join name) = some (.ok stats)) : ¬ e.phase.Failed := by
  obtain ⟨strategy, phase, lifecycle, stats'⟩ := e
  intro failed
  cases failed with
  | disconnectingSink cause task => cases h
  | disconnectingSource cause task => cases h
  | releasing hout task => cases h
  | @«over» outcome hout =>
    cases outcome with
    | panicked => simp [outcome?, Outcome.join] at h
    | returned result =>
      cases result with
      | ok stats => cases hout
      | error cause => simp [outcome?, Outcome.join] at h

end Element

namespace Farm

variable {σ τ π κ υ : Type}

/-- One farm comes from another by steps of its elements, in any order. -/
inductive Runs (parts : Parts σ τ π κ υ) : Farm σ τ π κ υ → Farm σ τ π κ υ → Prop where
  | none (f : Farm σ τ π κ υ) : Runs parts f f
  | step {f g : Farm σ τ π κ υ} (runs : Runs parts f g) (place : Place) :
      Runs parts f (g.stepAt parts place).2
  /-- Something happens that is no part of the farm, or whoever waits for the farm looks around. -/
  | elsewhere {f g : Farm σ τ π κ υ} (runs : Runs parts f g) {net : Network}
      (same : g.net.SameWires net) (join : Join) (toAsk : List Place) (asking : Option Asking) :
      Runs parts f { g with net, join, toAsk, asking }

def stepsAt (parts : Parts σ τ π κ υ) (f : Farm σ τ π κ υ) (order : List Place) :
    Farm σ τ π κ υ :=
  order.foldl (fun f place => (f.stepAt parts place).2) f

theorem runs_stepsAt (parts : Parts σ τ π κ υ) {f g : Farm σ τ π κ υ} (runs : Runs parts f g)
    (order : List Place) : Runs parts f (g.stepsAt parts order) := by
  induction order generalizing g with
  | nil => exact runs
  | cons place order ih => exact ih (runs.step place)

def Doomed (f : Farm σ τ π κ υ) : Prop :=
  f.distributor.phase.Failed ∨ (∃ worker ∈ f.workers, worker.phase.Failed) ∨
    f.collector.phase.Failed

def EndedWell (f : Farm σ τ π κ υ) : Prop :=
  ∀ place ∈ places f.workers.length, ∃ stats, f.ended place = some (.ok stats)

instance (f : Farm σ τ π κ υ) : Decidable f.EndedWell :=
  decidable_of_iff
    (∀ place ∈ places f.workers.length, (f.ended place).any Except.isOk = true) <| by
    refine forall₂_congr fun place _ => ?_
    cases h : f.ended place with
    | none => simp
    | some result => cases result <;> simp [Except.isOk, Except.toBool]

/-- A farm with a failed element goes on to have one. -/
theorem doomed_stepAt (parts : Parts σ τ π κ υ) {f : Farm σ τ π κ υ} (doomed : f.Doomed)
    (place : Place) : (f.stepAt parts place).2.Doomed := by
  rcases doomed with failed | ⟨worker, hworker, failed⟩ | failed
  · cases place with
    | distributor => exact Or.inl (Element.failed_step _ _ failed)
    | worker index =>
      simp only [stepAt]
      split <;> exact Or.inl failed
    | collector => exact Or.inl failed
  · refine Or.inr (Or.inl ?_)
    cases place with
    | distributor => exact ⟨worker, hworker, failed⟩
    | worker index =>
      simp only [stepAt]
      split
      · exact ⟨worker, hworker, failed⟩
      · next other hother =>
        obtain ⟨i, hi, hget⟩ := List.mem_iff_getElem.1 hworker
        by_cases h : index = i
        · -- The failed worker itself takes the step.
          subst h
          rw [List.getElem?_eq_getElem hi, hget] at hother
          obtain rfl := Option.some.inj hother
          exact ⟨_, List.mem_set hi _, Element.failed_step _ _ failed⟩
        · refine ⟨worker, ?_, failed⟩
          rw [List.mem_iff_getElem]
          refine ⟨i, by rw [List.length_set]; exact hi, ?_⟩
          rw [List.getElem_set_ne h]
          exact hget
    | collector => exact ⟨worker, hworker, failed⟩
  · refine Or.inr (Or.inr ?_)
    cases place with
    | distributor => exact failed
    | worker index =>
      simp only [stepAt]
      split <;> exact failed
    | collector => exact Element.failed_step _ _ failed

/-- A farm that ended well was not bound to fail. -/
theorem not_doomed_of_endedWell {f : Farm σ τ π κ υ} (well : f.EndedWell) : ¬ f.Doomed := by
  rintro (failed | ⟨worker, hworker, failed⟩ | failed)
  · obtain ⟨stats, h⟩ := well .distributor (by simp [places])
    exact Element.not_failed_of_outcome h failed
  · obtain ⟨i, hi, hget⟩ := List.mem_iff_getElem.1 hworker
    obtain ⟨stats, h⟩ := well (.worker i) (by simp [places, hi])
    have hsome : f.workers[i]? = some worker := by rw [List.getElem?_eq_getElem hi, hget]
    simp only [ended, hsome, Option.bind_some] at h
    exact Element.not_failed_of_outcome h failed
  · obtain ⟨stats, h⟩ := well .collector (by simp [places])
    exact Element.not_failed_of_outcome h failed

/-- **Induction over runs.** What every step keeps or else dooms the farm, and what happens
elsewhere keeps, holds at the end of every run that ends well. -/
theorem runs_induction {parts : Parts σ τ π κ υ} {P : Farm σ τ π κ υ → Prop}
    (onStep : ∀ f place, P f → (f.stepAt parts place).2.Doomed ∨ P (f.stepAt parts place).2)
    (onElsewhere : ∀ (f : Farm σ τ π κ υ) (net : Network) (join : Join) (toAsk : List Place)
      (asking : Option Asking), P f → f.net.SameWires net → P { f with net, join, toAsk, asking })
    {f g : Farm σ τ π κ υ} (runs : Runs parts f g) (start : P f) (well : g.EndedWell) : P g := by
  have : g.Doomed ∨ P g := by
    clear well
    -- Once an element has failed nothing is claimed any more, up to the end.
    induction runs with
    | none => exact Or.inr start
    | step runs place ih =>
      rcases ih with doomed | holds
      · exact Or.inl (doomed_stepAt parts doomed place)
      · exact onStep _ place holds
    | elsewhere runs same join toAsk asking ih =>
      rcases ih with doomed | holds
      · exact Or.inl doomed
      · exact Or.inr (onElsewhere _ _ join toAsk asking holds same)
  rcases this with doomed | holds
  · exact absurd doomed (not_doomed_of_endedWell well)
  · exact holds

end Farm

end RecordFarm
