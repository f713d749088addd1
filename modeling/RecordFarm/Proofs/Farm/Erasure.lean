import RecordFarm.Proofs.Farm.Logs
import RecordFarm.Proofs.Farm.Runs
import RecordFarm.Proofs.Service.Views

/-!
# Logs change nothing

A part that keeps a log does step by step what it does without one: the log is all that is not seen
of it (`Source.logged_shows`, `Sink.logged_shows`). So does a pipeline of such parts, its element,
and the farm, and every run of a farm is what is seen of a run that keeps logs (`Farm.runs_logged`).
-/

namespace RecordFarm

variable {ω σ τ π κ υ : Type}

/-! ## Parts -/

/-- A source with a log beside it shows the source. -/
theorem Source.logged_shows (A : Source ω σ τ) :
    A.logged.toService.Shows A.toService Prod.snd Prod.fst id where
  start _ := rfl
  step := by
    rintro ⟨call, task⟩ ⟨s, log⟩ w
    simp only [Source.logged, id_eq]
    rcases A.step task s w with ⟨progress, s', w'⟩
    cases progress with
    | finished result =>
      cases result with
      | error cause => rfl
      | ok reply => cases reply <;> rfl
    | _ => rfl

theorem Sink.logged_shows (B : Sink ω κ υ) : B.logged.Shows B Prod.snd Prod.fst id where
  start _ := rfl
  step := by
    rintro ⟨call, task⟩ ⟨s, log⟩ w
    simp only [Sink.logged, id_eq]
    rcases B.step task s w with ⟨progress, s', w'⟩
    cases progress with
    | finished result => cases result <;> rfl
    | _ => rfl
  wantsInput _ _ := rfl
  isDrained _ _ := rfl

namespace Processor

/-- A processor with a log beside it projects to the processor. -/
theorem logged_projects (P : Processor π) : P.logged.Projects P Prod.fst := fun _ _ => rfl

end Processor

/-! ## Farms -/

namespace Farm

/-- The farm that does the same and keeps logs. -/
def Parts.logged (parts : Parts σ τ π κ υ) :
    Parts (σ × List Message) (SourceCall × τ) (π × List Bytes) (κ × List Message)
      (SinkCall × υ) where
  source := parts.source.logged
  processor := parts.processor.logged
  sink := parts.sink.logged

def bare (f : Farm (σ × List Message) (SourceCall × τ) (π × List Bytes) (κ × List Message)
    (SinkCall × υ)) : Farm σ τ π κ υ :=
  { f with
    distributor := f.distributor.map (Pipeline.Task.map Prod.snd id) (Pipeline.map Prod.fst id id)
    workers := f.workers.map (Element.map (Pipeline.Task.map id id) (Pipeline.map id Prod.fst id))
    collector := f.collector.map (Pipeline.Task.map id Prod.snd) (Pipeline.map id id Prod.fst) }

variable {parts : Parts σ τ π κ υ}

/-- A farm that keeps logs does what it does without them. -/
theorem stepAt_bare (f : Farm (σ × List Message) (SourceCall × τ) (π × List Bytes)
      (κ × List Message) (SinkCall × υ)) (place : Place) :
    (f.bare.stepAt parts place).2 = (f.stepAt parts.logged place).2.bare := by
  cases place with
  | distributor =>
    have hstrategy := Pipeline.strategy_shows (Source.logged_shows parts.source)
      (Processor.Projects.refl .passThrough) (Sink.Shows.refl Fanout.Dispenser.sink)
    have hstep := Element.step_shows hstrategy f.distributor f.net
    simp only [id_eq] at hstep
    simp only [stepAt, bare, distributorStrategy, Parts.logged, hstep]
    rfl
  | worker index =>
    have hstrategy := Pipeline.strategy_shows (Service.Shows.refl Fanout.Client.source.toService)
      (Processor.logged_projects parts.processor) (Sink.Shows.refl Fanin.Producer.sink)
    simp only [stepAt, bare, List.getElem?_map]
    cases f.workers[index]? with
    | none => rfl
    | some worker =>
      have hstep := Element.step_shows hstrategy worker f.net
      simp only [id_eq] at hstep
      simp only [Option.map_some, workerStrategy, Parts.logged, hstep, List.map_set]
      rfl
  | collector =>
    have hstrategy := Pipeline.strategy_shows (Service.Shows.refl Fanin.Collector.source.toService)
      (Processor.Projects.refl .passThrough) (Sink.logged_shows parts.sink)
    have hstep := Element.step_shows hstrategy f.collector f.net
    simp only [id_eq] at hstep
    simp only [stepAt, bare, collectorStrategy, Parts.logged, hstep]
    rfl

/-- Without their logs elements end as they do with them. -/
theorem ended_bare (f : Farm (σ × List Message) (SourceCall × τ) (π × List Bytes)
      (κ × List Message) (SinkCall × υ)) (place : Place) : f.bare.ended place = f.ended place := by
  cases place with
  | distributor =>
    simp only [ended, bare, Element.outcome?_map]
    rfl
  | worker index =>
    simp only [ended, bare, List.getElem?_map]
    cases f.workers[index]? with
    | none => rfl
    | some worker =>
      simp only [Option.map_some, Option.bind_some, Element.outcome?_map]
      rfl
  | collector =>
    simp only [ended, bare, Element.outcome?_map]
    rfl

/-- **Every run of a farm can keep logs.** -/
theorem runs_logged {f : Farm (σ × List Message) (SourceCall × τ) (π × List Bytes)
      (κ × List Message) (SinkCall × υ)} {g : Farm σ τ π κ υ} (runs : Runs parts f.bare g) :
    ∃ g', Runs parts.logged f g' ∧ g'.bare = g := by
  generalize hstart : f.bare = start at runs
  -- Induction on the run: the run with logs takes the same steps.
  induction runs with
  | none => exact ⟨f, .none f, hstart⟩
  | step _ place ih =>
    obtain ⟨g', runs', rfl⟩ := ih
    exact ⟨_, runs'.step place, (stepAt_bare g' place).symm⟩
  | elsewhere _ same join toAsk asking ih =>
    obtain ⟨g', runs', rfl⟩ := ih
    exact ⟨_, runs'.elsewhere same join toAsk asking, rfl⟩

end Farm

end RecordFarm
