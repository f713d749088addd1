import RecordFarm.Processor
import RecordFarm.Proofs.Farm.Lines
import RecordFarm.Proofs.Wire.Hop
import RecordFarm.Service

/-!
# Parts that keep a log

To say what went through the parts of a farm, each of them is made to write it down: a source logs
what it yields, a processor the records that it is given, and a sink the messages that it takes. A
part that keeps a log does exactly what it does without one.

This module also says what is asked of two of the parts: a processor that makes whole records
(`Processor.IsWhole`) and a sink without peers (`Sink.IsPlain`). What a call comes to may take many
steps, and the world may change between them; `Service.Serving` follows a call through them.
-/

namespace RecordFarm

variable {ω κ σ τ α : Type}

namespace Service

/-- In the middle of a call: the task that is left of it and the state of the server. -/
inductive Serving (A : Service ω κ σ τ α) (call : κ) : τ → σ → Prop where
  | start (s : σ) : A.Serving call (A.start call) s
  | working {task rest : τ} {s s' : σ} {w w' : ω} (now : A.Serving call task s)
      (step : A.step task s w = (.working rest, s', w')) : A.Serving call rest s'
  | waiting {task : τ} {s s' : σ} {w w' : ω} {until? : Option Nat} (now : A.Serving call task s)
      (step : A.step task s w = (.waiting until?, s', w')) : A.Serving call task s'

def Answers (A : Service ω κ σ τ α) (call : κ) (result : Except Error α) : Prop :=
  ∃ task s w s' w', A.Serving call task s ∧ A.step task s w = (.finished result, s', w')

end Service

def Source.logged (A : Source ω σ τ) : Source ω (σ × List Message) (SourceCall × τ) where
  start call := (call, A.start call)
  step := fun (call, task) (s, log) w =>
    match A.step task s w with
    | (.finished (.ok (some m)), s, w) =>
      (.finished (.ok (some m)), (s, if call = .next then log ++ [m] else log), w)
    | (progress, s, w) => (progress.mapTask fun rest => (call, rest), (s, log), w)
  connector? s := A.connector? s.1

def SourceCall.yielded : SourceCall → Except Error Reply → List Message
  | .next, .ok (some m) => [m]
  | _, _ => []

/-- What a step on a call comes to if the source keeps a log. -/
inductive Source.Logs (call : SourceCall) (log : List Message) :
    Progress (SourceCall × τ) Reply × (σ × List Message) × ω → Prop where
  | waiting (until? : Option Nat) (s : σ) (w : ω) : Logs call log (.waiting until?, (s, log), w)
  | working (rest : τ) (s : σ) (w : ω) : Logs call log (.working (call, rest), (s, log), w)
  | finished (result : Except Error Reply) (s : σ) (w : ω) :
      Logs call log (.finished result, (s, log ++ call.yielded result), w)
  | panicked (s : σ) (w : ω) : Logs call log (.panicked, (s, log), w)

/-- A step of a source is logged as the message that it gives, if it gives one. -/
theorem Source.logged_step (A : Source ω σ τ) (call : SourceCall) (task : τ)
    (s : σ × List Message) (w : ω) : Logs call s.2 (A.logged.step (call, task) s w) := by
  obtain ⟨s, log⟩ := s
  simp only [Source.logged]
  rcases A.step task s w with ⟨progress, s', w'⟩
  cases progress with
  | waiting until? => exact .waiting until? s' w'
  | working rest => exact .working rest s' w'
  | panicked => exact .panicked s' w'
  | finished result =>
    have finished : Logs call log ((.finished result : Progress (SourceCall × τ) Reply),
        (s', log ++ call.yielded result), w') := .finished result s' w'
    -- Whatever was answered, the log says what was yielded.
    rcases result with cause | _ | m <;> cases call <;>
      simpa [SourceCall.yielded, Progress.mapTask] using finished

def Processor.logged (P : Processor σ) : Processor (σ × List Bytes) where
  process := fun record (s, log) =>
    match P.process record s with
    | (result, s) => (result, (s, log ++ [record]))

def Sink.logged (B : Sink ω σ τ) : Sink ω (σ × List Message) (SinkCall × τ) where
  start call := (call, B.start call)
  step := fun (call, task) (s, log) w =>
    match B.step task s w with
    | (.finished (.ok reply), s, w) =>
      (.finished (.ok reply),
        (s, match call with
          | .send m => log ++ [m]
          | _ => log),
        w)
    | (progress, s, w) => (progress.mapTask fun rest => (call, rest), (s, log), w)
  connector? s := B.connector? s.1
  wantsInput := fun (s, log) w =>
    match B.wantsInput s w with
    | (wants, s, w) => (wants, (s, log), w)
  isDrained s w := B.isDrained s.1 w

/-- A sink without peers: nobody speaks to it, it always takes more and it owes nothing. It works by
itself: it leaves routers, pipes and addresses alone. -/
structure Sink.IsPlain (B : Sink Network σ τ) : Prop where
  apart : ∀ task s (net : Network), net.SameWires (B.step task s net).2.2
  silent : ∀ reply, B.Answers .poll (.ok reply) → reply = none
  eager : ∀ s net, B.wantsInput s net = (true, s, net)
  settled : ∀ s net, B.isDrained s net = true

/-- A step of the sink leaves router and pipe as they are. -/
theorem Sink.IsPlain.step_lines {B : Sink Network σ τ} (plain : B.IsPlain) {net : Network}
    {d c : String} {rn pn : Option Nat} {r : Router} {p : Pipe} (lines : Lines net d c rn pn r p)
    (task : τ) (s : σ) :
    ∃ progress s' net', B.step task s net = (progress, s', net') ∧ Lines net' d c rn pn r p :=
  ⟨_, _, _, rfl, lines.elsewhere (plain.apart task s net)⟩

def Processor.MakesWhole (P : Processor σ) (s : σ) : Prop :=
  ∀ record outputs s', Record.isWhole record = true → P.process record s = (.ok outputs, s') →
    ∀ output ∈ outputs, Record.isWhole output = true

/-- A processor that begins in `start` makes whole records of whole records. -/
def Processor.IsWhole (P : Processor σ) (start : σ) : Prop :=
  ∀ records outputs s, (∀ record ∈ records, Record.isWhole record = true) →
    P.run records start = (.ok outputs, s) → ∀ output ∈ outputs, Record.isWhole output = true

/-- A processor that began in `start` was given whole records, those in its log, and made these of
them. -/
structure Processor.Ran (P : Processor σ) (start : σ) (proc : σ × List Bytes)
    (made : List Bytes) : Prop where
  given : ∀ record ∈ proc.2, Record.isWhole record = true
  run : P.run proc.2 start = (.ok made, proc.1)

namespace Processor

theorem run_snoc {P : Processor σ} {records made outputs : List Bytes} {record : Bytes}
    {s s' s'' : σ} (h : P.run records s = (.ok made, s'))
    (hp : P.process record s' = (.ok outputs, s'')) :
    P.run (records ++ [record]) s = (.ok (made ++ outputs), s'') := by
  rw [run_append, h]
  simp only [run_singleton, hp]

/-- A processor that has run over some records runs over the next one. -/
theorem Ran.snoc {P : Processor σ} {start : σ} {proc : σ × List Bytes} {made outputs : List Bytes}
    {record : Bytes} {s : σ} (ran : P.Ran start proc made) (whole : Record.isWhole record = true)
    (h : P.process record proc.1 = (.ok outputs, s)) :
    P.Ran start (s, proc.2 ++ [record]) (made ++ outputs) := by
  refine ⟨fun r hr => ?_, run_snoc ran.run h⟩
  rcases List.mem_append.1 hr with hr | hr
  · exact ran.given r hr
  · rw [List.mem_singleton.1 hr]
    exact whole

/-- Wherever it got to, a processor makes whole records of a whole record. -/
theorem Ran.makesWhole {P : Processor σ} {start : σ} {proc : σ × List Bytes} {made : List Bytes}
    (ran : P.Ran start proc made) (whole : P.IsWhole start) : P.MakesWhole proc.1 := by
  intro record outputs s hrecord h output houtput
  -- What it makes of this record is the last of what it makes of all it was given.
  have next := ran.snoc hrecord h
  exact whole _ _ _ next.given next.run output (List.mem_append_right _ houtput)

/-- A processor that makes whole records in every state does so from the start. -/
theorem isWhole_of_makesWhole {P : Processor σ} (h : ∀ s, P.MakesWhole s) (start : σ) :
    P.IsWhole start := by
  intro records
  induction records generalizing start with
  | nil =>
    intro outputs s _ hrun
    cases hrun
    simp
  | cons record rest ih =>
    intro outputs s whole hrun output houtput
    rw [run] at hrun
    split at hrun
    · cases hrun
    · next made s' hmade =>
      have wholeMade := h start record made s' (whole record List.mem_cons_self) hmade
      split at hrun
      · next more s'' hmore =>
        have wholeMore := ih s' more s'' (fun r hr => whole r (List.mem_cons_of_mem _ hr)) hmore
        cases hrun
        rcases List.mem_append.1 houtput with houtput | houtput
        · exact wholeMade output houtput
        · exact wholeMore output houtput
      · cases hrun

/-- What a processor makes of one record is passed on as one message, unless it is nothing. -/
theorem apply_singleton {P : Processor σ} {record : Bytes} {s s' : σ}
    {result : Except Fault (List Bytes)} (whole : Record.isWhole record = true)
    (h : P.process record s = (result, s')) :
    P.apply (.process [record]) s
      = (result.map fun outputs => if outputs.isEmpty then .ignore else .process outputs, s') := by
  have hrecords : (Message.process [record]).records = .ok [record] :=
    Message.records_process (by simpa using whole)
  unfold apply
  simp only [hrecords, run_singleton, h]
  cases result with
  | error fault => rfl
  | ok outputs => cases outputs <;> rfl

/-- A processor logs the record that it processes. -/
theorem logged_process {P : Processor σ} {record : Bytes} {s s' : σ}
    {result : Except Fault (List Bytes)} (log : List Bytes)
    (h : P.process record s = (result, s')) :
    P.logged.process record (s, log) = (result, (s', log ++ [record])) := by
  simp only [logged, h]

theorem run_passThrough (records : List Bytes) :
    passThrough.run records () = (.ok records, ()) := by
  induction records with
  | nil => rfl
  | cons r rs ih =>
    rw [run]
    simp only [passThrough] at ih ⊢
    rw [ih]
    rfl

/-- The processor that keeps everything passes a message on with its records, unless it has none. -/
theorem apply_passThrough {m : Message} {records : List Bytes} (h : m.records = .ok records) :
    passThrough.apply m ()
      = (.ok (if records.isEmpty then .ignore else .process records), ()) := by
  unfold apply
  simp only [h, run_passThrough]
  cases records <;> rfl

end Processor

end RecordFarm
