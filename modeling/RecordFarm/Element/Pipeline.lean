import RecordFarm.Element
import RecordFarm.Processor
/-!
# The pipeline strategy

A pipeline takes messages from a source, runs a processor over their records, and passes the
results to a sink. What the sink's peers say is served before the source is read, and the source
is not read at all while the sink wants no more input. Once the source has ended, only the sink
is served, until it is drained.

Source, processor and sink may be any; the pipeline is a function of them.
-/

namespace RecordFarm

/-- Where the message that is being handled came from. -/
inductive Origin where
  | source
  | sink
  deriving DecidableEq, Repr

/-- A pipeline: `σ`, `π` and `κ` are the states of its source, its processor and its sink. -/
structure Pipeline (σ π κ : Type) where
  name : String
  source : σ
  processor : π
  sink : κ
  /-- Whether the source has ended. -/
  sourceDone : Bool := false
  origin : Origin := .source

namespace Pipeline

inductive SourceUse where
  /-- It is the answer of the hook. -/
  | plain
  /-- It is the message that was fetched. -/
  | fetched
  /-- The sink is given up next. -/
  | released
  deriving DecidableEq, Repr

inductive SinkUse where
  /-- It is the answer of the hook. -/
  | plain
  /-- The pipeline may be done now. -/
  | checked
  /-- It is the message that was fetched, or else the source is asked for one. -/
  | polled
  /-- It is the message that was fetched. -/
  | fetched
  deriving DecidableEq, Repr

/-- What is left of a hook: `τ` and `υ` are the tasks of the source and the sink. -/
inductive Task (τ υ : Type) where
  | begin (call : HookCall)
  | inSource (use : SourceUse) (rest : τ)
  | inSink (use : SinkUse) (rest : υ)
  deriving DecidableEq, Repr

variable {ω σ π κ τ υ : Type}

abbrev Stepped (ω σ π κ τ υ : Type) := Progress (Task τ υ) HookReply × Pipeline σ π κ × ω

def answer (result : Except Error HookReply) (s : Pipeline σ π κ) (w : ω) :
    Stepped ω σ π κ τ υ :=
  (.finished result, s, w)

def askSource (A : Source ω σ τ) (use : SourceUse) (call : SourceCall) (s : Pipeline σ π κ)
    (w : ω) : Stepped ω σ π κ τ υ :=
  (.working (.inSource use (A.start call)), s, w)

def askSink (B : Sink ω κ υ) (use : SinkUse) (call : SinkCall) (s : Pipeline σ π κ) (w : ω) :
    Stepped ω σ π κ τ υ :=
  (.working (.inSink use (B.start call)), s, w)

/-- Whether the pipeline is done: the source has ended and the sink owes nothing. -/
def isDone (B : Sink ω κ υ) (s : Pipeline σ π κ) (w : ω) : Bool :=
  s.sourceDone && B.isDrained s.sink w

/-- Fetches the next message: from the sink's peers, or from the source if nobody spoke and the
sink takes more input. -/
def fetch (B : Sink ω κ υ) (s : Pipeline σ π κ) (w : ω) : Stepped ω σ π κ τ υ :=
  if s.sourceDone then askSink B .fetched .get { s with origin := .sink } w
  else
    match B.wantsInput s.sink w with
    | (true, sink, w) => askSink B .polled .poll { s with sink } w
    | (false, sink, w) => askSink B .fetched .get { s with sink, origin := .sink } w

/-- Passes on what the processor makes of a message. -/
def process (P : Processor π) (B : Sink ω κ υ) (m : Message) (s : Pipeline σ π κ) (w : ω) :
    Stepped ω σ π κ τ υ :=
  match P.apply m s.processor with
  | (.error .panic, processor) => (.panicked, { s with processor }, w)
  | (.error (.error cause), processor) => answer (.error cause) { s with processor } w
  | (.ok output, processor) =>
    if output.kind = .ignore then answer (.ok {}) { s with processor } w
    else askSink B .plain (.send output) { s with processor } w

def dispatch (A : Source ω σ τ) (P : Processor π) (B : Sink ω κ υ) (hook : Hook) (m : Message)
    (s : Pipeline σ π κ) (w : ω) : Stepped ω σ π κ τ υ :=
  match hook with
  | .process => process P B m s w
  | .exit => answer (.ok {}) s w
  | .endOfStream =>
    match s.origin with
    | .sink => answer (.ok {}) s w
    | .source => askSink B .checked (.send m) s w
  | .register =>
    match m.identity with
    | .error cause => answer (.error cause) s w
    | .ok id =>
      match s.origin with
      | .source => askSource A .plain (.register id) s w
      | .sink => askSink B .checked (.register id) s w
  | .unregister =>
    match m.identity with
    | .error cause => answer (.error cause) s w
    | .ok id =>
      match s.origin with
      | .source => askSource A .plain (.unregister id) s w
      | .sink => askSink B .checked (.unregister id) s w
  | .dataRequest =>
    match m.identity with
    | .error cause => answer (.error cause) s w
    | .ok id => askSink B .checked (.request id) s w
  | .other =>
    match hook.forwarded? m with
    | none => answer (.ok {}) s w
    | some m => askSink B .plain (.send m) s w

def begin (A : Source ω σ τ) (P : Processor π) (B : Sink ω κ υ) (call : HookCall)
    (s : Pipeline σ π κ) (w : ω) : Stepped ω σ π κ τ υ :=
  match call with
  | .connectSource => askSource A .plain .connect s w
  | .connectSink => askSink B .plain .connect s w
  | .disconnectSink => askSink B .plain .disconnect s w
  | .disconnectSource => askSource A .plain .disconnect s w
  | .release => askSource A .released .release s w
  | .send m => askSink B .plain (.send m) s w
  | .fetch => fetch B s w
  | .dispatch hook m _ => dispatch A P B hook m s w

def afterSource (B : Sink ω κ υ) (use : SourceUse) (result : Except Error Reply)
    (s : Pipeline σ π κ) (w : ω) : Stepped ω σ π κ τ υ :=
  match use, result with
  | .released, _ => askSink B .plain .release s w
  | _, .error cause => answer (.error cause) s w
  | .plain, .ok _ => answer (.ok {}) s w
  | .fetched, .ok reply =>
    let m := reply.getD .ignore
    answer (.ok { message := m })
      { s with origin := .source, sourceDone := s.sourceDone || m.isEnd } w

def afterSink (A : Source ω σ τ) (B : Sink ω κ υ) (use : SinkUse) (result : Except Error Reply)
    (s : Pipeline σ π κ) (w : ω) : Stepped ω σ π κ τ υ :=
  match use, result with
  | _, .error cause => answer (.error cause) s w
  | .plain, .ok _ => answer (.ok {}) s w
  | .checked, .ok _ => answer (.ok { stop := isDone B s w }) s w
  | .fetched, .ok reply => answer (.ok { message := reply.getD .ignore }) s w
  | .polled, .ok (some m) => answer (.ok { message := m }) { s with origin := .sink } w
  | .polled, .ok none => askSource A .fetched .next s w

def step (A : Source ω σ τ) (P : Processor π) (B : Sink ω κ υ) (task : Task τ υ)
    (s : Pipeline σ π κ) (w : ω) : Stepped ω σ π κ τ υ :=
  match task with
  | .begin call => begin A P B call s w
  | .inSource use rest =>
    match A.step rest s.source w with
    | (.waiting until?, source, w) => (.waiting until?, { s with source }, w)
    | (.working rest, source, w) => (.working (.inSource use rest), { s with source }, w)
    | (.finished result, source, w) => afterSource B use result { s with source } w
    | (.panicked, source, w) => (.panicked, { s with source }, w)
  | .inSink use rest =>
    match B.step rest s.sink w with
    | (.waiting until?, sink, w) => (.waiting until?, { s with sink }, w)
    | (.working rest, sink, w) => (.working (.inSink use rest), { s with sink }, w)
    | (.finished result, sink, w) => afterSink A B use result { s with sink } w
    | (.panicked, sink, w) => (.panicked, { s with sink }, w)

/-- The pipeline as a strategy. Somebody outside reaches it through the sink and through the
source, the sink first: a full inbox would hold up the sender. -/
def strategy (A : Source ω σ τ) (P : Processor π) (B : Sink ω κ υ) :
    Strategy ω (Pipeline σ π κ) (Task τ υ) where
  start := .begin
  step := step A P B
  name := Pipeline.name
  connector? s :=
    match B.connector? s.sink, A.connector? s.source with
    | some sink, some source => some (.all [sink, source])
    | some sink, none => some sink
    | none, source => source

end Pipeline

end RecordFarm
