import RecordFarm.Element
import RecordFarm.Network
/-!
# The push strategy

A pusher pushes what a source yields into a pipe whose writing end it binds. It takes no messages:
whoever wants the stream pulls from the pipe. When it closes it waits for the frames to be taken,
and gives up when none was taken for some time.
-/

namespace RecordFarm

/-- An element that pushes what a source yields; `σ` are the states of the source. -/
structure Pusher (σ : Type) where
  name : String
  uri : String
  source : σ
  push : Option PushSocket := none
  /-- How many messages were pushed. -/
  pushed : Nat := 0

namespace Pusher

inductive SourceUse where
  /-- It is the answer of the hook. -/
  | plain
  /-- It is the message that was fetched. -/
  | fetched
  /-- The socket is given up next. -/
  | released
  deriving DecidableEq, Repr

inductive Task (τ : Type) where
  | begin (call : HookCall)
  | inSource (use : SourceUse) (rest : τ)
  /-- These frames are to be pushed; after the end of the stream the element stops. -/
  | pushing (frames : Frames) (isLast : Bool)
  /-- The socket is closing, but first what was sent is to be taken. -/
  | lingering (push : PushSocket) (rest : PushSocket.Lingering)
  deriving DecidableEq, Repr

variable {σ τ : Type}

abbrev Stepped (σ τ : Type) := Progress (Task τ) HookReply × Pusher σ × Network

def answer (result : Except Error HookReply) (s : Pusher σ) (net : Network) : Stepped σ τ :=
  (.finished result, s, net)

def askSource (A : Source Network σ τ) (use : SourceUse) (call : SourceCall) (s : Pusher σ)
    (net : Network) : Stepped σ τ :=
  (.working (.inSource use (A.start call)), s, net)

def send (m : Message) (isLast : Bool) (s : Pusher σ) (net : Network) : Stepped σ τ :=
  match m.toFramesBatched with
  | .error cause => answer (.error cause) s net
  | .ok frames => (.working (.pushing frames isLast), s, net)

def dispatch (hook : Hook) (m : Message) (s : Pusher σ) (net : Network) : Stepped σ τ :=
  match hook with
  | .process => send m false s net
  | .endOfStream => send m true s net
  | .exit => answer (.ok {}) s net
  | .other =>
    match hook.forwarded? m with
    | none => answer (.ok {}) s net
    | some m => send m false s net
  | _ => answer (.error (Violation.pushOnly s.name m.kind)) s net

def begin (A : Source Network σ τ) (call : HookCall) (s : Pusher σ) (net : Network) :
    Stepped σ τ :=
  match call with
  | .connectSource => askSource A .plain .connect s net
  | .disconnectSource => askSource A .plain .disconnect s net
  | .fetch => askSource A .fetched .next s net
  | .release => askSource A .released .release s net
  | .connectSink =>
    match PushSocket.bind net s.uri with
    | .blocked => (.waiting none, s, net)
    | .failed cause => answer (.error cause) s net
    | .done push net => answer (.ok {}) { s with push := some push } net
  | .disconnectSink =>
    match s.push with
    | none => answer (.ok {}) s net
    | some push =>
      (.working (.lingering push (push.linger net.limits.linger net)), { s with push := none }, net)
  | .send m => send m false s net
  | .dispatch hook m _ => dispatch hook m s net

def afterSource (use : SourceUse) (result : Except Error Reply) (s : Pusher σ) (net : Network) :
    Stepped σ τ :=
  match use, result with
  | .released, _ =>
    match s.push with
    | none => answer (.ok {}) s net
    | some push => answer (.ok {}) { s with push := none } (push.close net)
  | _, .error cause => answer (.error cause) s net
  | .plain, .ok _ => answer (.ok {}) s net
  | .fetched, .ok reply => answer (.ok { message := reply.getD .ignore }) s net

def step (A : Source Network σ τ) (task : Task τ) (s : Pusher σ) (net : Network) :
    Stepped σ τ :=
  match task with
  | .begin call => begin A call s net
  | .inSource use rest =>
    match A.step rest s.source net with
    | (.waiting until?, source, net) => (.waiting until?, { s with source }, net)
    | (.working rest, source, net) => (.working (.inSource use rest), { s with source }, net)
    | (.finished result, source, net) => afterSource use result { s with source } net
    | (.panicked, source, net) => (.panicked, { s with source }, net)
  | .pushing frames isLast =>
    match s.push with
    | none => answer (.error (.notConnected s.uri)) s net
    | some push =>
      match push.send frames net with
      | .blocked => (.waiting none, s, net)
      | .failed cause => answer (.error cause) s net
      | .done () net => answer (.ok { stop := isLast }) { s with pushed := s.pushed + 1 } net
  | .lingering push rest =>
    match rest.next? push net.limits.linger net with
    | none => answer (.ok {}) s (push.close net)
    | some next =>
      if next = rest then (.waiting (some rest.deadline), s, net)
      else (.working (.lingering push next), s, net)

def strategy (A : Source Network σ τ) : Strategy Network (Pusher σ) (Task τ) where
  start := .begin
  step := step A
  name := Pusher.name
  connector? _ := none

end Pusher

end RecordFarm
