import RecordFarm.Fanin.Producer
import RecordFarm.Proofs.Farm.Lines
import RecordFarm.Proofs.Service.Session
import RecordFarm.Proofs.Wire.Unpacking

/-!
# What a producer says

Whoever holds a producer lets it connect, sends messages through it and lets it leave. Everything
that a producer pushes into the pipe can be read off the answers that it gave (`Story.said`): its
registration, then what arrives of the messages that it took, and its unregistration when it has
left. A step of a producer pushes the next of these words or leaves the network alone
(`Story.At.step`).
-/

namespace RecordFarm

namespace Fanin

/-- The kinds of messages that a producer is given to send. A code of no meaning must not be the
code of another kind. -/
inductive Sendable : Kind → Prop where
  | process : Sendable .process
  | barrier : Sendable .barrier
  | endOfStream : Sendable .endOfStream
  | other {code : UInt32} (unknown : Kind.ofCode code = .other code) : Sendable (.other code)

instance : DecidablePred Sendable
  | .process => isTrue .process
  | .barrier => isTrue .barrier
  | .endOfStream => isTrue .endOfStream
  | .other code =>
    decidable_of_iff (Kind.ofCode code = .other code) ⟨.other, fun (.other unknown) => unknown⟩
  | .registration => isFalse nofun
  | .unregistration => isFalse nofun
  | .exitRequest => isFalse nofun
  | .dataRequest => isFalse nofun
  | .ignore => isFalse nofun

theorem Sendable.ofCode {kind : Kind} (h : Sendable kind) : Kind.ofCode kind.code = kind := by
  cases h with
  | process => rfl
  | barrier => rfl
  | endOfStream => rfl
  | other unknown => exact unknown

namespace Producer

def arrival (m : Message) : Message :=
  match m.toFramesBatched with
  | .ok frames => .arrived frames
  | .error _ => m

/-- What arrives of a message that can be sent: it is handed out as the message would be. -/
theorem arrival_of_framed {m : Message} {frames : Frames} (sendable : Sendable m.kind)
    (h : m.toFramesBatched = .ok frames) :
    Message.ofFrames frames = .ok (arrival m) ∧ (arrival m).kind = m.kind ∧
      (arrival m).unpacked = m.unpacked ∧
      (m.kind = .process → ∃ records, (arrival m).records = .ok records) := by
  obtain ⟨m', framed, hkind, hunpacked, hrecords⟩ := Message.arrives sendable.ofCode h
  have harrival : arrival m = m' := by
    unfold arrival
    rw [h]
    exact Message.arrived_of_framed framed
  rw [harrival]
  exact ⟨framed, hkind, hunpacked, fun hm => hrecords (hkind.trans hm)⟩

/-! ## What the answers say -/

abbrev Answers := List (SinkCall × Except Error Reply)

namespace Answers

def isJoin : SinkCall × Except Error Reply → Bool
  | (.connect, .ok _) => true
  | _ => false

/-- The producer has unregistered with this answer, or before. -/
def isLeave : SinkCall × Except Error Reply → Bool
  | (.disconnect, .ok _) => true
  | (.release, .ok _) => true
  | _ => false

def taken? : SinkCall × Except Error Reply → Option Message
  | (.send m, .ok _) => some m
  | _ => none

def joined (as : Answers) : Bool := as.any isJoin

def left (as : Answers) : Bool := as.any isLeave

def gave (as : Answers) : List Message := as.filterMap taken?

/-- The words that a producer has pushed, as they arrive. -/
def said (id : ClientId) (as : Answers) : List Message :=
  if as.joined then
    .registration id :: as.gave.map arrival ++ if as.left then [.unregistration id] else []
  else []

variable (as : Answers) (a : SinkCall × Except Error Reply) (id : ClientId)

@[simp] theorem joined_snoc : joined (as ++ [a]) = (as.joined || isJoin a) := by
  unfold joined
  rw [List.any_append, List.any_cons, List.any_nil, Bool.or_false]

@[simp] theorem left_snoc : left (as ++ [a]) = (as.left || isLeave a) := by
  unfold left
  rw [List.any_append, List.any_cons, List.any_nil, Bool.or_false]

@[simp] theorem gave_snoc : gave (as ++ [a]) = as.gave ++ (taken? a).toList := by
  unfold gave
  rw [List.filterMap_append]
  cases h : taken? a <;> simp [h]

@[simp] theorem isJoin_error (call : SinkCall) (cause : Error) :
    isJoin (call, .error cause) = false := by
  cases call <;> rfl

@[simp] theorem isLeave_error (call : SinkCall) (cause : Error) :
    isLeave (call, .error cause) = false := by
  cases call <;> rfl

@[simp] theorem taken?_error (call : SinkCall) (cause : Error) :
    taken? (call, .error cause) = none := by
  cases call <;> rfl

end Answers

abbrev Story := Session SinkCall Producer Task Reply

namespace Story

def said (s : Story) : List Message := Answers.said s.server.identity s.answered

/-- What may be asked of a producer that gave these answers: to connect until it has, then to send,
and to leave. -/
inductive May (as : Answers) : SinkCall → Prop where
  | connect (apart : as.joined = false) : May as .connect
  | send {m : Message} (joined : as.joined = true) (here : as.left = false)
      (sendable : Sendable m.kind) : May as (.send m)
  | disconnect (joined : as.joined = true) : May as .disconnect
  | release (joined : as.joined = true) : May as .release

instance (as : Answers) : DecidablePred (May as)
  | .connect => decidable_of_iff (as.joined = false) ⟨.connect, fun (.connect apart) => apart⟩
  | .send m =>
    decidable_of_iff (as.joined = true ∧ as.left = false ∧ Sendable m.kind)
      ⟨fun ⟨joined, here, sendable⟩ => .send joined here sendable,
        fun (.send joined here sendable) => ⟨joined, here, sendable⟩⟩
  | .disconnect => decidable_of_iff (as.joined = true) ⟨.disconnect, fun (.disconnect h) => h⟩
  | .release => decidable_of_iff (as.joined = true) ⟨.release, fun (.release h) => h⟩
  | .poll => isFalse nofun
  | .get => isFalse nofun
  | .request _ => isFalse nofun
  | .register _ => isFalse nofun
  | .unregister _ => isFalse nofun

def ask (call : SinkCall) (s : Story) : Story := Session.ask sink.toService call s

def step (s : Story) (net : Network) : Story × Network := Session.step sink.toService s net

end Story

/-! ## Where a producer stands -/

/-- A socket that was connected to the pipe with this number. -/
structure Tied (pn : Option Nat) (socket : PushSocket) : Prop where
  number : pn = some socket.number
  guest : socket.isBinder = false

/-- Closing a socket that pushes changes nothing in the network. -/
theorem Tied.close {pn : Option Nat} {socket : PushSocket} (tied : Tied pn socket)
    (net : Network) : socket.close net = net := by
  unfold PushSocket.close
  rw [if_neg (by rw [tied.guest]; exact Bool.false_ne_true)]

/-- Through such a socket everything can be said, as soon as there is room. -/
theorem Tied.send {net : Network} {d c : String} {rn pn : Option Nat} {r : Router} {p : Pipe}
    {socket : PushSocket} (tied : Tied pn socket) (lines : Lines net d c rn pn r p)
    (opened : p.isOpen = true) (frames : Frames) :
    socket.send frames net = .blocked ∨ ∃ net', socket.send frames net = .done () net' := by
  cases hsend : socket.send frames net with
  | blocked => exact Or.inl rfl
  | failed cause => exact absurd hsend (lines.pushSend_open tied.number opened frames cause)
  | done _ net' => exact Or.inr ⟨net', rfl⟩

inductive Leaving : SinkCall → Prop where
  | disconnect : Leaving .disconnect
  | release : Leaving .release

/-- Where a producer stands: its socket, the call that it is serving, and whether it has joined and
left. -/
inductive Standing (pn : Option Nat) :
    Option PushSocket → Option (SinkCall × Task) → Bool → Bool → Prop where
  | apart : Standing pn none none false false
  | asked : Standing pn none (some (.connect, .begin .connect)) false false
  | connecting (deadline : Nat) :
      Standing pn none (some (.connect, .connecting deadline)) false false
  | greeting {socket : PushSocket} (tied : Tied pn socket) :
      Standing pn none (some (.connect, .registering socket)) false false
  | idle {socket : PushSocket} (tied : Tied pn socket) : Standing pn (some socket) none true false
  | given {socket : PushSocket} (tied : Tied pn socket) {m : Message} (sendable : Sendable m.kind) :
      Standing pn (some socket) (some (.send m, .begin (.send m))) true false
  | pushing {socket : PushSocket} (tied : Tied pn socket) {m : Message} {frames : Frames}
      (sendable : Sendable m.kind) (framed : m.toFramesBatched = .ok frames) :
      Standing pn (some socket) (some (.send m, .pushing frames)) true false
  | turning {socket : PushSocket} (tied : Tied pn socket) {call : SinkCall}
      (leaves : Leaving call) : Standing pn (some socket) (some (call, .begin call)) true false
  | leaving {socket : PushSocket} (tied : Tied pn socket) {call : SinkCall}
      (leaves : Leaving call) : Standing pn none (some (call, .leaving socket)) true false
  | gone : Standing pn none none true true
  | again {call : SinkCall} (leaves : Leaving call) :
      Standing pn none (some (call, .begin call)) true true

structure Story.At (uri : String) (id : ClientId) (pn : Option Nat) (s : Story) : Prop where
  uri : s.server.uri = uri
  identity : s.server.identity = id
  standing : Standing pn s.server.push s.current (Answers.joined s.answered)
    (Answers.left s.answered)
  silent : Answers.joined s.answered = false → Answers.gave s.answered = []
  /-- Everything that it took could be sent. -/
  taken : ∀ m ∈ Answers.gave s.answered, Sendable m.kind ∧ ∃ frames, m.toFramesBatched = .ok frames

/-- What a step of a producer comes to: it says nothing, or it pushes its next word. -/
inductive Says (pn : Option Nat) (s : Story) (net : Network) : Story → Network → Prop where
  | nothing {s' : Story} (same : s'.said = s.said) : Says pn s net s' net
  | word {s' : Story} {net' : Network} {socket : PushSocket} {frames : Frames} {m : Message}
      (tied : Tied pn socket) (sent : socket.send frames net = .done () net')
      (framed : Message.ofFrames frames = .ok m) (more : s'.said = s.said ++ [m]) :
      Says pn s net s' net'

theorem Story.at_start (uri : String) (id : ClientId) (pn : Option Nat) :
    Story.At uri id pn { server := { uri, identity := id } } :=
  ⟨rfl, rfl, .apart, fun _ => rfl, fun _ h => absurd h List.not_mem_nil⟩

/-- Nothing is tied to a pipe that is not there, so it may come at any time. -/
theorem Standing.found {push : Option PushSocket} {current : Option (SinkCall × Task)}
    {joined left : Bool} (h : Standing none push current joined left) (pn : Option Nat) :
    Standing pn push current joined left := by
  cases h with
  | apart => exact .apart
  | asked => exact .asked
  | connecting deadline => exact .connecting deadline
  | greeting tied => cases tied.number
  | idle tied => cases tied.number
  | given tied _ => cases tied.number
  | pushing tied _ _ => cases tied.number
  | turning tied _ => cases tied.number
  | leaving tied _ => cases tied.number
  | gone => exact .gone
  | again leaves => exact .again leaves

variable {uri d : String} {id : ClientId} {pn rn : Option Nat} {s : Story} {net : Network}
  {r : Router} {p : Pipe}

/-- A producer that has no socket stands where it stands, whatever pipe there is. -/
theorem Story.At.found (here : s.At uri id none) (pn : Option Nat) : s.At uri id pn :=
  { here with standing := here.standing.found pn }

/-- A call that may be made leaves the producer where it stands. -/
theorem Story.At.ask (here : s.At uri id pn) (idle : s.current = none) {call : SinkCall}
    (may : May s.answered call) : (s.ask call).At uri id pn := by
  refine ⟨here.uri, here.identity, ?_, here.silent, here.taken⟩
  show Standing pn s.server.push (some (call, .begin call)) (Answers.joined s.answered)
    (Answers.left s.answered)
  have standing := here.standing
  rw [idle] at standing
  cases may with
  | connect apart =>
    rw [apart] at standing ⊢
    generalize s.server.push = push, Answers.left _ = left at standing
    cases standing
    exact .asked
  | send joined here sendable =>
    rw [joined, here] at standing ⊢
    generalize s.server.push = push at standing
    cases standing with
    | idle tied => exact .given tied sendable
  | disconnect joined =>
    rw [joined] at standing ⊢
    generalize s.server.push = push, Answers.left _ = left at standing
    cases standing with
    | idle tied => exact .turning tied .disconnect
    | gone => exact .again .disconnect
  | release joined =>
    rw [joined] at standing ⊢
    generalize s.server.push = push, Answers.left _ = left at standing
    cases standing with
    | idle tied => exact .turning tied .release
    | gone => exact .again .release

def Goes (uri : String) (id : ClientId) (pn : Option Nat) (s : Story) (net : Network)
    (after : Story × Network) : Prop := after.1.At uri id pn ∧ Says pn s net after.1 after.2

section Steps

variable {server server' : Producer} {current current' : Option (SinkCall × Task)} {as : Answers}

/-- A producer that has answered a call. -/
theorem Story.At.answer (here : Story.At uri id pn ⟨server, current, as⟩) (server' : Producer)
    (hserver : server'.uri = server.uri ∧ server'.identity = server.identity)
    (a : SinkCall × Except Error Reply)
    (standing : Standing pn server'.push none (as.joined || Answers.isJoin a)
      (as.left || Answers.isLeave a))
    (htaken : ∀ m, Answers.taken? a = some m →
      as.joined = true ∧ Sendable m.kind ∧ ∃ frames, m.toFramesBatched = .ok frames) :
    Story.At uri id pn ⟨server', none, as ++ [a]⟩ := by
  refine ⟨hserver.1.trans here.uri, hserver.2.trans here.identity, ?_, ?_, ?_⟩
  · rw [Answers.joined_snoc, Answers.left_snoc]
    exact standing
  · rw [Answers.joined_snoc, Answers.gave_snoc, Bool.or_eq_false_iff]
    rintro ⟨apart, -⟩
    have nothing : Answers.taken? a = none := by
      cases h : Answers.taken? a with
      | none => rfl
      | some m =>
        rw [(htaken m h).1] at apart
        cases apart
    rw [here.silent apart, nothing]
    rfl
  · intro m hm
    rw [Answers.gave_snoc] at hm
    rcases List.mem_append.1 hm with hold | hnew
    · exact here.taken m hold
    · exact (htaken m (Option.mem_toList.1 hnew)).2

/-- A producer that goes on without an answer has said nothing. -/
theorem Goes.moves (here : Story.At uri id pn ⟨server, current, as⟩)
    (hserver : server'.uri = server.uri ∧ server'.identity = server.identity)
    (standing : Standing pn server'.push current' as.joined as.left) :
    Goes uri id pn ⟨server, current, as⟩ net (⟨server', current', as⟩, net) := by
  refine ⟨⟨hserver.1.trans here.uri, hserver.2.trans here.identity, standing, here.silent,
    here.taken⟩, .nothing ?_⟩
  show Answers.said server'.identity as = _
  rw [hserver.2]
  rfl

/-- A producer that has failed at a call has said nothing. -/
theorem Goes.fails (here : Story.At uri id pn ⟨server, current, as⟩) (call : SinkCall)
    (cause : Error) (standing : Standing pn server.push none as.joined as.left) :
    Goes uri id pn ⟨server, current, as⟩ net
      (⟨server, none, as ++ [(call, .error cause)]⟩, net) := by
  refine ⟨here.answer server ⟨rfl, rfl⟩ _ (by simpa using standing) (by simp), .nothing ?_⟩
  simp [Answers.said, Story.said]

/-- A producer that connects waits for the collector, or gets an end of its pipe. -/
theorem connecting_step {deadline : Nat}
    (here : Story.At uri id pn ⟨server, some (.connect, .connecting deadline), as⟩)
    (hpush : server.push = none) (apart : as.joined = false) (stays : as.left = false)
    (lines : Lines net d uri rn pn r p) :
    Goes uri id pn ⟨server, some (.connect, .connecting deadline), as⟩ net
      (Story.step ⟨server, some (.connect, .connecting deadline), as⟩ net) := by
  obtain rfl : server.uri = uri := here.uri
  simp only [Story.step, Session.step, sink, Producer.step]
  cases hattempt : (PushSocket.connect net server.uri).orNotBound server.uri
      (deadline ≤ net.now) with
  | blocked => exact ⟨here, .nothing rfl⟩
  | failed cause =>
    exact .fails here .connect cause (by rw [hpush, apart, stays]; exact .apart)
  | done socket net' =>
    obtain ⟨hnumber, guest, rfl⟩ := lines.connectPush (Attempt.of_orNotBound hattempt)
    exact .moves here ⟨rfl, rfl⟩
      (by rw [hpush, apart, stays]; exact .greeting ⟨hnumber, guest⟩)

/-- A producer that has an end of the pipe says its first word. -/
theorem greeting_step {socket : PushSocket} (tied : Tied pn socket)
    (here : Story.At uri id pn ⟨server, some (.connect, .registering socket), as⟩)
    (apart : as.joined = false) (stays : as.left = false)
    (lines : Lines net d uri rn pn r p) (opened : p.isOpen = true) :
    Goes uri id pn ⟨server, some (.connect, .registering socket), as⟩ net
      (Story.step ⟨server, some (.connect, .registering socket), as⟩ net) := by
  obtain ⟨frames, hframes, framed⟩ :=
    Message.exists_frames (m := .registration server.identity) rfl rfl
  simp only [Story.step, Session.step, sink, Producer.step, speak, hframes]
  rcases tied.send lines opened frames with blocked | ⟨net', sent⟩
  · rw [blocked]
    exact ⟨here, .nothing rfl⟩
  · have at' := here.answer { server with push := some socket } ⟨rfl, rfl⟩ (.connect, .ok none)
      (by rw [apart, stays]; exact .idle tied) nofun
    -- Nothing has been said before.
    have more : Answers.said server.identity (as ++ [(.connect, .ok none)])
        = Answers.said server.identity as ++ [.registration server.identity] := by
      simp [Answers.said, apart, stays, here.silent apart, Answers.isJoin, Answers.isLeave,
        Answers.taken?]
    rw [sent]
    exact ⟨at', .word tied sent framed more⟩

/-- A producer that has a message says what arrives of it. -/
theorem pushing_step {socket : PushSocket} (tied : Tied pn socket) {m : Message} {frames : Frames}
    (sendable : Sendable m.kind) (framed : m.toFramesBatched = .ok frames)
    (here : Story.At uri id pn ⟨server, some (.send m, .pushing frames), as⟩)
    (hpush : server.push = some socket) (joined : as.joined = true) (stays : as.left = false)
    (lines : Lines net d uri rn pn r p) (opened : p.isOpen = true) :
    Goes uri id pn ⟨server, some (.send m, .pushing frames), as⟩ net
      (Story.step ⟨server, some (.send m, .pushing frames), as⟩ net) := by
  simp only [Story.step, Session.step, sink, Producer.step, hpush]
  rcases tied.send lines opened frames with blocked | ⟨net', sent⟩
  · rw [blocked]
    exact ⟨here, .nothing rfl⟩
  · have taken : ∀ m', Answers.taken? (.send m, .ok none) = some m' →
        as.joined = true ∧ Sendable m'.kind ∧ ∃ frames, m'.toFramesBatched = .ok frames := by
      rintro m' hm'
      cases hm'
      exact ⟨joined, sendable, frames, framed⟩
    have at' := here.answer { server with push := some socket, sent := server.sent + 1 } ⟨rfl, rfl⟩
      (.send m, .ok none) (by rw [joined, stays]; exact .idle tied) taken
    have more : Answers.said server.identity (as ++ [(.send m, .ok none)])
        = Answers.said server.identity as ++ [arrival m] := by
      simp [Answers.said, joined, stays, Answers.isJoin, Answers.isLeave, Answers.taken?]
    rw [sent]
    exact ⟨at', .word tied sent (arrival_of_framed sendable framed).1 more⟩

/-- A producer that leaves says its last word. -/
theorem leaving_step {socket : PushSocket} (tied : Tied pn socket) {call : SinkCall}
    (leaves : Leaving call)
    (here : Story.At uri id pn ⟨server, some (call, .leaving socket), as⟩)
    (hpush : server.push = none) (joined : as.joined = true) (stays : as.left = false)
    (lines : Lines net d uri rn pn r p) (opened : p.isOpen = true) :
    Goes uri id pn ⟨server, some (call, .leaving socket), as⟩ net
      (Story.step ⟨server, some (call, .leaving socket), as⟩ net) := by
  obtain ⟨frames, hframes, framed⟩ :=
    Message.exists_frames (m := .unregistration server.identity) rfl rfl
  simp only [Story.step, Session.step, sink, Producer.step, speak, hframes]
  rcases tied.send lines opened frames with blocked | ⟨net', sent⟩
  · rw [blocked]
    exact ⟨here, .nothing rfl⟩
  · have at' := here.answer server ⟨rfl, rfl⟩ (call, .ok none)
      (by rw [hpush, joined, stays]; cases leaves <;> exact .gone) (by cases leaves <;> nofun)
    have more : Answers.said server.identity (as ++ [(call, .ok none)])
        = Answers.said server.identity as ++ [.unregistration server.identity] := by
      cases leaves <;>
        simp [Answers.said, joined, stays, Answers.isJoin, Answers.isLeave, Answers.taken?]
    simp only [sent, tied.close, Bool.false_eq_true, if_false]
    exact ⟨at', .word tied sent framed more⟩

end Steps

/-- **A step of a producer pushes its next word, or nothing.** One case for each place where it may
stand. -/
theorem Story.At.step (here : s.At uri id pn) (lines : Lines net d uri rn pn r p)
    (opened : p.isOpen = true) : Goes uri id pn s net (s.step net) := by
  obtain ⟨server, current, as⟩ := s
  have standing := here.standing
  simp only at standing
  generalize hpush : server.push = push, hjoined : Answers.joined as = joined,
    hleft : Answers.left as = left at standing
  cases standing with
  | apart => exact ⟨here, .nothing rfl⟩
  | idle tied => exact ⟨here, .nothing rfl⟩
  | gone => exact ⟨here, .nothing rfl⟩
  | asked => exact .moves here ⟨rfl, rfl⟩ (by rw [hpush, hjoined, hleft]; exact .connecting _)
  | connecting deadline => exact connecting_step here hpush hjoined hleft lines
  | greeting tied => exact greeting_step tied here hjoined hleft lines opened
  | pushing tied sendable framed =>
    exact pushing_step tied sendable framed here hpush hjoined hleft lines opened
  | leaving tied leaves => exact leaving_step tied leaves here hpush hjoined hleft lines opened
  -- The other cases are first steps of calls, in which nothing is said yet.
  | @given socket tied m sendable =>
    simp only [Story.step, Session.step, sink, Producer.step]
    cases hframes : m.toFramesBatched with
    | error cause =>
      exact .fails here (.send m) cause (by rw [hpush, hjoined, hleft]; exact .idle tied)
    | ok frames =>
      exact .moves here ⟨rfl, rfl⟩
        (by rw [hpush, hjoined, hleft]; exact .pushing tied sendable hframes)
  | @turning socket tied call leaves =>
    have left : Story.step ⟨server, some (call, .begin call), as⟩ net
        = (⟨{ server with push := none }, some (call, .leaving socket), as⟩, net) := by
      cases leaves <;> simp only [Story.step, Session.step, sink, Producer.step, leave, hpush]
    rw [left]
    exact .moves here ⟨rfl, rfl⟩ (by rw [hjoined, hleft]; exact .leaving tied leaves)
  | @again call leaves =>
    have answer : Story.step ⟨server, some (call, .begin call), as⟩ net
        = (⟨server, none, as ++ [(call, .ok none)]⟩, net) := by
      cases leaves <;> simp only [Story.step, Session.step, sink, Producer.step, leave, hpush] <;>
        rfl
    have same : Answers.said server.identity (as ++ [(call, .ok none)])
        = Answers.said server.identity as := by
      cases leaves <;>
        simp [Answers.said, hjoined, hleft, Answers.isJoin, Answers.isLeave, Answers.taken?]
    rw [answer]
    refine ⟨here.answer server ⟨rfl, rfl⟩ (call, .ok none) ?_ ?_, .nothing same⟩
    · rw [hpush, hjoined, hleft]
      cases leaves <;> exact .gone
    · cases leaves <;> nofun

end Producer

end Fanin

end RecordFarm
