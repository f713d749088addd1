import RecordFarm.Fanin.Collector
import RecordFarm.Proofs.Fanin.Producing

/-!
# What a collector hears

Whoever holds a collector lets it bind its address and asks it for messages. A collector without
records takes in the next word of the pipe, and what it makes of it depends on the word alone
(`Collector.absorb`). `Hears` is what a step of a collector can do: to its state, to the pipe, and
with what it hands out. Because only words arrive, and the pipe stays open, no call of a collector
fails (`Story.At.step`).
-/

namespace RecordFarm

namespace Fanin

/-- What a producer says, as it arrives. -/
inductive Word : Message → Prop where
  | registration (id : ClientId) : Word (.registration id)
  | unregistration (id : ClientId) : Word (.unregistration id)
  | sent {m : Message} (sendable : Sendable m.kind)
      (readable : m.kind = .process → ∃ records, m.records = .ok records) : Word m

/-- A message that a collector can take in, whoever says it: its records can be read, and who comes
or goes has a name. -/
structure Legible (m : Message) : Prop where
  readable : m.kind = .process → ∃ records, m.records = .ok records
  named : m.kind = .registration ∨ m.kind = .unregistration → ∃ id, m.identity = .ok id

theorem Word.legible {m : Message} (word : Word m) : Legible m := by
  cases word with
  | registration id => exact ⟨nofun, fun _ => ⟨id, Message.identity_registration id⟩⟩
  | unregistration id => exact ⟨nofun, fun _ => ⟨id, Message.identity_unregistration id⟩⟩
  | sent sendable readable =>
    refine ⟨readable, fun h => ?_⟩
    rcases h with hkind | hkind <;> rw [hkind] at sendable <;> cases sendable

namespace Collector

/-- What a collector without records makes of a word, and what it hands out at once. -/
def absorb (m : Message) (s : Collector) : Collector × List Message :=
  match m.kind with
  | .process => ({ s with records := m.content }, [])
  | .registration =>
    match m.identity with
    | .error _ => (s, [])
    | .ok id => ({ s with seen := s.seen.insert id, producers := s.producers.insert id }, [])
  | .unregistration =>
    match m.identity with
    | .error _ => (s, [])
    | .ok id => ({ s with producers := s.producers.filter (· ≠ id) }, [])
  | .endOfStream => (s, [])
  | _ => (s, [m])

abbrev Story := Session SourceCall Collector Task Reply

namespace Story

/-- What may be asked of a collector that gave these answers: to bind its address once, and then for
messages. -/
inductive May (answered : List (SourceCall × Except Error Reply)) : SourceCall → Prop where
  | connect (first : answered = []) : May answered .connect
  | next (bound : (.connect, .ok none) ∈ answered) : May answered .next

instance (answered : List (SourceCall × Except Error Reply)) : DecidablePred (May answered)
  | .connect => decidable_of_iff (answered = []) ⟨.connect, fun (.connect first) => first⟩
  | .next =>
    decidable_of_iff ((.connect, .ok none) ∈ answered) ⟨.next, fun (.next bound) => bound⟩
  | .disconnect => isFalse nofun
  | .register _ => isFalse nofun
  | .unregister _ => isFalse nofun
  | .release => isFalse nofun

def ask (call : SourceCall) (s : Story) : Story := Session.ask source.toService call s

def step (s : Story) (net : Network) : Story × Network := Session.step source.toService s net

end Story

/-- Where a collector stands: its socket, the call that it is serving, and its answers. -/
inductive Standing : Option PullSocket → Option (SourceCall × Task) →
    List (SourceCall × Except Error Reply) → Prop where
  | apart : Standing none none []
  | binding : Standing none (some (.connect, .connect)) []
  | idle {socket : PullSocket} {answered : List (SourceCall × Except Error Reply)}
      (bound : (.connect, .ok none) ∈ answered) : Standing (some socket) none answered
  | reading {socket : PullSocket} {answered : List (SourceCall × Except Error Reply)}
      (bound : (.connect, .ok none) ∈ answered) :
      Standing (some socket) (some (.next, .next)) answered

/-- What is true of a collector at `uri` that expects `n` producers. -/
structure Story.At (uri : String) (n : Nat) (s : Story) : Prop where
  uri : s.server.uri = uri
  expected : s.server.expected = n
  standing : Standing s.server.pull s.current s.answered
  answered : ∀ a ∈ s.answered, ∃ reply, a.2 = .ok reply

/-- What a step of a collector comes to: to its state, to the pipe, and what it hands out. -/
inductive Hears (s : Collector) (p : Pipe) : Collector → Pipe → List Message → Prop where
  | nothing : Hears s p s p []
  | bind {socket : PullSocket} (free : s.pull = none) :
      Hears s p { s with pull := some socket } { uri := s.uri } []
  | hand {record : Bytes} {records : List Bytes} (first : s.records = record :: records) :
      Hears s p { s with records } p [.process [record]]
  | finish (nothing : s.records = []) (complete : s.isComplete = true) :
      Hears s p s p [.endOfStream]
  | take {frames : Frames} {rest : Mailbox} {m : Message} (nothing : s.records = [])
      (running : s.isComplete = false) (first : p.queue = frames :: rest)
      (framed : Message.ofFrames frames = .ok m)
      (word : Word m) : Hears s p (absorb m s).1 { p with queue := rest } (absorb m s).2

variable {uri d : String} {n : Nat} {rn : Option Nat} {s : Story} {net : Network}
  {r : Router} {p : Pipe}

theorem Story.at_start (uri : String) (n : Nat) :
    Story.At uri n { server := { uri, expected := n } } :=
  ⟨rfl, rfl, .apart, fun _ h => absurd h List.not_mem_nil⟩

/-- A call that may be made leaves the collector where it stands. -/
theorem Story.At.ask (here : s.At uri n) (idle : s.current = none) {call : SourceCall}
    (may : May s.answered call) : (s.ask call).At uri n := by
  refine ⟨here.uri, here.expected, ?_, here.answered⟩
  show Standing s.server.pull (some (call, call)) s.answered
  have standing := here.standing
  rw [idle] at standing
  cases may with
  | connect first =>
    rw [first] at standing ⊢
    generalize s.server.pull = pull at standing
    cases standing with
    | apart => exact .binding
    | idle bound => cases bound
  | next bound =>
    generalize s.server.pull = pull, s.answered = answered at standing bound
    cases standing with
    | apart => cases bound
    | idle bound => exact .reading bound

/-- What a collector does after it took a word in: it goes on, or hands the word out. -/
def next? (out : List Message) : Progress Task Reply :=
  match out with
  | [] => .working .next
  | m :: _ => .finished (.ok (some m))

/-- Taking a legible message in is absorbing it, and what is handed out for it is the answer. -/
theorem takeIn_legible {m : Message} (legible : Legible m) (server : Collector)
    (nothing : server.records = []) (net : Network) :
    takeIn m server net = (next? (absorb m server).2, (absorb m server).1, net) := by
  unfold takeIn absorb
  cases hkind : m.kind with
  | process =>
    obtain ⟨records, hrecords⟩ := legible.readable hkind
    simp only [hrecords, Message.content_of_records hkind hrecords, nothing, List.nil_append]
    rfl
  | registration =>
    obtain ⟨id, hid⟩ := legible.named (Or.inl hkind)
    simp only [hid]
    rfl
  | unregistration =>
    obtain ⟨id, hid⟩ := legible.named (Or.inr hkind)
    simp only [hid]
    rfl
  | _ => rfl

/-- Taking a word in is absorbing it and handing out the next message, if there is one. -/
theorem takeIn_word {m : Message} (word : Word m) (server : Collector)
    (nothing : server.records = []) (net : Network) :
    takeIn m server net = (next? (absorb m server).2, (absorb m server).1, net) :=
  takeIn_legible word.legible server nothing net

/-- A collector that has answered a call, and has not failed. -/
theorem Story.At.answer {server server' : Collector} {current : Option (SourceCall × Task)}
    {answered : List (SourceCall × Except Error Reply)}
    (here : Story.At uri n ⟨server, current, answered⟩)
    (hserver : server'.uri = server.uri ∧ server'.expected = server.expected) {call : SourceCall}
    {reply : Reply} (standing : Standing server'.pull none (answered ++ [(call, .ok reply)])) :
    Story.At uri n ⟨server', none, answered ++ [(call, .ok reply)]⟩ := by
  refine ⟨hserver.1.trans here.uri, hserver.2.trans here.expected, standing, ?_⟩
  intro a ha
  rcases List.mem_append.1 ha with hold | hnew
  · exact here.answered a hold
  · rw [List.mem_singleton.1 hnew]
    exact ⟨reply, rfl⟩

/-- Absorbing a message leaves the socket, the address and the number of producers alone. -/
theorem absorb_pull (m : Message) (server : Collector) :
    (absorb m server).1.pull = server.pull ∧ (absorb m server).1.uri = server.uri ∧
      (absorb m server).1.expected = server.expected := by
  unfold absorb
  split
  · exact ⟨rfl, rfl, rfl⟩
  · split <;> exact ⟨rfl, rfl, rfl⟩
  · split <;> exact ⟨rfl, rfl, rfl⟩
  · exact ⟨rfl, rfl, rfl⟩
  · exact ⟨rfl, rfl, rfl⟩

/-- What is handed out for a word is at most one message. -/
theorem absorb_out (m : Message) (server : Collector) :
    (absorb m server).2 = [] ∨ (absorb m server).2 = [m] := by
  unfold absorb
  repeat' split
  all_goals first | exact Or.inl rfl | exact Or.inr rfl

def Goes (uri d : String) (n : Nat) (rn : Option Nat) (r : Router) (p : Pipe) (s : Story)
    (after : Story × Network) : Prop :=
  ∃ p' out, after.1.At uri n ∧
    Lines after.2 d uri rn (after.1.server.pull.map PullSocket.number) r p' ∧ p'.isOpen = true ∧
    Hears s.server p after.1.server p' out ∧
    handedOut after.1.answered = handedOut s.answered ++ out

/-- A collector that is asked for a message hands out what it has, or takes in the next word. -/
theorem reading_step {server : Collector} {socket : PullSocket}
    {answered : List (SourceCall × Except Error Reply)}
    (here : Story.At uri n ⟨server, some (.next, .next), answered⟩)
    (hpull : server.pull = some socket) (bound : (.connect, .ok none) ∈ answered)
    (lines : Lines net d uri rn (some socket.number) r p) (opened : p.isOpen = true)
    (words : ∀ frames ∈ p.queue, ∃ m, Message.ofFrames frames = .ok m ∧ Word m) :
    Goes uri d n rn r p ⟨server, some (.next, .next), answered⟩
      (Story.step ⟨server, some (.next, .next), answered⟩ net) := by
  have hlines : Lines net d uri rn (server.pull.map PullSocket.number) r p := by
    rw [hpull]
    exact lines
  have answers : ∀ server' : Collector, server'.pull = server.pull → server'.uri = server.uri →
      server'.expected = server.expected → ∀ reply,
      Story.At uri n ⟨server', none, answered ++ [(.next, .ok reply)]⟩ := by
    intro server' hpull' huri hexpected reply
    refine here.answer ⟨huri, hexpected⟩ ?_
    rw [hpull', hpull]
    exact .idle (List.mem_append_left _ bound)
  simp only [Story.step, Session.step, source, Collector.step, next]
  cases hrecords : server.records with
  | cons record records =>
    exact ⟨p, _, answers { server with records } rfl rfl rfl _, hlines, opened, .hand hrecords,
      handedOut_next ..⟩
  | nil =>
  cases hcomplete : server.isComplete with
  | true =>
    exact ⟨p, _, answers server rfl rfl rfl _, hlines, opened, .finish hrecords hcomplete,
      handedOut_next ..⟩
  | false =>
  simp only [hpull, Bool.false_eq_true, if_false]
  cases hrecv : socket.recv net with
  | blocked => exact ⟨p, [], here, hlines, opened, .nothing, (List.append_nil _).symm⟩
  | failed cause => exact absurd hrecv (lines.pullRecv_open rfl opened cause)
  | done frames net' =>
    obtain ⟨rest, first, lines'⟩ := lines.pullRecv rfl hrecv
    obtain ⟨m, framed, word⟩ := words frames (by rw [first]; exact List.mem_cons_self)
    obtain ⟨hpull', huri, hexpected⟩ := absorb_pull m server
    have hlines' : Lines net' d uri rn ((absorb m server).1.pull.map PullSocket.number) r
        { p with queue := rest } := by
      rw [hpull', hpull]
      exact lines'
    have hears : Hears server p (absorb m server).1 { p with queue := rest } (absorb m server).2 :=
      .take hrecords hcomplete first framed word
    simp only [framed, takeIn_word word server hrecords]
    -- The word is handed out, or the collector goes on.
    rcases absorb_out m server with hout | hout
    · rw [hout] at hears ⊢
      refine ⟨_, [], ⟨huri.trans here.uri, hexpected.trans here.expected, ?_, here.answered⟩,
        hlines', opened, hears, (List.append_nil _).symm⟩
      show Standing (absorb m server).1.pull (some (.next, .next)) answered
      rw [hpull', hpull]
      exact .reading bound
    · rw [hout] at hears ⊢
      exact ⟨_, [m], answers _ hpull' huri hexpected _, hlines', opened, hears, handedOut_next ..⟩

/-- **A step of a collector**, none of whose calls fails. One case for each place where it may
stand. -/
theorem Story.At.step (here : s.At uri n)
    (lines : Lines net d uri rn (s.server.pull.map PullSocket.number) r p) (hdc : d ≠ uri)
    (opened : p.isOpen = true)
    (words : ∀ frames ∈ p.queue, ∃ m, Message.ofFrames frames = .ok m ∧ Word m) :
    Goes uri d n rn r p s (s.step net) := by
  obtain ⟨server, current, answered⟩ := s
  have standing := here.standing
  have huri := here.uri
  simp only at standing huri lines
  generalize hpull : server.pull = pull at standing
  cases standing with
  | apart => exact ⟨p, [], here, lines, opened, .nothing, (List.append_nil _).symm⟩
  | idle bound => exact ⟨p, [], here, lines, opened, .nothing, (List.append_nil _).symm⟩
  | @reading socket _ bound =>
    rw [hpull] at lines
    exact reading_step here hpull bound lines opened words
  | binding =>
    rw [hpull] at lines
    subst huri
    simp only [Story.step, Session.step, source, Collector.step]
    cases hbind : PullSocket.bind net server.uri with
    | blocked => exact ⟨p, [], here, by rw [hpull]; exact lines, opened, .nothing, rfl⟩
    | failed cause => exact absurd hbind (lines.bindPipe_ne_failed cause)
    | done socket net' =>
      obtain ⟨-, -, lines'⟩ := lines.bindPipe hdc hbind
      have standing : Standing (some socket) none ([] ++ [(.connect, .ok none)]) :=
        .idle (List.mem_singleton_self _)
      exact ⟨{ uri := server.uri }, [],
        here.answer (by exact ⟨rfl, rfl⟩) (by exact standing), lines', rfl, .bind hpull, rfl⟩

end Collector

end Fanin

end RecordFarm
