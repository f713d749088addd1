import RecordFarm.Fanout.Client
import RecordFarm.Proofs.Fanout.Answers
import RecordFarm.Proofs.Farm.Mail
import RecordFarm.Proofs.Service.Session

/-!
# What a client does

Whoever holds a client lets it connect, asks it for messages, and lets it leave when it has handed
out the end. `ClientView` is what matters of a client for the accounts of its dispenser, and
`ClientMove` is what a client can do to its view and to the router. A step of a client is such a
move (`Story.At.step`).
-/

namespace RecordFarm

namespace Fanout

open Farm (mailOf)
open Message (Readable)

/-- What matters of a client. -/
structure ClientView where
  /-- Its end of the router, as long as it is connected. -/
  dealer : Option DealerSocket := none
  /-- Whether it has asked, and waits for the answer. -/
  awaiting : Bool := false
  /-- Whether it got the end. -/
  ended : Bool := false
  /-- Records received and not yet handed out. -/
  records : List Bytes := []
  /-- What it handed out. -/
  handed : List Message := []

namespace ClientView

def absorb (m : Message) (v : ClientView) : ClientView :=
  match m.kind with
  | .process => { v with awaiting := false, records := m.content }
  | .endOfStream => { v with awaiting := false, ended := true }
  | _ => { v with awaiting := false, handed := v.handed ++ [m] }

structure Sound (v : ClientView) : Prop where
  /-- It asks only when it has nothing left, and when it is connected. -/
  waiting : v.awaiting = true → v.records = [] ∧ v.ended = false ∧ ∃ s, v.dealer = some s
  /-- The end comes last. -/
  last : v.ended = true → v.records = []
  /-- What it handed out is a stream, and then ends. -/
  handed : ∃ before ends, v.handed = before ++ List.replicate ends .endOfStream ∧
    (∀ m ∈ before, m.isEnd = false) ∧ (0 < ends → v.ended = true)

/-- A client that was handed the end knows it. -/
theorem Sound.ended_of_mem {v : ClientView} (sound : v.Sound) (h : .endOfStream ∈ v.handed) :
    v.ended = true := by
  obtain ⟨before, ends, handed, notEnd, past⟩ := sound.handed
  rw [handed] at h
  rcases List.mem_append.1 h with h | h
  · cases notEnd _ h
  · have := List.length_pos_of_mem h
    rw [List.length_replicate] at this
    exact past this

/-- A client that has not got the end has not handed one out. -/
theorem Sound.notEnd {v : ClientView} (sound : v.Sound) (running : v.ended = false) :
    ∀ m ∈ v.handed, m.isEnd = false := by
  obtain ⟨before, ends, handed, notEnd, past⟩ := sound.handed
  have hnone : ends = 0 := by
    by_contra hsome
    rw [past (Nat.pos_of_ne_zero hsome)] at running
    cases running
  rw [handed, hnone, List.replicate_zero, List.append_nil]
  exact notEnd

/-- So what it handed out is a stream. -/
theorem stream_of_notEnd {handed : List Message} (notEnd : ∀ m ∈ handed, m.isEnd = false)
    (ended : Bool) :
    ∃ before ends, handed = before ++ List.replicate ends .endOfStream ∧
      (∀ m ∈ before, m.isEnd = false) ∧ (0 < ends → ended = true) :=
  ⟨handed, 0, (List.append_nil _).symm, notEnd, fun h => absurd h (Nat.lt_irrefl 0)⟩

/-- A client that got the end does not wait. -/
theorem Sound.idle_of_ended {v : ClientView} (sound : v.Sound) (ended : v.ended = true) :
    v.awaiting = false := by
  by_contra waits
  have running := (sound.waiting (Bool.eq_true_of_not_eq_false waits)).2.1
  exact absurd (running.symm.trans ended) Bool.false_ne_true

/-- A client that is not connected does not wait. -/
theorem Sound.idle_of_free {v : ClientView} (sound : v.Sound) (free : v.dealer = none) :
    v.awaiting = false := by
  by_contra waits
  obtain ⟨-, -, s, own⟩ := sound.waiting (Bool.eq_true_of_not_eq_false waits)
  rw [free] at own
  cases own

/-- A client that does not wait may come and go. -/
theorem Sound.reconnect {v : ClientView} (sound : v.Sound) (idle : v.awaiting = false)
    (dealer : Option DealerSocket) : Sound { v with dealer } :=
  ⟨fun waits => absurd (idle.symm.trans waits) Bool.false_ne_true, sound.last, sound.handed⟩

/-- What it got: what it handed out, without the ends, and what it will hand out. -/
def got (v : ClientView) : List Message :=
  v.handed.filter (fun m => !m.isEnd) ++ v.records.map fun record => .process [record]

/-- What a client makes of an answer is what the answer is handed out as. -/
theorem got_absorb {m : Message} {v : ClientView} (answer : m.IsAnswer) (empty : v.records = []) :
    (v.absorb m).got = v.got ++ m.unpacked := by
  unfold got
  rcases answer with isEnd | ⟨process, -⟩ | barrier
  · have last : m.kind = .endOfStream := eq_of_beq isEnd
    rw [Message.unpacked_of_isEnd isEnd, List.append_nil]
    simp only [absorb, last]
  · simp only [absorb, process, Message.unpacked, empty, List.map_nil, List.append_nil]
  · have notEnd : m.isEnd = false := by
      unfold Message.isEnd
      rw [barrier]
      rfl
    simp [absorb, barrier, Message.unpacked, empty, notEnd]

/-- A client comes to know the end from the end only. -/
theorem ended_absorb (m : Message) (v : ClientView) :
    (v.absorb m).ended = true → v.ended = true ∨ m.isEnd = true := by
  unfold absorb
  split
  · exact Or.inl
  · next last =>
    intro _
    right
    rw [Message.isEnd, last]
    rfl
  · exact Or.inl

theorem absorb_dealer (m : Message) (v : ClientView) : (v.absorb m).dealer = v.dealer := by
  unfold absorb
  split <;> rfl

/-- An answer ends the waiting. -/
theorem absorb_awaiting (m : Message) (v : ClientView) : (v.absorb m).awaiting = false := by
  unfold absorb
  split <;> rfl

end ClientView

/-- What a client with the identity `id` can do, to its view and to the router numbered `rn`. -/
inductive ClientMove (id : ClientId) (rn : Option Nat) :
    ClientView → Router → ClientView → Router → Prop where
  | still (v : ClientView) (r : Router) : ClientMove id rn v r v r
  /-- It connects. -/
  | connect {v : ClientView} (r : Router) {s : DealerSocket} (free : v.dealer = none)
      (number : rn = some s.number) (mailbox : s.mailbox = r.mailboxes.length) :
      ClientMove id rn v r { v with dealer := some s }
        { r with
          mailboxes := r.mailboxes ++ [[]]
          peers := (id, s.mailbox) :: r.peers.filter fun peer => peer.1 ≠ id }
  /-- It says that it is there. -/
  | greet {v : ClientView} {r : Router} {frames : Frames}
      (framed : Message.ofFrames frames = .ok (.registration id)) (opened : r.isOpen = true) :
      ClientMove id rn v r v { r with inbound := r.inbound ++ [(id, frames)] }
  /-- It has nothing left and asks for more. -/
  | ask {v : ClientView} {r : Router} {s : DealerSocket} {frames : Frames}
      (own : v.dealer = some s) (idle : v.awaiting = false) (empty : v.records = [])
      (running : v.ended = false) (framed : Message.ofFrames frames = .ok (.dataRequest id))
      (opened : r.isOpen = true) :
      ClientMove id rn v r { v with awaiting := true }
        { r with inbound := r.inbound ++ [(id, frames)] }
  /-- It gets the answer. -/
  | receive {v : ClientView} {r : Router} {s : DealerSocket} {frames : Frames} {rest : Mailbox}
      {m : Message} (own : v.dealer = some s) (waits : v.awaiting = true)
      (mail : r.mailboxes[s.mailbox]? = some (frames :: rest))
      (framed : Message.ofFrames frames = .ok m) (answer : m.IsAnswer) :
      ClientMove id rn v r (v.absorb m)
        { r with mailboxes := r.mailboxes.modify s.mailbox List.tail }
  /-- It hands a record out. -/
  | hand {v : ClientView} (r : Router) {record : Bytes} {records : List Bytes}
      (first : v.records = record :: records) :
      ClientMove id rn v r
        { v with records, handed := v.handed ++ [.process [record]] } r
  /-- It hands the end out. -/
  | finish {v : ClientView} (r : Router) (ended : v.ended = true) :
      ClientMove id rn v r { v with handed := v.handed ++ [.endOfStream] } r
  /-- It takes leave. -/
  | leave {v : ClientView} {r : Router} {s : DealerSocket} {frames : Frames}
      (own : v.dealer = some s) (ended : v.ended = true)
      (framed : Message.ofFrames frames = .ok (.unregistration id)) (opened : r.isOpen = true) :
      ClientMove id rn v r { v with dealer := none }
        { r with
          inbound := r.inbound ++ [(id, frames)]
          peers := r.peers.filter fun peer => peer.1 ≠ id }
  /-- It waits in vain: it has no mail, and is nobody's peer. -/
  | lose {v : ClientView} {r : Router} {s : DealerSocket} (own : v.dealer = some s)
      (empty : mailOf r v.dealer = []) (alone : ∀ peer ∈ r.peers, peer.2 ≠ s.mailbox) :
      ClientMove id rn v r { v with awaiting := false } r
  /-- It gives up, because the router is closed. -/
  | quit {v : ClientView} {r : Router} {s : DealerSocket} (own : v.dealer = some s)
      (idle : v.awaiting = false) (closed : r.isOpen = false) :
      ClientMove id rn v r { v with dealer := none }
        { r with peers := r.peers.filter fun peer => peer.1 ≠ id }

/-- What a client that waits makes of an answer keeps its view sound. -/
theorem ClientView.Sound.absorb {v : ClientView} (sound : v.Sound) (waits : v.awaiting = true)
    (m : Message) : (v.absorb m).Sound := by
  obtain ⟨empty, running, -⟩ := sound.waiting waits
  have notEnd := sound.notEnd running
  have idle : (v.absorb m).awaiting = true → False := by
    rw [ClientView.absorb_awaiting]
    exact Bool.false_ne_true
  refine ⟨fun waits => (idle waits).elim, ?_, ?_⟩
  · unfold ClientView.absorb
    split
    · exact fun ended => absurd (running.symm.trans ended) Bool.false_ne_true
    · exact fun _ => empty
    · exact fun _ => empty
  · unfold ClientView.absorb
    split
    · exact stream_of_notEnd notEnd _
    · exact stream_of_notEnd notEnd _
    · next plain =>
      refine stream_of_notEnd (fun m' hm' => ?_) _
      rcases List.mem_append.1 hm' with old | new
      · exact notEnd m' old
      · rw [List.mem_singleton.1 new]
        exact Bool.eq_false_iff.2 fun isEnd => plain (eq_of_beq isEnd)

/-- Every move keeps a view sound. -/
theorem ClientMove.sound {id : ClientId} {rn : Option Nat} {v v' : ClientView} {r r' : Router}
    (move : ClientMove id rn v r v' r') (sound : v.Sound) : v'.Sound := by
  cases move with
  | still => exact sound
  | greet framed opened => exact sound
  | connect free number mailbox => exact sound.reconnect (sound.idle_of_free free) _
  | ask own idle empty running framed opened =>
    exact ⟨fun _ => ⟨empty, running, _, own⟩, sound.last, sound.handed⟩
  | receive own waits mail framed answer => exact sound.absorb waits _
  | @hand record records first =>
    have running : v.ended = false := by
      by_contra ended
      rw [sound.last (Bool.eq_true_of_not_eq_false ended)] at first
      cases first
    refine ⟨fun waits => ?_, fun ended => ?_, ClientView.stream_of_notEnd (fun m hm => ?_) _⟩
    · rw [(sound.waiting waits).1] at first
      cases first
    · exact absurd (running.symm.trans ended) Bool.false_ne_true
    · rcases List.mem_append.1 hm with old | new
      · exact sound.notEnd running m old
      · rw [List.mem_singleton.1 new]
        rfl
  | finish ended =>
    obtain ⟨before, ends, handed, notEnd, -⟩ := sound.handed
    refine ⟨sound.waiting, sound.last, before, ends + 1, ?_, notEnd, fun _ => ended⟩
    show v.handed ++ _ = _
    rw [handed, List.append_assoc, ← List.replicate_succ']
  | leave own ended framed opened => exact sound.reconnect (sound.idle_of_ended ended) _
  | lose own empty alone => exact ⟨nofun, sound.last, sound.handed⟩
  | quit own idle closed => exact sound.reconnect idle _

namespace Client

abbrev Answers := List (SourceCall × Except Error Reply)

def isJoin : SourceCall × Except Error Reply → Bool
  | (.connect, .ok _) => true
  | _ => false

def Answers.joined (answered : Answers) : Bool := answered.any isJoin

theorem Answers.joined_snoc (answered : Answers) (a : SourceCall × Except Error Reply) :
    joined (answered ++ [a]) = (answered.joined || isJoin a) := by
  unfold joined
  rw [List.any_append, List.any_cons, List.any_nil, Bool.or_false]

abbrev Story := Session SourceCall Client Task Reply

namespace Story

/-- What may be asked of a client that gave these answers: to connect until it has, then for
messages, and to leave when it has handed out the end. -/
inductive May (answered : Answers) : SourceCall → Prop where
  | connect (apart : answered.joined = false) : May answered .connect
  | next (joined : answered.joined = true) : May answered .next
  | disconnect (past : .endOfStream ∈ handedOut answered) : May answered .disconnect
  | release (past : .endOfStream ∈ handedOut answered) : May answered .release

instance (answered : Answers) : DecidablePred (May answered)
  | .connect =>
    decidable_of_iff (answered.joined = false) ⟨.connect, fun (.connect apart) => apart⟩
  | .next => decidable_of_iff (answered.joined = true) ⟨.next, fun (.next joined) => joined⟩
  | .disconnect =>
    decidable_of_iff (.endOfStream ∈ handedOut answered) ⟨.disconnect, fun (.disconnect h) => h⟩
  | .release =>
    decidable_of_iff (.endOfStream ∈ handedOut answered) ⟨.release, fun (.release h) => h⟩
  | .register _ => isFalse nofun
  | .unregister _ => isFalse nofun

def ask (call : SourceCall) (s : Story) : Story := Session.ask source.toService call s

def step (s : Story) (net : Network) : Story × Network := Session.step source.toService s net

/-- Its end of the router, which it may hold in the middle of a call. -/
def dealer (s : Story) : Option DealerSocket :=
  match s.current with
  | some (_, .registering dealer) => some dealer
  | some (_, .leaving dealer) => some dealer
  | _ => s.server.dealer

def awaits (s : Story) : Bool :=
  match s.current with
  | some (_, .awaiting) => true
  | _ => false

def view (s : Story) : ClientView where
  dealer := s.dealer
  awaiting := s.awaits
  ended := s.server.ended
  records := s.server.records
  handed := handedOut s.answered

end Story

/-! ## Where a client stands -/

/-- An end of the router with this number, for this identity. -/
structure Own (rn : Option Nat) (id : ClientId) (socket : DealerSocket) : Prop where
  number : rn = some socket.number
  identity : socket.identity = id

inductive Leaving : SourceCall → Prop where
  | disconnect : Leaving .disconnect
  | release : Leaving .release

/-- Where a client stands: its end of the router, the call that it is serving, and whether it has
connected and got the end. -/
inductive Standing (rn : Option Nat) (id : ClientId) :
    Option DealerSocket → Option (SourceCall × Task) → Bool → Bool → Prop where
  | apart : Standing rn id none none false false
  | asked : Standing rn id none (some (.connect, .begin .connect)) false false
  | connecting (deadline : Nat) :
      Standing rn id none (some (.connect, .connecting deadline)) false false
  | greeting {socket : DealerSocket} (own : Own rn id socket) :
      Standing rn id none (some (.connect, .registering socket)) false false
  | idle {socket : DealerSocket} (own : Own rn id socket) (ended : Bool) :
      Standing rn id (some socket) none true ended
  | wanting {socket : DealerSocket} (own : Own rn id socket) (ended : Bool) :
      Standing rn id (some socket) (some (.next, .begin .next)) true ended
  | waiting {socket : DealerSocket} (own : Own rn id socket) :
      Standing rn id (some socket) (some (.next, .awaiting)) true false
  | turning {socket : DealerSocket} (own : Own rn id socket) {call : SourceCall}
      (leaves : Leaving call) : Standing rn id (some socket) (some (call, .begin call)) true true
  | leaving {socket : DealerSocket} (own : Own rn id socket) {call : SourceCall}
      (leaves : Leaving call) : Standing rn id none (some (call, .leaving socket)) true true
  | gone : Standing rn id none none true true
  | again {call : SourceCall} (leaves : Leaving call) :
      Standing rn id none (some (call, .begin call)) true true
  | after : Standing rn id none (some (.next, .begin .next)) true true

structure Story.At (uri : String) (rn : Option Nat) (id : ClientId) (s : Story) : Prop where
  uri : s.server.uri = uri
  identity : s.server.identity = id
  standing : Standing rn id s.server.dealer s.current (Answers.joined s.answered) s.server.ended

theorem Story.at_start (uri : String) (rn : Option Nat) (id : ClientId) :
    Story.At uri rn id { server := { uri, identity := id } } :=
  ⟨rfl, rfl, .apart⟩

/-- Nobody has an end of a router that is not there, so it may come at any time. -/
theorem Standing.found {id : ClientId} {dealer : Option DealerSocket}
    {current : Option (SourceCall × Task)} {joined ended : Bool}
    (h : Standing none id dealer current joined ended) (rn : Option Nat) :
    Standing rn id dealer current joined ended := by
  cases h with
  | apart => exact .apart
  | asked => exact .asked
  | connecting deadline => exact .connecting deadline
  | greeting own => cases own.number
  | idle own _ => cases own.number
  | wanting own _ => cases own.number
  | waiting own => cases own.number
  | turning own _ => cases own.number
  | leaving own _ => cases own.number
  | gone => exact .gone
  | again leaves => exact .again leaves
  | after => exact .after

variable {uri c : String} {rn pn : Option Nat} {id : ClientId} {s : Story} {net : Network}
  {r : Router} {p : Pipe}

/-- A client that has no socket stands where it stands, whatever router there is. -/
theorem Story.At.found (here : s.At uri none id) (rn : Option Nat) : s.At uri rn id :=
  { here with standing := here.standing.found rn }

/-- A call that may be made changes nothing that matters. -/
theorem Story.At.ask (here : s.At uri rn id) (sound : s.view.Sound) (idle : s.current = none)
    {call : SourceCall} (may : May s.answered call) :
    (s.ask call).At uri rn id ∧ (s.ask call).view = s.view := by
  obtain ⟨server, current, answered⟩ := s
  obtain rfl : current = none := idle
  refine ⟨⟨here.uri, here.identity, ?_⟩, rfl⟩
  have standing := here.standing
  have past := sound.ended_of_mem
  show Standing rn id server.dealer (some (call, .begin call)) (Answers.joined answered)
    server.ended
  simp only [view, dealer] at standing past
  generalize server.dealer = dealer, server.ended = ended at standing past ⊢
  cases may with
  | connect apart =>
    rw [apart] at standing ⊢
    cases standing
    exact .asked
  | next joined =>
    rw [joined] at standing ⊢
    cases standing with
    | idle own => exact .wanting own _
    | gone => exact .after
  | disconnect h =>
    obtain rfl := past h
    generalize Answers.joined answered = joined at standing
    cases standing with
    | idle own => exact .turning own .disconnect
    | gone => exact .again .disconnect
  | release h =>
    obtain rfl := past h
    generalize Answers.joined answered = joined at standing
    cases standing with
    | idle own => exact .turning own .release
    | gone => exact .again .release

def Goes (uri c : String) (rn pn : Option Nat) (id : ClientId) (r : Router) (p : Pipe) (s : Story)
    (after : Story × Network) : Prop :=
  ∃ r', after.1.At uri rn id ∧ Lines after.2 uri c rn pn r' p ∧
    ClientMove id rn s.view r after.1.view r'

section Steps

variable {server server' : Client} {current current' : Option (SourceCall × Task)}
  {answered : Answers} {s' : Story}

theorem Goes.stays (at' : s'.At uri rn id) (lines : Lines net uri c rn pn r p)
    (same : s'.view = s.view) : Goes uri c rn pn id r p s (s', net) := by
  refine ⟨r, at', lines, ?_⟩
  show ClientMove id rn s.view r s'.view r
  rw [same]
  exact .still ..

/-- A client that is asked for a message hands out what it has, or asks the dispenser for more. -/
theorem wanting_step {socket : DealerSocket} (own : Own rn id socket)
    (here : Story.At uri rn id ⟨server, some (.next, .begin .next), answered⟩)
    (hdealer : server.dealer = some socket) (joined : answered.joined = true)
    (lines : Lines net uri c rn pn r p) :
    Goes uri c rn pn id r p ⟨server, some (.next, .begin .next), answered⟩
      (Story.step ⟨server, some (.next, .begin .next), answered⟩ net) := by
  have hidentity : server.identity = id := here.identity
  have answers : ∀ (records : List Bytes) (result : Except Error Reply),
      Story.At uri rn id ⟨{ server with records }, none, answered ++ [(.next, result)]⟩ := by
    intro records result
    refine ⟨here.uri, here.identity, ?_⟩
    show Standing rn id server.dealer none (Answers.joined (answered ++ _)) server.ended
    rw [hdealer, Answers.joined_snoc, joined]
    exact .idle own _
  simp only [Story.step, Session.step, source, Client.step, next]
  cases hrecords : server.records with
  | cons record records =>
    refine ⟨r, answers records _, lines, ?_⟩
    show ClientMove id rn _ r
      ⟨server.dealer, false, server.ended, records, handedOut (answered ++ [_])⟩ r
    rw [handedOut_next]
    exact .hand r hrecords
  | nil =>
  -- No records are left: it asks for more, unless the end has been met.
  have same : { server with records := [] } = server := by rw [← hrecords]
  have answers := answers []
  rw [same] at answers
  cases hended : server.ended with
  | true =>
    refine ⟨r, answers _, lines, ?_⟩
    show ClientMove id rn _ r
      ⟨server.dealer, false, server.ended, server.records, handedOut (answered ++ [_])⟩ r
    rw [handedOut_next]
    exact .finish r hended
  | false =>
  obtain ⟨frames, hframes, framed⟩ :=
    Message.exists_frames (m := .dataRequest server.identity) rfl rfl
  simp only [hdealer, hframes, Bool.false_eq_true, if_false]
  cases hsend : socket.send frames net with
  | blocked => exact .stays here lines rfl
  | failed cause =>
    refine .stays (answers _) lines ?_
    show (⟨_, _, _, _, handedOut (answered ++ [_])⟩ : ClientView) = _
    rw [handedOut_error]
    rfl
  | done result net' =>
    have lines' := lines.dealerSend own.number hsend
    have opened := (lines.dealerSend_isOpen own.number _).1 net' hsend
    rw [own.identity] at lines'
    refine ⟨_, ⟨here.uri, here.identity, ?_⟩, lines', ?_⟩
    · show Standing rn id server.dealer (some (.next, .awaiting)) (Answers.joined answered)
        server.ended
      rw [hdealer, joined, hended]
      exact .waiting own
    · refine .ask hdealer rfl hrecords hended ?_ opened
      rw [← hidentity]
      exact framed

/-- A client that waits takes the answer in. -/
theorem waiting_step {socket : DealerSocket} (own : Own rn id socket)
    (here : Story.At uri rn id ⟨server, some (.next, .awaiting), answered⟩)
    (hdealer : server.dealer = some socket) (joined : answered.joined = true)
    (empty : server.records = [])
    (lines : Lines net uri c rn pn r p)
    (letters : ∀ box ∈ r.mailboxes, ∀ frames ∈ box, Readable frames) :
    Goes uri c rn pn id r p ⟨server, some (.next, .awaiting), answered⟩
      (Story.step ⟨server, some (.next, .awaiting), answered⟩ net) := by
  have answers : ∀ result : Except Error Reply,
      Story.At uri rn id ⟨server, none, answered ++ [(.next, result)]⟩ := by
    intro result
    refine ⟨here.uri, here.identity, ?_⟩
    show Standing rn id server.dealer none (Answers.joined (answered ++ _)) server.ended
    rw [hdealer, Answers.joined_snoc, joined]
    exact .idle own _
  have wants : ∀ (records : List Bytes) (ended : Bool), Story.At uri rn id
      ⟨{ server with records, ended }, some (.next, .begin .next), answered⟩ := by
    intro records ended
    refine ⟨here.uri, here.identity, ?_⟩
    show Standing rn id server.dealer (some (.next, .begin .next)) (Answers.joined answered) ended
    rw [hdealer, joined]
    exact .wanting own _
  simp only [Story.step, Session.step, source, Client.step, hdealer]
  cases hrecv : socket.recv net with
  | blocked => exact .stays here lines rfl
  | failed cause =>
    obtain ⟨nothing, alone⟩ := lines.dealerRecv_failed own.number hrecv
    refine ⟨r, answers _, lines, ?_⟩
    show ClientMove id rn _ r
      ⟨server.dealer, false, server.ended, server.records, handedOut (answered ++ [_])⟩ r
    rw [handedOut_error]
    refine .lose hdealer ?_ alone
    show mailOf r server.dealer = []
    rw [hdealer]
    exact nothing
  | done frames net' =>
    obtain ⟨⟨rest, mail⟩, lines'⟩ := lines.dealerRecv own.number hrecv
    obtain ⟨m, framed, answer⟩ := letters _ (List.mem_of_getElem? mail) frames
      List.mem_cons_self
    have move (v' : ClientView)
        (same : v' = (Story.view ⟨server, some (.next, .awaiting), answered⟩).absorb m) :
        ClientMove id rn (Story.view ⟨server, some (.next, .awaiting), answered⟩) r v'
          { r with mailboxes := r.mailboxes.modify socket.mailbox List.tail } := by
      rw [same]
      exact .receive hdealer rfl mail framed answer
    simp only [framed, takeIn]
    obtain ⟨kind, parts⟩ := m
    cases kind with
    | process =>
      obtain ⟨records, hrecords⟩ : ∃ records, Message.records ⟨.process, parts⟩ = .ok records := by
        rcases answer with isEnd | ⟨-, carries⟩ | kind
        · cases isEnd
        · exact carries
        · cases kind
      have hcontent := Message.content_of_records rfl hrecords
      simp only [hrecords, empty, List.nil_append]
      have wants := wants records server.ended
      refine ⟨_, wants, lines', move _ ?_⟩
      show (⟨server.dealer, false, server.ended, records, handedOut answered⟩ : ClientView)
        = ⟨server.dealer, false, server.ended, Message.content ⟨.process, parts⟩, _⟩
      rw [hcontent]
      rfl
    | endOfStream => exact ⟨_, wants server.records true, lines', move _ rfl⟩
    | _ =>
      -- Any other message is handed out as it is.
      refine ⟨_, answers _, lines', move _ ?_⟩
      show (⟨server.dealer, false, server.ended, server.records, handedOut (answered ++ [_])⟩ :
        ClientView) = _
      rw [handedOut_next]
      rfl

/-- A client that leaves says so, or gives up. -/
theorem leaving_step {socket : DealerSocket} (own : Own rn id socket) {call : SourceCall}
    (leaves : Leaving call)
    (here : Story.At uri rn id ⟨server, some (call, .leaving socket), answered⟩)
    (hdealer : server.dealer = none) (joined : answered.joined = true)
    (ended : server.ended = true) (lines : Lines net uri c rn pn r p) :
    Goes uri c rn pn id r p ⟨server, some (call, .leaving socket), answered⟩
      (Story.step ⟨server, some (call, .leaving socket), answered⟩ net) := by
  have hidentity : server.identity = id := here.identity
  have answers : ∀ result : Except Error Reply,
      Story.At uri rn id ⟨server, none, answered ++ [(call, result)]⟩ := by
    intro result
    refine ⟨here.uri, here.identity, ?_⟩
    show Standing rn id server.dealer none (Answers.joined (answered ++ _)) server.ended
    rw [hdealer, ended, Answers.joined_snoc, joined]
    exact .gone
  have view : ∀ result : Except Error Reply,
      Story.view ⟨server, none, answered ++ [(call, result)]⟩
        = { Story.view ⟨server, some (call, .leaving socket), answered⟩ with dealer := none } := by
    intro result
    have other : call ≠ .next := by cases leaves <;> nofun
    show (⟨server.dealer, _, _, _, handedOut (answered ++ _)⟩ : ClientView) = _
    rw [hdealer, handedOut_of_ne answered other]
    rfl
  obtain ⟨frames, hframes, framed⟩ :=
    Message.exists_frames (m := .unregistration server.identity) rfl rfl
  simp only [Story.step, Session.step, source, Client.step, speak, hframes]
  cases hsend : socket.send frames net with
  | blocked => exact .stays here lines rfl
  | failed cause =>
    have closed := (lines.dealerSend_isOpen own.number _).2 cause hsend
    have lines' := lines.dealerClose own.number
    rw [own.identity] at lines'
    refine ⟨_, answers _, lines', ?_⟩
    show ClientMove id rn _ r (Story.view ⟨server, none, answered ++ [(call, _)]⟩) _
    rw [view]
    exact .quit rfl rfl closed
  | done result net' =>
    have opened := (lines.dealerSend_isOpen own.number _).1 net' hsend
    have lines' := (lines.dealerSend own.number hsend).dealerClose own.number
    rw [own.identity] at lines'
    simp only [Bool.false_eq_true, if_false]
    refine ⟨_, answers _, lines', ?_⟩
    show ClientMove id rn _ r (Story.view ⟨server, none, answered ++ [(call, _)]⟩) _
    rw [view]
    refine .leave rfl ended ?_ opened
    rw [← hidentity]
    exact framed

/-- A client that has connected says that it is there, or gives up. -/
theorem greeting_step {socket : DealerSocket} (own : Own rn id socket)
    (here : Story.At uri rn id ⟨server, some (.connect, .registering socket), answered⟩)
    (hdealer : server.dealer = none) (apart : answered.joined = false)
    (running : server.ended = false) (lines : Lines net uri c rn pn r p) :
    Goes uri c rn pn id r p ⟨server, some (.connect, .registering socket), answered⟩
      (Story.step ⟨server, some (.connect, .registering socket), answered⟩ net) := by
  have hidentity : server.identity = id := here.identity
  obtain ⟨frames, hframes, framed⟩ :=
    Message.exists_frames (m := .registration server.identity) rfl rfl
  simp only [Story.step, Session.step, source, Client.step, speak, hframes]
  cases hsend : socket.send frames net with
  | blocked => exact .stays here lines rfl
  | failed cause =>
    have closed := (lines.dealerSend_isOpen own.number _).2 cause hsend
    have lines' := lines.dealerClose own.number
    rw [own.identity] at lines'
    refine ⟨_, ⟨here.uri, here.identity, ?_⟩, lines', ?_⟩
    · show Standing rn id server.dealer none (Answers.joined (answered ++ _)) server.ended
      rw [hdealer, running, Answers.joined_snoc, apart]
      exact .apart
    · show ClientMove id rn _ r ⟨server.dealer, _, _, _, handedOut (answered ++ _)⟩ _
      rw [hdealer, handedOut_error]
      exact .quit rfl rfl closed
  | done result net' =>
    have opened := (lines.dealerSend_isOpen own.number _).1 net' hsend
    have lines' := lines.dealerSend own.number hsend
    rw [own.identity] at lines'
    simp only [if_true]
    refine ⟨_, ⟨here.uri, here.identity, ?_⟩, lines', ?_⟩
    · show Standing rn id (some socket) none (Answers.joined (answered ++ _)) server.ended
      rw [running, Answers.joined_snoc, apart]
      exact .idle own _
    · show ClientMove id rn _ r ⟨_, _, _, _, handedOut (answered ++ _)⟩ _
      rw [handedOut_of_ne answered (by decide)]
      refine .greet ?_ opened
      rw [← hidentity]
      exact framed

/-- A client that connects waits for the dispenser, or gets an end of its router. -/
theorem connecting_step {deadline : Nat}
    (here : Story.At uri rn id ⟨server, some (.connect, .connecting deadline), answered⟩)
    (hdealer : server.dealer = none) (apart : answered.joined = false)
    (running : server.ended = false) (lines : Lines net uri c rn pn r p) :
    Goes uri c rn pn id r p ⟨server, some (.connect, .connecting deadline), answered⟩
      (Story.step ⟨server, some (.connect, .connecting deadline), answered⟩ net) := by
  obtain rfl : server.uri = uri := here.uri
  obtain rfl : server.identity = id := here.identity
  simp only [Story.step, Session.step, source, Client.step]
  cases hconnect : (DealerSocket.connect net server.uri server.identity).orNotBound server.uri
      (deadline ≤ net.now) with
  | blocked => exact .stays here lines rfl
  | failed cause =>
    refine .stays ⟨here.uri, here.identity, ?_⟩ lines ?_
    · show Standing rn _ server.dealer none (Answers.joined (answered ++ _)) server.ended
      rw [hdealer, running, Answers.joined_snoc, apart]
      exact .apart
    · show (⟨_, _, _, _, handedOut (answered ++ _)⟩ : ClientView) = _
      rw [handedOut_error]
      rfl
  | done socket net' =>
    obtain ⟨number, mailbox, identity, lines'⟩ := lines.connectDealer
      (Attempt.of_orNotBound hconnect)
    refine ⟨_, ⟨here.uri, here.identity, ?_⟩, lines', .connect r hdealer number mailbox⟩
    show Standing rn _ server.dealer (some (.connect, .registering socket))
      (Answers.joined answered) server.ended
    rw [hdealer, running, apart]
    exact .greeting ⟨number, identity⟩

end Steps

/-- **A step of a client is one of its moves.** One case for each place where it may stand. -/
theorem Story.At.step (here : s.At uri rn id) (sound : s.view.Sound)
    (lines : Lines net uri c rn pn r p)
    (letters : ∀ box ∈ r.mailboxes, ∀ frames ∈ box, Readable frames) :
    Goes uri c rn pn id r p s (s.step net) := by
  obtain ⟨server, current, answered⟩ := s
  have standing := here.standing
  simp only at standing
  generalize hdealer : server.dealer = dealer, hjoined : Answers.joined answered = joined,
    hended : server.ended = ended at standing
  cases standing with
  | apart => exact .stays here lines rfl
  | idle own => exact .stays here lines rfl
  | gone => exact .stays here lines rfl
  | connecting deadline => exact connecting_step here hdealer hjoined hended lines
  | greeting own => exact greeting_step own here hdealer hjoined hended lines
  | wanting own => exact wanting_step own here hdealer hjoined lines
  | waiting own =>
    exact waiting_step own here hdealer hjoined (sound.waiting rfl).1 lines letters
  | leaving own leaves => exact leaving_step own leaves here hdealer hjoined hended lines
  -- The other cases are first steps of calls, and touch neither the mailbox nor the row.
  | asked =>
    simp only [Story.step, Session.step, source, Client.step, hdealer]
    refine .stays ⟨here.uri, here.identity, ?_⟩ lines rfl
    show Standing rn id server.dealer (some (.connect, .connecting _)) (Answers.joined answered)
      server.ended
    rw [hdealer, hjoined, hended]
    exact .connecting _
  | @turning socket own call leaves =>
    have empty : server.records = [] := sound.last hended
    -- The client lets its socket go, and has yet to say so.
    have left : Story.step ⟨server, some (call, .begin call), answered⟩ net
        = (⟨{ server with dealer := none, records := [] }, some (call, .leaving socket), answered⟩,
          net) := by
      cases leaves <;> simp only [Story.step, Session.step, source, Client.step, leave, hdealer]
    rw [left]
    refine .stays ⟨here.uri, here.identity, ?_⟩ lines ?_
    · show Standing rn id none (some (call, .leaving socket)) (Answers.joined answered)
        server.ended
      rw [hjoined, hended]
      exact .leaving own leaves
    · show (⟨some socket, _, _, [], _⟩ : ClientView) = ⟨server.dealer, _, _, server.records, _⟩
      rw [hdealer, empty]
      rfl
  | @again call leaves =>
    have other : call ≠ .next := by cases leaves <;> nofun
    have answer : Story.step ⟨server, some (call, .begin call), answered⟩ net
        = (⟨server, none, answered ++ [(call, .ok none)]⟩, net) := by
      cases leaves <;> simp only [Story.step, Session.step, source, Client.step, leave, hdealer] <;>
        rfl
    rw [answer]
    refine .stays ⟨here.uri, here.identity, ?_⟩ lines ?_
    · show Standing rn id server.dealer none (Answers.joined (answered ++ _)) server.ended
      rw [hdealer, hended, Answers.joined_snoc, hjoined]
      exact .gone
    · show (⟨_, _, _, _, handedOut (answered ++ _)⟩ : ClientView) = _
      rw [handedOut_of_ne answered other]
      rfl
  | after =>
    have empty : server.records = [] := sound.last hended
    have answer : Story.step ⟨server, some (.next, .begin .next), answered⟩ net
        = (⟨server, none, answered ++ [(.next, .ok (some .endOfStream))]⟩, net) := by
      simp only [Story.step, Session.step, source, Client.step, next, empty, hended, if_true]
      rfl
    rw [answer]
    refine ⟨r, ⟨here.uri, here.identity, ?_⟩, lines, ?_⟩
    · show Standing rn id server.dealer none (Answers.joined (answered ++ _)) server.ended
      rw [hdealer, hended, Answers.joined_snoc, hjoined]
      exact .gone
    · show ClientMove id rn _ r ⟨_, _, _, _, handedOut (answered ++ _)⟩ r
      rw [handedOut_next]
      exact .finish r hended

end Client

end Fanout

end RecordFarm
