import Mathlib.Logic.Relation
import RecordFarm.Proofs.Fanin.Accounts

/-!
# The fan-in is complete

A fan-in system is a collector and its producers, each of them used by somebody who makes calls of
it as calls may be made, over one network in which others leave their wires alone. Its runs are
steps of all of them in any order.

In every state that a system can come to, its pipe and its collector's books are `Balanced`. So the
collector hands out what its producers took, each producer's messages in their order, and it ends
its stream only when everything has been handed out (`complete_at_end`).
-/

namespace RecordFarm

namespace Fanin

/-- A collector and its producers. -/
structure System where
  net : Network
  collector : Collector.Story
  producers : List Producer.Story

namespace System

/-- A system to which nothing has happened: a collector at `uri` that expects these producers. -/
def fresh (net : Network) (uri : String) (ids : List ClientId) : System where
  net := net
  collector := { server := { uri, expected := ids.length } }
  producers := ids.map fun identity => { server := { uri, identity } }

/-- One thing that happens to a system: a call is made, somebody takes a step, or something happens
elsewhere. -/
inductive Step : System → System → Prop where
  | askCollector {sys : System} {call : SourceCall} (idle : sys.collector.current = none)
      (may : Collector.Story.May sys.collector.answered call) :
      Step sys { sys with collector := Collector.Story.ask call sys.collector }
  | collect (sys : System) :
      Step sys { sys with
        collector := (Collector.Story.step sys.collector sys.net).1
        net := (Collector.Story.step sys.collector sys.net).2 }
  | askProducer {sys : System} {i : Nat} {s : Producer.Story} {call : SinkCall}
      (here : sys.producers[i]? = some s) (idle : s.current = none)
      (may : Producer.Story.May s.answered call) :
      Step sys { sys with producers := sys.producers.set i (Producer.Story.ask call s) }
  | produce {sys : System} {i : Nat} {s : Producer.Story} (here : sys.producers[i]? = some s) :
      Step sys { sys with
        producers := sys.producers.set i (Producer.Story.step s sys.net).1
        net := (Producer.Story.step s sys.net).2 }
  | elsewhere {sys : System} {net : Network} (same : sys.net.SameWires net) :
      Step sys { sys with net }

def Runs : System → System → Prop := Relation.ReflTransGen Step

inductive Move where
  | askCollector (call : SourceCall)
  | collect
  | askProducer (i : Nat) (call : SinkCall)
  | produce (i : Nat)

def play (sys : System) : Move → System
  | .askCollector call =>
    if sys.collector.current = none ∧ Collector.Story.May sys.collector.answered call then
      { sys with collector := Collector.Story.ask call sys.collector }
    else sys
  | .collect =>
    let after := Collector.Story.step sys.collector sys.net
    { sys with collector := after.1, net := after.2 }
  | .askProducer i call =>
    match sys.producers[i]? with
    | none => sys
    | some s =>
      if s.current = none ∧ Producer.Story.May s.answered call then
        { sys with producers := sys.producers.set i (Producer.Story.ask call s) }
      else sys
  | .produce i =>
    match sys.producers[i]? with
    | none => sys
    | some s =>
      let after := Producer.Story.step s sys.net
      { sys with producers := sys.producers.set i after.1, net := after.2 }

/-- A system after these moves, oldest first. -/
def played (sys : System) (moves : List Move) : System := moves.foldl play sys

theorem runs_play (sys : System) (move : Move) : Runs sys (sys.play move) := by
  cases move with
  | askCollector call =>
    simp only [play]
    split
    · next allowed => exact .single (.askCollector allowed.1 allowed.2)
    · exact .refl
  | collect => exact .single (.collect sys)
  | askProducer i call =>
    simp only [play]
    cases here : sys.producers[i]? with
    | none => exact .refl
    | some s =>
      simp only
      split
      · next allowed => exact .single (.askProducer here allowed.1 allowed.2)
      · exact .refl
  | produce i =>
    simp only [play]
    cases here : sys.producers[i]? with
    | none => exact .refl
    | some s => exact .single (.produce here)

theorem runs_played (sys : System) (moves : List Move) : Runs sys (sys.played moves) := by
  induction moves generalizing sys with
  | nil => exact .refl
  | cons move moves ih => exact (runs_play sys move).trans (ih (sys.play move))

/-- The messages that the producer `i` took. -/
def stream (sys : System) (i : Nat) : List Message :=
  match sys.producers[i]? with
  | none => []
  | some s => Producer.Answers.gave s.answered

def said (sys : System) (i : Nat) : List Message :=
  match sys.producers[i]? with
  | none => []
  | some s => s.said

def channel (sys : System) : List Message :=
  match sys.collector.server.pull with
  | none => []
  | some socket =>
    match sys.net.pipes[socket.number]? with
    | none => []
    | some pipe => pipe.queue.map Message.arrived

/-- The records in the collector's hands, as they will be handed out. -/
def held (sys : System) : List Message :=
  sys.collector.server.records.map fun record => .process [record]

/-- Nothing is left to be handed out: each of the `n` producers has come and gone, and nothing that
they pushed is in the pipe or in the collector's hands. -/
structure Spent (n : Nat) (sys : System) : Prop where
  gone : ∀ i < n, ∃ s, sys.producers[i]? = some s ∧
    Producer.Answers.joined s.answered = true ∧ Producer.Answers.left s.answered = true
  handed : sys.held = []
  quiet : sys.channel = []

end System

/-- The state of a system, when the collector at `uri` has handed out `before`, and then so many
ends. -/
structure Balanced (uri d : String) (ids : List ClientId) (r : Router) (p : Pipe)
    (taken coming : List (Nat × Message)) (before : List Message) (ends : Nat) (sys : System) :
    Prop where
  count : sys.producers.length = ids.length
  lines : Lines sys.net d uri none (sys.collector.server.pull.map PullSocket.number) r p
  opened : p.isOpen = true
  quiet : sys.collector.server.pull = none → p.queue = []
  queued : p.queue.map Message.ofFrames = coming.map fun x => .ok x.2
  collector : Collector.Story.At uri ids.length sys.collector
  producers : ∀ i s, sys.producers[i]? = some s →
    Producer.Story.At uri (identity ids i)
      (sys.collector.server.pull.map PullSocket.number) s
  handed : handedOut sys.collector.answered = before ++ List.replicate ends .endOfStream
  account : Account ids.length (identity ids) sys.said taken coming sys.collector.server before
  ended : 0 < ends →
    sys.collector.server.records = [] ∧ sys.collector.server.isComplete = true

namespace Balanced

variable {uri d : String} {ids : List ClientId} {r : Router} {p : Pipe}
  {taken coming : List (Nat × Message)} {before : List Message} {ends : Nat} {sys : System}

/-- What a producer says is a script. -/
theorem script_of_at {id : ClientId} {pn : Option Nat} {s : Producer.Story}
    (here : Producer.Story.At uri id pn s) : Script id s.said := by
  have sent : ∀ m ∈ (Producer.Answers.gave s.answered).map Producer.arrival, Sendable m.kind ∧
      (m.kind = .process → ∃ records, m.records = .ok records) := by
    intro m hm
    obtain ⟨m', hm', rfl⟩ := List.mem_map.1 hm
    obtain ⟨sendable, frames, framed⟩ := here.taken m' hm'
    obtain ⟨-, hkind, -, readable⟩ := Producer.arrival_of_framed sendable framed
    rw [hkind]
    exact ⟨sendable, readable⟩
  unfold Producer.Story.said Producer.Answers.said
  rw [here.identity]
  split
  · split
    · exact .gone (fun m hm => (sent m hm).1) fun m hm => (sent m hm).2
    · rw [List.append_nil]
      exact .here (fun m hm => (sent m hm).1) fun m hm => (sent m hm).2
  · exact .silent

/-- What each producer has said is its script. -/
theorem scripts (bal : Balanced uri d ids r p taken coming before ends sys) :
    ∀ i < ids.length, Script (identity ids i) (sys.said i) := by
  intro i hi
  rw [← bal.count] at hi
  unfold System.said
  rw [List.getElem?_eq_getElem hi]
  exact script_of_at (bal.producers i _ (List.getElem?_eq_getElem hi))

/-- Only words wait in the pipe. -/
theorem words (bal : Balanced uri d ids r p taken coming before ends sys) :
    ∀ frames ∈ p.queue, ∃ m, Message.ofFrames frames = .ok m ∧ Word m := by
  intro frames hframes
  have hmem : Message.ofFrames frames ∈ coming.map fun x => (.ok x.2 : Except Violation _) := by
    rw [← bal.queued]
    exact List.mem_map_of_mem hframes
  obtain ⟨x, hx, hok⟩ := List.mem_map.1 hmem
  have hi : x.1 < ids.length := bal.account.players x (List.mem_append_right _ hx)
  refine ⟨x.2, hok.symm, (bal.scripts x.1 hi).word x.2 ?_⟩
  rw [← bal.account.parts x.1 hi]
  refine List.mem_append_right _ ?_
  unfold dealtTo
  exact List.mem_map_of_mem (List.mem_filter.2 ⟨hx, by simp⟩)

/-- The books of a system where nobody has begun are balanced. -/
theorem start {net : Network} (hd : net.lookup d = none)
    (free : net.lookup uri = none) (ids : List ClientId) :
    Balanced uri d ids { uri := d } { uri } [] [] [] 0 (.fresh net uri ids) := by
  have silent : ∀ i, System.said (.fresh net uri ids) i = [] := by
    intro i
    unfold System.said System.fresh
    rw [List.getElem?_map]
    cases ids[i]? <;> rfl
  exact
    { count := List.length_map ..
      lines := .unbound hd free ..
      opened := rfl
      quiet := fun _ => rfl
      queued := rfl
      collector := Collector.Story.at_start ..
      producers := by
        intro i s hs
        rw [eq_of_getElem?_map hs]
        exact Producer.Story.at_start ..
      handed := rfl
      account := .start uri ids.length fun i _ => silent i
      ended := by intro h; cases h }

/-! ### Steps -/

/-- What one producer comes to is all that changes when it moves. -/
theorem said_set {i : Nat} {s : Producer.Story} (here : sys.producers[i]? = some s)
    (s' : Producer.Story) (k : Nat) (net : Network) :
    System.said { sys with producers := sys.producers.set i s', net } k
      = if k = i then s'.said else sys.said k := by
  unfold System.said
  rw [List.getElem?_set]
  have hi : i < sys.producers.length := (List.getElem?_eq_some_iff.1 here).1
  by_cases h : i = k
  · rw [if_pos h, if_pos hi, if_pos h.symm]
  · rw [if_neg h, if_neg fun hk => h hk.symm]

theorem said_of_here {i : Nat} {s : Producer.Story} (here : sys.producers[i]? = some s) :
    sys.said i = s.said := by
  unfold System.said
  rw [here]

/-- A producer that moves without a word changes nothing. -/
theorem murmur (bal : Balanced uri d ids r p taken coming before ends sys) {i : Nat}
    {s s' : Producer.Story} (here : sys.producers[i]? = some s)
    (at' : Producer.Story.At uri (identity ids i)
      (sys.collector.server.pull.map PullSocket.number) s')
    (same : s'.said = s.said) :
    Balanced uri d ids r p taken coming before ends
      { sys with producers := sys.producers.set i s' } where
  count := (List.length_set ..).trans bal.count
  lines := bal.lines
  opened := bal.opened
  quiet := bal.quiet
  queued := bal.queued
  collector := bal.collector
  producers := by
    intro k s'' hs''
    rcases getElem?_set_cases hs'' with ⟨rfl, rfl⟩ | hold
    · exact at'
    · exact bal.producers k s'' hold
  handed := bal.handed
  account := by
    refine bal.account.congr fun k _ => ?_
    have hsaid := said_set here s' k sys.net
    by_cases h : k = i
    · rw [if_pos h] at hsaid
      rw [h, said_of_here here, ← same, ← hsaid, h]
    · rw [if_neg h] at hsaid
      exact hsaid
  ended := bal.ended

/-- A call of the collector that it may be asked for leaves the books balanced. -/
theorem askCollector (bal : Balanced uri d ids r p taken coming before ends sys) {call : SourceCall}
    (idle : sys.collector.current = none)
    (may : Collector.Story.May sys.collector.answered call) :
    Balanced uri d ids r p taken coming before ends
      { sys with collector := Collector.Story.ask call sys.collector } :=
  { bal with collector := bal.collector.ask idle may }

/-- A call of a producer that it may be asked for leaves the books balanced. -/
theorem askProducer (bal : Balanced uri d ids r p taken coming before ends sys) {i : Nat}
    {s : Producer.Story} {call : SinkCall} (here : sys.producers[i]? = some s)
    (idle : s.current = none) (may : Producer.Story.May s.answered call) :
    Balanced uri d ids r p taken coming before ends
      { sys with producers := sys.producers.set i (Producer.Story.ask call s) } :=
  bal.murmur here ((bal.producers i s here).ask idle may) rfl

/-- A step of a producer: a word that it says is coming then. -/
theorem produce (bal : Balanced uri d ids r p taken coming before ends sys) {i : Nat}
    {s : Producer.Story} (here : sys.producers[i]? = some s) :
    ∃ p' coming', Balanced uri d ids r p' taken coming' before ends
      { sys with
        producers := sys.producers.set i (Producer.Story.step s sys.net).1
        net := (Producer.Story.step s sys.net).2 } := by
  obtain ⟨at', outcome⟩ := (bal.producers i s here).step bal.lines bal.opened
  generalize Producer.Story.step s sys.net = after at at' outcome ⊢
  obtain ⟨s', net'⟩ := after
  cases outcome with
  | nothing same => exact ⟨p, coming, bal.murmur here at' same⟩
  | @word _ socket frames m tied sent framed more =>
    have hi : i < ids.length := by
      rw [← bal.count]
      exact (List.getElem?_eq_some_iff.1 here).1
    have hsaid := said_set here s'
    refine ⟨{ p with queue := p.queue ++ [frames] }, coming ++ [(i, m)],
      { bal with
        count := (List.length_set ..).trans bal.count
        lines := bal.lines.pushSend tied.number sent
        quiet := ?quiet
        queued := ?queued
        producers := ?producers
        account := ?account }⟩
    -- A socket that says something is tied to a pipe, so the collector is bound.
    case quiet =>
      intro apart
      have number := tied.number
      rw [apart] at number
      cases number
    case queued =>
      rw [List.map_append, List.map_append, bal.queued, List.map_singleton, List.map_singleton,
        framed]
    case producers =>
      intro k s'' hs''
      rcases getElem?_set_cases hs'' with ⟨rfl, rfl⟩ | hold
      · exact at'
      · exact bal.producers k s'' hold
    case account =>
      refine bal.account.say hi ?_ fun k _ hk => ?_
      · rw [hsaid i net', if_pos rfl, said_of_here here]
        exact more
      · rw [hsaid k net', if_neg hk]

/-- A collector that has something to do has not handed out an end. -/
theorem not_ended (bal : Balanced uri d ids r p taken coming before ends sys)
    (busy : ¬ (sys.collector.server.records = [] ∧ sys.collector.server.isComplete = true)) :
    ends = 0 := by
  by_contra hends
  exact busy (bal.ended (Nat.pos_of_ne_zero hends))

/-- The collector binds its address. There was no pipe before, so nobody has said anything yet. -/
theorem bind (bal : Balanced uri d ids r p taken coming before ends sys) {socket : PullSocket}
    (free : sys.collector.server.pull = none) {next : Collector.Story} {net : Network}
    (server : next.server = { sys.collector.server with pull := some socket })
    (at' : Collector.Story.At uri ids.length next)
    (lines : Lines net d uri none (some socket.number) r { uri := sys.collector.server.uri })
    (handed : handedOut next.answered = handedOut sys.collector.answered) :
    Balanced uri d ids r { uri := sys.collector.server.uri } taken coming before ends
      { sys with collector := next, net } := by
  have still : coming = [] := by
    have queued := bal.queued
    rw [bal.quiet free] at queued
    exact List.map_eq_nil_iff.1 queued.symm
  obtain ⟨_, current, answered⟩ := next
  cases server
  refine
    { bal with
      lines := lines
      opened := rfl
      quiet := fun _ => rfl
      queued := by rw [still]; rfl
      collector := at'
      producers := fun i s hs => ?_
      handed := handed.trans bal.handed
      account := { bal.account with } }
  have here := bal.producers i s hs
  rw [free] at here
  exact here.found _

/-- The collector takes the word that is first in its pipe. -/
theorem take (bal : Balanced uri d ids r p taken coming before 0 sys) (distinct : ids.Nodup)
    {frames : Frames} {rest : Mailbox} {m : Message} (nothing : sys.collector.server.records = [])
    (first : p.queue = frames :: rest) (framed : Message.ofFrames frames = .ok m)
    {next : Collector.Story} {net : Network}
    (server : next.server = (Collector.absorb m sys.collector.server).1)
    (at' : Collector.Story.At uri ids.length next)
    (lines : Lines net d uri none (next.server.pull.map PullSocket.number) r
      { p with queue := rest })
    (handed : handedOut next.answered
      = handedOut sys.collector.answered ++ (Collector.absorb m sys.collector.server).2) :
    ∃ taken' coming', Balanced uri d ids r { p with queue := rest } taken' coming'
      (before ++ (Collector.absorb m sys.collector.server).2) 0
      { sys with collector := next, net } := by
  have queued := bal.queued
  rw [first, List.map_cons, framed] at queued
  obtain ⟨x, coming', rfl⟩ : ∃ x coming', coming = x :: coming' := by
    cases coming with
    | nil => cases queued
    | cons x coming' => exact ⟨x, coming', rfl⟩
  obtain ⟨j, m'⟩ := x
  rw [List.map_cons, List.cons.injEq, Except.ok.injEq] at queued
  obtain ⟨rfl, queued'⟩ := queued
  -- What is taken is what was said first of all that is still coming.
  obtain ⟨hpull, -, -⟩ := Collector.absorb_pull m sys.collector.server
  obtain ⟨_, current, answered⟩ := next
  cases server
  refine ⟨taken ++ [(j, m)], coming',
    { bal with
      lines := lines
      quiet := ?quiet
      queued := queued'
      collector := at'
      producers := ?producers
      handed := ?handed
      account := bal.account.absorb (identity_distinct distinct) bal.scripts nothing
      ended := fun h => absurd h (Nat.lt_irrefl 0) }⟩
  case quiet =>
    intro apart
    have empty := bal.quiet (hpull.symm.trans apart)
    rw [first] at empty
    cases empty
  case producers =>
    intro i s hs
    show Producer.Story.At uri (identity ids i)
      ((Collector.absorb m sys.collector.server).1.pull.map PullSocket.number) s
    rw [hpull]
    exact bal.producers i s hs
  case handed =>
    rw [handed, bal.handed, List.replicate_zero, List.append_nil, List.append_nil]

/-- **A step of the collector.** One case for each thing that it can come to. -/
theorem collect (bal : Balanced uri d ids r p taken coming before ends sys) (hdc : d ≠ uri)
    (distinct : ids.Nodup) :
    ∃ p' taken' coming' before' ends', Balanced uri d ids r p' taken' coming' before' ends'
      { sys with
        collector := (Collector.Story.step sys.collector sys.net).1
        net := (Collector.Story.step sys.collector sys.net).2 } := by
  obtain ⟨p', out, at', lines', opened', hears, hhanded⟩ :=
    bal.collector.step bal.lines hdc bal.opened bal.words
  generalize Collector.Story.step sys.collector sys.net = after at *
  obtain ⟨⟨server', current', answered'⟩, net'⟩ := after
  simp only at at' lines' hears hhanded ⊢
  cases hears with
  | nothing =>
    rw [List.append_nil] at hhanded
    exact ⟨p, taken, coming, before, ends,
      { bal with collector := at', lines := lines', handed := hhanded.trans bal.handed }⟩
  | @bind socket free =>
    rw [List.append_nil] at hhanded
    exact ⟨_, taken, coming, before, ends, bal.bind free rfl at' lines' hhanded⟩
  | @hand record records first =>
    -- There are records, so the end has not been told yet.
    obtain rfl := bal.not_ended fun past => by cases first.symm.trans past.1
    refine ⟨p, taken, coming, before ++ [Message.process [record]], 0,
      { bal with
        lines := lines'
        collector := at'
        handed := ?_
        account := bal.account.hand first
        ended := fun h => absurd h (Nat.lt_irrefl 0) }⟩
    rw [hhanded, bal.handed, List.replicate_zero, List.append_nil, List.append_nil]
  | finish nothing complete =>
    refine ⟨p, taken, coming, before, ends + 1,
      { bal with
        lines := lines'
        collector := at'
        handed := ?_
        ended := fun _ => ⟨nothing, complete⟩ }⟩
    rw [hhanded, bal.handed, List.append_assoc, ← List.replicate_succ']
  | @take frames rest m nothing running first framed word =>
    obtain rfl := bal.not_ended fun past => by cases running.symm.trans past.2
    obtain ⟨taken', coming', bal'⟩ :=
      bal.take distinct nothing first framed rfl at' lines' hhanded
    exact ⟨_, taken', coming', _, 0, bal'⟩

/-- What happens elsewhere changes nothing here. -/
theorem elsewhere (bal : Balanced uri d ids r p taken coming before ends sys) {net : Network}
    (same : sys.net.SameWires net) :
    Balanced uri d ids r p taken coming before ends { sys with net } :=
  { bal with lines := bal.lines.elsewhere same }

/-- **A step keeps the books balanced**, whoever makes it. -/
theorem step (bal : Balanced uri d ids r p taken coming before ends sys) (hdc : d ≠ uri)
    (distinct : ids.Nodup) {sys' : System} (h : System.Step sys sys') :
    ∃ p' taken' coming' before' ends',
      Balanced uri d ids r p' taken' coming' before' ends' sys' := by
  cases h with
  | askCollector idle may => exact ⟨p, taken, coming, before, ends, bal.askCollector idle may⟩
  | collect => exact bal.collect hdc distinct
  | askProducer here idle may =>
    exact ⟨p, taken, coming, before, ends, bal.askProducer here idle may⟩
  | produce here =>
    obtain ⟨p', coming', bal'⟩ := bal.produce here
    exact ⟨p', taken, coming', before, ends, bal'⟩
  | elsewhere same => exact ⟨p, taken, coming, before, ends, bal.elsewhere same⟩

end Balanced

/-- **Every state of a system is balanced.** Induction on its run. -/
theorem System.Runs.balanced {net : Network} {uri : String} {ids : List ClientId} {sys : System}
    (free : net.lookup uri = none) (distinct : ids.Nodup)
    (runs : System.Runs (.fresh net uri ids) sys) :
    ∃ d r p taken coming before ends,
      Balanced uri d ids r p taken coming before ends sys := by
  -- The system has no router: at some free address there is none to be found.
  obtain ⟨d, hdc, hd⟩ := net.exists_free uri
  have start := Balanced.start hd free ids
  refine ⟨d, { uri := d }, ?_⟩
  induction runs with
  | refl => exact ⟨_, _, _, _, _, start⟩
  | tail _ step ih =>
    obtain ⟨p, taken, coming, before, ends, bal⟩ := ih
    exact bal.step hdc distinct step

namespace Balanced

variable {uri d : String} {ids : List ClientId} {r : Router} {p : Pipe}
  {taken coming : List (Nat × Message)} {before : List Message} {ends : Nat} {sys : System}

/-- The words in the pipe are those that are coming. -/
theorem channel_eq (bal : Balanced uri d ids r p taken coming before ends sys) :
    sys.channel = coming.map Prod.snd := by
  have arrived : p.queue.map Message.arrived = coming.map Prod.snd := by
    refine Message.map_arrived_of_framed ?_
    rw [List.map_map]
    exact bal.queued
  unfold System.channel
  cases hpull : sys.collector.server.pull with
  | none =>
    rw [← arrived, bal.quiet hpull]
    rfl
  | some socket =>
    have hpipe := bal.lines.pipe socket.number (by rw [hpull]; rfl)
    simp only [hpipe]
    exact arrived

/-- What a producer says is handed out as what it took. -/
theorem unpacked_said {id : ClientId} {pn : Option Nat} {s : Producer.Story}
    (here : Producer.Story.At uri id pn s) :
    s.said.flatMap Message.unpacked
      = (Producer.Answers.gave s.answered).flatMap Message.unpacked := by
  have arrivals : ((Producer.Answers.gave s.answered).map Producer.arrival).flatMap
      Message.unpacked = (Producer.Answers.gave s.answered).flatMap Message.unpacked := by
    rw [List.flatMap_map]
    refine List.flatMap_congr fun m hm => ?_
    obtain ⟨sendable, frames, framed⟩ := here.taken m hm
    exact (Producer.arrival_of_framed sendable framed).2.2.1
  unfold Producer.Story.said Producer.Answers.said
  split
  · split <;> simp [arrivals]
  · next apart => rw [here.silent (Bool.eq_false_iff.2 apart)]

/-- A producer has come and gone when it has said so. -/
theorem gone_iff {id : ClientId} {pn : Option Nat} {s : Producer.Story}
    (here : Producer.Story.At uri id pn s) :
    .registration id ∈ s.said ∧ .unregistration id ∈ s.said ↔
      Producer.Answers.joined s.answered = true ∧ Producer.Answers.left s.answered = true := by
  have given : Message.unregistration id
      ∉ (Producer.Answers.gave s.answered).map Producer.arrival := by
    intro h
    obtain ⟨m, hm, heq⟩ := List.mem_map.1 h
    obtain ⟨sendable, frames, framed⟩ := here.taken m hm
    have hkind := (Producer.arrival_of_framed sendable framed).2.1
    rw [heq] at hkind
    rw [← hkind] at sendable
    cases sendable
  have other : Message.unregistration id ≠ .registration id := by
    intro h
    have hkind := congrArg Message.kind h
    cases hkind
  unfold Producer.Story.said Producer.Answers.said
  rw [here.identity]
  cases Producer.Answers.joined s.answered <;> cases Producer.Answers.left s.answered <;>
    simp [given, other]

/-- A producer has announced itself and taken its leave if and only if it was told to, with success.
-/
theorem said_gone_iff (bal : Balanced uri d ids r p taken coming before ends sys) {i : Nat}
    (hi : i < ids.length) :
    .registration (identity ids i) ∈ sys.said i ∧ .unregistration (identity ids i) ∈ sys.said i ↔
      ∃ s, sys.producers[i]? = some s ∧ Producer.Answers.joined s.answered = true ∧
        Producer.Answers.left s.answered = true := by
  rw [← bal.count] at hi
  have here := List.getElem?_eq_getElem hi
  rw [said_of_here here, gone_iff (bal.producers i _ here)]
  exact ⟨fun h => ⟨_, here, h⟩, fun ⟨s, hs, h⟩ => by rwa [Option.some.inj (here.symm.trans hs)]⟩

/-- What the collector has handed out, what it holds and what is in the pipe is what the producers
took, shuffled together. -/
theorem dealt (bal : Balanced uri d ids r p taken coming before ends sys) :
    Dealt ids.length (fun i => (sys.stream i).flatMap Message.unpacked)
      (before ++ sys.held ++ sys.channel.flatMap Message.unpacked) := by
  rw [bal.channel_eq]
  refine bal.account.dealt.congr fun i hi => ?_
  rw [← bal.count] at hi
  have here := List.getElem?_eq_getElem hi
  rw [said_of_here here, unpacked_said (bal.producers i _ here)]
  unfold System.stream
  rw [here]

/-- No end is handed out for what the producers took. -/
theorem isEnd_of_mem_before (bal : Balanced uri d ids r p taken coming before ends sys) :
    ∀ m ∈ before, m.isEnd = false := by
  intro m hm
  have hmem : m ∈ (taken.map Prod.snd).flatMap Message.unpacked := by
    rw [← bal.account.handed]
    exact List.mem_append_left _ hm
  obtain ⟨m', -, hm'⟩ := List.mem_flatMap.1 hmem
  exact Message.isEnd_of_mem_unpacked hm'

/-- A collector that has handed out an end has nothing left. -/
theorem spent (bal : Balanced uri d ids r p taken coming before ends sys) (distinct : ids.Nodup)
    (past : 0 < ends) : sys.Spent ids.length := by
  obtain ⟨nothing, complete⟩ := bal.ended past
  unfold Collector.isComplete at complete
  rw [Bool.and_eq_true, List.isEmpty_iff, decide_eq_true_eq, bal.collector.expected] at complete
  obtain ⟨still, gone⟩ := bal.account.silence bal.scripts (identity_distinct distinct) complete.1
    complete.2
  refine ⟨fun i hi => (bal.said_gone_iff hi).1 (gone i hi), ?_, ?_⟩
  · unfold System.held
    rw [nothing]
    rfl
  · rw [bal.channel_eq, still]
    rfl

/-- A collector that has nothing left hands out an end, and does nothing else. -/
theorem next_of_spent (bal : Balanced uri d ids r p taken coming before ends sys)
    (distinct : ids.Nodup) (spent : sys.Spent ids.length) (net : Network) :
    Collector.source.step (Collector.source.start .next) sys.collector.server net
      = (.finished (.ok (some .endOfStream)), sys.collector.server, net) := by
  have nothing : sys.collector.server.records = [] := List.map_eq_nil_iff.1 spent.handed
  have still : coming = [] := by
    have quiet := spent.quiet
    rw [bal.channel_eq] at quiet
    exact List.map_eq_nil_iff.1 quiet
  subst still
  obtain ⟨empty, all⟩ := bal.account.complete (identity_distinct distinct)
    fun i hi => (bal.said_gone_iff hi).2 (spent.gone i hi)
  have complete : sys.collector.server.isComplete = true := by
    unfold Collector.isComplete
    rw [Bool.and_eq_true, List.isEmpty_iff, decide_eq_true_eq, bal.collector.expected]
    exact ⟨empty, all⟩
  show Collector.next sys.collector.server net = _
  unfold Collector.next
  rw [nothing, complete]
  rfl

end Balanced

/-- **A fan-in is complete.** Take a collector at a free address and its producers, which have
different identities, and any order of their steps. No call of the collector fails. What it has
handed out before it ended its stream is, with what it holds and what is in the pipe, what the
producers took, shuffled together: their records one by one, and no ends. It has ended its stream
only if nothing is left, and if nothing is left it says so to everyone who asks, without reading. -/
theorem complete_at_end {net : Network} {uri : String} {ids : List ClientId} {sys : System}
    (free : net.lookup uri = none) (distinct : ids.Nodup)
    (runs : System.Runs (.fresh net uri ids) sys) :
    (∀ a ∈ sys.collector.answered, ∃ reply, a.2 = .ok reply) ∧
      (∃ before ends,
        handedOut sys.collector.answered = before ++ List.replicate ends .endOfStream ∧
        (∀ m ∈ before, m.isEnd = false) ∧
        Dealt ids.length (fun i => (sys.stream i).flatMap Message.unpacked)
          (before ++ sys.held ++ sys.channel.flatMap Message.unpacked) ∧
        (0 < ends → sys.Spent ids.length)) ∧
      (sys.Spent ids.length → ∀ net' : Network,
        Collector.source.step (Collector.source.start .next) sys.collector.server net'
          = (.finished (.ok (some .endOfStream)), sys.collector.server, net')) := by
  obtain ⟨d, r, p, taken, coming, before, ends, bal⟩ := runs.balanced free distinct
  exact ⟨bal.collector.answered,
    ⟨before, ends, bal.handed, bal.isEnd_of_mem_before, bal.dealt, bal.spent distinct⟩,
    bal.next_of_spent distinct⟩

def duo : System :=
  .fresh { limits := { capacity := 4, connectTimeout := 5000, linger := 1000 } } "in" [⟨1⟩, ⟨2⟩]

/-- The producers come one after the other, send three records, a barrier and their ends, and leave.
The collector is asked for messages before anything came, and then all the time. -/
def duet : List System.Move :=
  let producer i call := .askProducer i call :: List.replicate 3 (.produce i)
  let collector := .askCollector .next :: List.replicate 4 .collect
  [.askCollector .connect, .collect] ++ producer 0 .connect ++ collector
    ++ producer 0 (.send (.process [[4, 0, 0, 0], [5, 0, 0, 0, 7]]))
    ++ producer 0 (.send .endOfStream)
    ++ collector ++ producer 1 .connect ++ producer 1 (.send (.barrier [])) ++ collector
    ++ producer 0 .disconnect ++ collector ++ producer 1 (.send (.process [[4, 0, 0, 0]]))
    ++ collector ++ producer 1 .release ++ collector ++ collector

/-- In the duet the collector hands out what the first producer sent and what the second one did,
and then ends, twice. So nothing is left, and it will end for ever. -/
theorem complete_at_end_duet :
    handedOut (duo.played duet).collector.answered =
        [.process [[4, 0, 0, 0]], .process [[5, 0, 0, 0, 7]], .barrier [], .process [[4, 0, 0, 0]],
          .endOfStream, .endOfStream] ∧
      (duo.played duet).Spent 2 ∧
      ∀ net' : Network,
        Collector.source.step (Collector.source.start .next) (duo.played duet).collector.server net'
          = (.finished (.ok (some .endOfStream)), (duo.played duet).collector.server, net') := by
  have run : handedOut (duo.played duet).collector.answered =
      [.process [[4, 0, 0, 0]], .process [[5, 0, 0, 0, 7]], .barrier [], .process [[4, 0, 0, 0]],
        .endOfStream, .endOfStream] := by decide +kernel
  obtain ⟨-, ⟨before, ends, handed, notEnd, -, past⟩, next⟩ :=
    complete_at_end rfl (by decide) (System.runs_played duo duet)
  have spent : (duo.played duet).Spent 2 := by
    refine past (Nat.pos_of_ne_zero fun hzero => ?_)
    subst hzero
    rw [run, List.replicate_zero, List.append_nil] at handed
    have last := notEnd .endOfStream (by rw [← handed]; simp)
    cases last
  exact ⟨run, spent, next spent⟩

end Fanin

end RecordFarm
