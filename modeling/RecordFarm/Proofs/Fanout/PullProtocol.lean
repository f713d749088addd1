import RecordFarm.Proofs.Fanout.Dispensing

/-!
# The pull protocol

A fan-out system is a distributor, whose element feeds a dispenser, and the clients of the
dispenser, each of them used by somebody who makes calls of it as calls may be made. All of them
share one network, and its runs are steps of all of them in any order.

The handover is in order in every state that a system can come to (`System.Runs.joined`). So no
client ever has more than one request or answer on its way, everything but barriers goes to exactly
one of them, each of them gets its share in the order of sending, and it is handed an end only when
there is nothing left (`pull_protocol`).
-/

namespace RecordFarm

namespace Fanout

open Farm

/-- A distributor and the clients of its dispenser. The source of the distributor keeps a log. -/
structure System (σ τ : Type) where
  net : Network
  server : Distributor (σ × List Message) (SourceCall × τ)
  clients : List Client.Story

namespace System

variable {σ τ : Type} (A : Source Network σ τ)

/-- A system to which nothing has happened: a dispenser at `uri` that expects so many clients, and
clients with these identities. -/
def fresh (net : Network) (uri : String) (ids : List ClientId) (expected highWaterMark : Nat)
    (source : σ) : System σ τ where
  net := net
  server :=
    { strategy :=
        { name := "distributor"
          source := (source, [])
          processor := ()
          sink := .new uri { expected } highWaterMark } }
  clients := ids.map fun identity => { server := { uri, identity } }

/-- One thing that happens to a system: a call is made, somebody takes a step, or something happens
elsewhere. -/
inductive Step : System σ τ → System σ τ → Prop where
  | serve (sys : System σ τ) :
      Step sys { sys with
        server := (sys.server.step (distributorStrategy A.logged) sys.net).2.1
        net := (sys.server.step (distributorStrategy A.logged) sys.net).2.2 }
  | ask {sys : System σ τ} {i : Nat} {s : Client.Story} {call : SourceCall}
      (here : sys.clients[i]? = some s) (idle : s.current = none)
      (may : Client.Story.May s.answered call) :
      Step sys { sys with clients := sys.clients.set i (Client.Story.ask call s) }
  | act {sys : System σ τ} {i : Nat} {s : Client.Story} (here : sys.clients[i]? = some s) :
      Step sys { sys with
        clients := sys.clients.set i (Client.Story.step s sys.net).1
        net := (Client.Story.step s sys.net).2 }
  | elsewhere {sys : System σ τ} {net : Network} (same : sys.net.SameWires net) :
      Step sys { sys with net }

def Runs : System σ τ → System σ τ → Prop := Relation.ReflTransGen (Step A)

inductive Move where
  | serve
  | ask (i : Nat) (call : SourceCall)
  | act (i : Nat)

def play (sys : System σ τ) : Move → System σ τ
  | .serve =>
    let after := sys.server.step (distributorStrategy A.logged) sys.net
    { sys with server := after.2.1, net := after.2.2 }
  | .ask i call =>
    match sys.clients[i]? with
    | none => sys
    | some s =>
      if s.current = none ∧ Client.Story.May s.answered call then
        { sys with clients := sys.clients.set i (Client.Story.ask call s) }
      else sys
  | .act i =>
    match sys.clients[i]? with
    | none => sys
    | some s =>
      let after := Client.Story.step s sys.net
      { sys with clients := sys.clients.set i after.1, net := after.2 }

def played (sys : System σ τ) (moves : List Move) : System σ τ := moves.foldl (play A) sys

theorem runs_play (sys : System σ τ) (move : Move) : Runs A sys (sys.play A move) := by
  cases move with
  | serve => exact .single (.serve sys)
  | ask i call =>
    simp only [play]
    cases here : sys.clients[i]? with
    | none => exact .refl
    | some s =>
      simp only
      split
      · next allowed => exact .single (.ask here allowed.1 allowed.2)
      · exact .refl
  | act i =>
    simp only [play]
    cases here : sys.clients[i]? with
    | none => exact .refl
    | some s => exact .single (.act here)

theorem runs_played (sys : System σ τ) (moves : List Move) : Runs A sys (sys.played A moves) := by
  induction moves generalizing sys with
  | nil => exact .refl
  | cons move moves ih => exact (runs_play A sys move).trans (ih (sys.play A move))

/-! ## Where everything is -/

def queue (sys : System σ τ) : Queue := sys.server.strategy.sink.queue

def yielded (sys : System σ τ) : List Message := sys.server.strategy.source.2

/-- The message that the element got from this side and has not dealt with. -/
def inHand (sys : System σ τ) (side : Origin) : List Message :=
  if sys.server.strategy.origin = side then
    match sys.server.phase with
    | .dispatching m (.begin _) => [m]
    | .dispatching m (.inSink _ (.begin _)) => [m]
    | _ => []
  else []

def due (sys : System σ τ) : List Delivery :=
  match sys.server.phase with
  | .dispatching _ (.inSink _ (.deliver due _)) => due
  | _ => []

/-- What was said to the dispenser and not yet heard. -/
def inbound (sys : System σ τ) : List (ClientId × Frames) :=
  match sys.server.strategy.sink.router with
  | none => []
  | some socket =>
    match sys.net.routers[socket.number]? with
    | none => []
    | some r => r.inbound

/-- The answers that wait for a client. -/
def mailbox (sys : System σ τ) (s : Client.Story) : Mailbox :=
  match s.dealer with
  | none => []
  | some dealer =>
    match sys.net.routers[dealer.number]? with
    | none => []
    | some r => mailOf r s.dealer

/-- The requests of a client that are on their way or wait. -/
def requests (sys : System σ τ) (s : Client.Story) : Nat :=
  askedBy s.server.identity sys.inbound
    + (sys.inHand .sink).count (.dataRequest s.server.identity)
    + sys.queue.requests.count s.server.identity

/-- The answers that are on their way to a client. -/
def answers (sys : System σ τ) (s : Client.Story) : List Message :=
  (sys.mailbox s).map Message.arrived ++ messagesTo s.server.identity sys.due

/-- What a client got: what it handed out, without the ends, and what it will hand out. -/
def got (s : Client.Story) : List Message :=
  (handedOut s.answered).filter (fun m => !m.isEnd)
    ++ s.server.records.map fun record => .process [record]

/-- What is true of one client at every moment. -/
structure InStep (sys : System σ τ) (s : Client.Story) : Prop where
  /-- It has one request or one answer on its way at most, so there is always room for the answer.
  -/
  one : sys.requests s + (sys.answers s).length ≤ 1
  room : (sys.mailbox s).length ≤ 1
  /-- It hands out a stream and then ends, and with the first end there is nothing left: not at the
  sink, not on the way to it, and not with it. Then it says so to everyone who asks. -/
  ends : ∃ before ends, handedOut s.answered = before ++ List.replicate ends .endOfStream ∧
    (∀ m ∈ before, m.isEnd = false) ∧
    (0 < ends → sys.queue.rundown = true ∧ sys.queue.messages = [] ∧
      sys.requests s = 0 ∧ sys.answers s = [] ∧ s.server.records = [] ∧
      ∀ net' : Network, Client.source.step (Client.source.start .next) s.server net'
        = (.finished (.ok (some .endOfStream)), s.server, net'))

/-- How the messages that were `sent` to the sink have been shared out, of which `taken` are no
longer queued: each client got its `share`, or it is on its way to it. -/
structure SharedOut (sys : System σ τ) (sent taken : List Message) (share : Nat → List Piece) :
    Prop where
  /-- What the source yielded was sent, but for what is in the hand of the element. -/
  yielded : sent ++ (sys.inHand .source).flatMap passed = sys.yielded.flatMap passed
  queued : sent = taken ++ sys.queue.messages
  /-- Everything but barriers is in exactly one share. -/
  dealt : Dealt sys.clients.length (fun i => (share i).filter Piece.isItem)
    ((pieces taken).filter Piece.isItem)
  shares : ∀ i s, sys.clients[i]? = some s →
    (share i).map Piece.message = got s ++ (sys.answers s).flatMap Message.unpacked
  /-- In a share everything comes in the order of sending, also past barriers, and only once. -/
  ordered : ∀ i, (share i).Sublist (pieces sent) ∧ (share i).Pairwise Piece.Before

def views (sys : System σ τ) (i : Nat) : ClientView :=
  (sys.clients[i]?.map Client.Story.view).getD {}

theorem views_of_here {sys : System σ τ} {i : Nat} {s : Client.Story}
    (here : sys.clients[i]? = some s) : sys.views i = s.view := by
  unfold views
  rw [here]
  rfl

/-- What one client comes to is all that changes when it moves. -/
theorem views_set {sys : System σ τ} {i : Nat} {s : Client.Story}
    (here : sys.clients[i]? = some s) (s' : Client.Story) (net : Network) :
    views { sys with clients := sys.clients.set i s', net }
      = Function.update sys.views i s'.view := by
  have hi : i < sys.clients.length := (List.getElem?_eq_some_iff.1 here).1
  funext k
  unfold views
  rw [List.getElem?_set]
  by_cases h : i = k
  · subst h
    rw [if_pos rfl, if_pos hi, Function.update_self]
    rfl
  · rw [if_neg h, Function.update_of_ne fun hk => h hk.symm]

end System

/-! ## What is true at every moment -/

/-- The state of a system: its wires, its distributor and its clients, and the handover between
them. -/
structure Joined {σ τ : Type} (A : Source Network σ τ) (s₀ : σ) (uri c : String)
    (ids : List ClientId) (expected : Nat) (dv : DistView) (r : Router) (p : Pipe)
    (cs : List Call) (log : List (List Delivery)) (sys : System σ τ) : Prop where
  count : sys.clients.length = ids.length
  lines : Lines sys.net uri c (dv.socket.map RouterSocket.number) none r p
  server : DistAt uri (Known ids.length (identity ids)) Message.Fits sys.server dv
  reached : sys.server.Reached A s₀
  clients : ∀ i s, sys.clients[i]? = some s →
    Client.Story.At uri (dv.socket.map RouterSocket.number) (identity ids i) s
  handover : Handover expected ids.length (identity ids) sys.views dv r cs log

namespace Joined

variable {σ τ : Type} {A : Source Network σ τ} {s₀ : σ} {uri c : String} {ids : List ClientId}
  {expected : Nat} {dv : DistView} {r : Router} {p : Pipe} {cs : List Call}
  {log : List (List Delivery)} {sys : System σ τ}

theorem start {net : Network} (hc : net.lookup c = none) (free : net.lookup uri = none)
    (ids : List ClientId) (expected highWaterMark : Nat) :
    Joined A s₀ uri c ids expected { queue := { expected } } { uri } { uri := c } [] []
      (.fresh net uri ids expected highWaterMark s₀) := by
  have hviews : ∀ i, System.views (.fresh net uri ids expected highWaterMark s₀ : System σ τ) i
      = {} := by
    intro i
    unfold System.views System.fresh
    rw [List.getElem?_map]
    cases ids[i]? <;> rfl
  have sound : ClientView.Sound {} :=
    ⟨nofun, nofun, [], 0, rfl, nofun, fun h => absurd h (Nat.lt_irrefl 0)⟩
  refine ⟨List.length_map .., .unbound free hc _ _, .mk (.opening (.created s₀ { expected })),
    .start, ?_, ?_⟩
  · intro i s hs
    rw [eq_of_getElem?_map hs]
    exact Client.Story.at_start ..
  · exact
      { mail :=
          { housed := fun i _ s own => by rw [hviews] at own; cases own
            apart := fun i _ j _ s t own => by rw [hviews] at own; cases own
            peers := nofun
            words := nofun
            letters := nofun }
        run := rfl
        sent := rfl
        yielded := ⟨fun _ => nofun, nofun⟩
        asking := nofun
        given := nofun
        due := nofun
        ends := nofun
        shut := nofun
        accounts := fun i _ => by
          rw [hviews]
          exact ⟨sound, Nat.le_refl _, nofun, rfl, nofun⟩ }

/-- Before the distributor fails there is a mishap, and there is none. -/
theorem serve (joined : Joined A s₀ uri c ids expected dv r p cs log sys)
    (feeds : A.Feeds s₀ Message.Fits) (steady : A.Steady s₀) (hdc : uri ≠ c)
    (distinct : ids.Nodup) :
    ∃ dv' r' cs' log', Joined A s₀ uri c ids expected dv' r' p cs' log'
      { sys with
        server := (sys.server.step (distributorStrategy A.logged) sys.net).2.1
        net := (sys.server.step (distributorStrategy A.logged) sys.net).2.2 } := by
  have reached := Element.reached_step (P := .passThrough) (B := Dispenser.sink) (w := sys.net)
    joined.reached
  rcases distributor_step feeds hdc joined.server joined.reached joined.lines
    joined.handover.mail.words with ⟨-, v', r', move, mishap⟩ | ⟨v', r', move, server, lines⟩
  · obtain ⟨cs', log', handover⟩ := joined.handover.distributor (identity_distinct distinct) move
    exact (handover.no_mishap steady mishap).elim
  · obtain ⟨cs', log', handover⟩ := joined.handover.distributor (identity_distinct distinct) move
    refine ⟨v', r', cs', log', joined.count, lines, server, reached, fun i s hs => ?_, handover⟩
    have here := joined.clients i s hs
    rcases move.socket with free | same
    · rw [free] at here
      exact here.found _
    · rw [same]
      exact here

theorem lt_of_here {i : Nat} {s : Client.Story}
    (joined : Joined A s₀ uri c ids expected dv r p cs log sys) (here : sys.clients[i]? = some s) :
    i < ids.length := by
  rw [← joined.count]
  exact (List.getElem?_eq_some_iff.1 here).1

/-- A step of a client is one of its moves. -/
theorem act (joined : Joined A s₀ uri c ids expected dv r p cs log sys) (distinct : ids.Nodup)
    {i : Nat} {s : Client.Story} (here : sys.clients[i]? = some s) :
    ∃ r', Joined A s₀ uri c ids expected dv r' p cs log
      { sys with
        clients := sys.clients.set i (Client.Story.step s sys.net).1
        net := (Client.Story.step s sys.net).2 } := by
  have hi := joined.lt_of_here here
  have view := System.views_of_here here
  have sound := (joined.handover.accounts i hi).sound
  rw [view] at sound
  obtain ⟨r', at', lines, move⟩ := (joined.clients i s here).step sound joined.lines
    joined.handover.mail.letters
  rw [← view] at move
  refine ⟨r', (List.length_set ..).trans joined.count, lines, joined.server, joined.reached, ?_, ?_⟩
  · intro k s' hs'
    rcases getElem?_set_cases hs' with ⟨rfl, rfl⟩ | old
    · exact at'
    · exact joined.clients k s' old
  · rw [System.views_set here]
    exact joined.handover.client (identity_distinct distinct) hi move

/-- A call that is made changes nothing that matters. -/
theorem ask (joined : Joined A s₀ uri c ids expected dv r p cs log sys) {i : Nat}
    {s : Client.Story} {call : SourceCall} (here : sys.clients[i]? = some s)
    (idle : s.current = none) (may : Client.Story.May s.answered call) :
    Joined A s₀ uri c ids expected dv r p cs log
      { sys with clients := sys.clients.set i (Client.Story.ask call s) } := by
  have hi := joined.lt_of_here here
  have view := System.views_of_here here
  have sound := (joined.handover.accounts i hi).sound
  rw [view] at sound
  obtain ⟨at', same⟩ := (joined.clients i s here).ask sound idle may
  refine ⟨(List.length_set ..).trans joined.count, joined.lines, joined.server, joined.reached,
    fun k s' hs' => ?_, ?_⟩
  · rcases getElem?_set_cases hs' with ⟨rfl, rfl⟩ | old
    · exact at'
    · exact joined.clients k s' old
  · have views := System.views_set here (Client.Story.ask call s) sys.net
    rw [same, ← view, Function.update_eq_self] at views
    show Handover expected _ _ (System.views { sys with clients := sys.clients.set i _ }) ..
    rw [views]
    exact joined.handover

/-- **A step of the system keeps its clients joined to the distributor**, whoever makes it. -/
theorem step (joined : Joined A s₀ uri c ids expected dv r p cs log sys)
    (feeds : A.Feeds s₀ Message.Fits) (steady : A.Steady s₀) (hdc : uri ≠ c)
    (distinct : ids.Nodup) {sys' : System σ τ} (h : System.Step A sys sys') :
    ∃ dv' r' cs' log', Joined A s₀ uri c ids expected dv' r' p cs' log' sys' := by
  cases h with
  | serve => exact joined.serve feeds steady hdc distinct
  | ask here idle may => exact ⟨dv, r, cs, log, joined.ask here idle may⟩
  | act here =>
    obtain ⟨r', joined'⟩ := joined.act distinct here
    exact ⟨dv, r', cs, log, joined'⟩
  | elsewhere same =>
    exact ⟨dv, r, cs, log, { joined with lines := joined.lines.elsewhere same }⟩

end Joined

section Runs

variable {σ τ : Type} {A : Source Network σ τ} {s₀ : σ} {net : Network} {uri : String}
  {ids : List ClientId} {expected highWaterMark : Nat} {sys : System σ τ}

/-- **The handover is in order in every state of a system.** Induction on its run. -/
theorem System.Runs.joined (feeds : A.Feeds s₀ Message.Fits) (steady : A.Steady s₀)
    (free : net.lookup uri = none) (distinct : ids.Nodup)
    (runs : System.Runs A (.fresh net uri ids expected highWaterMark s₀) sys) :
    ∃ c dv r p cs log, Joined A s₀ uri c ids expected dv r p cs log sys := by
  -- The system has no pipe: at some free address there is none to be found.
  obtain ⟨c, hc, unused⟩ := net.exists_free uri
  have start : Joined A s₀ uri c ids expected _ _ _ _ _
      (.fresh net uri ids expected highWaterMark s₀) :=
    .start unused free ids expected highWaterMark
  refine ⟨c, ?_⟩
  induction runs with
  | refl => exact ⟨_, _, _, _, _, start⟩
  | tail _ step ih =>
    obtain ⟨dv, r, p, cs, log, joined⟩ := ih
    obtain ⟨dv', r', cs', log', joined'⟩ := joined.step feeds steady hc.symm distinct step
    exact ⟨dv', r', p, cs', log', joined'⟩

end Runs

/-! ## What can be seen of it -/

namespace Joined

variable {σ τ : Type} {A : Source Network σ τ} {s₀ : σ} {uri c : String} {ids : List ClientId}
  {expected : Nat} {dv : DistView} {r : Router} {p : Pipe} {cs : List Call}
  {log : List (List Delivery)} {sys : System σ τ}

/-- What the element has in its hands. -/
theorem hands (joined : Joined A s₀ uri c ids expected dv r p cs log sys) :
    sys.inHand .source = dv.hand ∧ sys.inHand .sink = dv.heard ∧ sys.due = dv.due := by
  have server := joined.server
  obtain ⟨net, e, clients⟩ := sys
  have idle (h : dv.Idle) : [] = dv.hand ∧ [] = dv.heard ∧ [] = dv.due :=
    ⟨h.hand.symm, h.heard.symm, h.due.symm⟩
  cases server with
  | @mk phase s router origin _ name highWaterMark ranDown delivered lifecycle stats does =>
    cases does with
    | opening does => cases does <;> exact ⟨rfl, rfl, rfl⟩
    | fetching does =>
      cases does with
      | fetching _ _ _ nothing => cases origin <;> exact idle nothing
      | polling _ _ _ nothing => cases origin <;> exact idle nothing
      | listening _ _ nothing => exact idle nothing
      | reading _ _ nothing => cases origin <;> exact idle nothing
    | handling does =>
      cases does with
      | meeting _ _ hand quiet free => exact ⟨hand.symm, quiet.symm, free.symm⟩
      | queueing _ _ hand quiet free => exact ⟨hand.symm, quiet.symm, free.symm⟩
      | hearing _ _ empty heard free => exact ⟨empty.symm, heard.symm, free.symm⟩
      | answering _ _ empty heard free => exact ⟨empty.symm, heard.symm, free.symm⟩
      | delivering _ _ _ _ empty quiet =>
        cases origin <;> exact ⟨empty.symm, quiet.symm, rfl⟩
    | closing does =>
      cases does with
      | closing _ _ _ done => cases origin <;> exact idle done.idle
      | unbinding _ _ _ done => cases origin <;> exact idle done.idle
      | turning _ _ done => cases origin <;> exact idle done.idle
      | disconnecting _ _ _ done => cases origin <;> exact idle done.idle
      | releasing _ _ _ done => cases origin <;> exact idle done.idle
      | releasingSource _ _ _ _ done => cases origin <;> exact idle done.idle
      | releasingSink _ _ _ done => cases origin <;> exact idle done.idle
      | finished _ _ _ done => cases origin <;> exact idle done.idle

/-- What can be heard at the router, as long as there is one. -/
theorem inbound_eq (joined : Joined A s₀ uri c ids expected dv r p cs log sys) :
    sys.inbound = [] ∨ sys.inbound = r.inbound := by
  unfold System.inbound
  rcases joined.server.router with hnone | same
  · rw [hnone]
    exact Or.inl rfl
  · rw [same]
    cases hsocket : dv.socket with
    | none => exact Or.inl rfl
    | some socket =>
      have hrouter := joined.lines.router socket.number (by rw [hsocket]; rfl)
      right
      simp only [hrouter]

variable {i : Nat} {s : Client.Story}

/-- What was handed out to a client and what it took from that agree. -/
theorem account (joined : Joined A s₀ uri c ids expected dv r p cs log sys)
    (here : sys.clients[i]? = some s) :
    Account s.server.identity s.view dv r log.flatten := by
  have acc := joined.handover.accounts i (joined.lt_of_here here)
  rwa [System.views_of_here here, ← (joined.clients i s here).identity] at acc

/-- The mail of a client is in its mailbox. -/
theorem mailbox_eq (joined : Joined A s₀ uri c ids expected dv r p cs log sys)
    (here : sys.clients[i]? = some s) : sys.mailbox s = mailOf r s.view.dealer := by
  have housed := joined.handover.mail.housed i (joined.lt_of_here here)
  rw [System.views_of_here here] at housed
  unfold System.mailbox
  show _ = mailOf r s.dealer
  cases hdealer : s.dealer with
  | none => rfl
  | some dealer =>
    have hrouter := joined.lines.router dealer.number (housed dealer hdealer).1
    simp only [hrouter]

/-- The answers that wait for a client are all that is on its way to it. -/
theorem answers_eq (joined : Joined A s₀ uri c ids expected dv r p cs log sys)
    (here : sys.clients[i]? = some s) :
    sys.answers s = coming s.server.identity s.view dv r := by
  unfold System.answers coming
  rw [joined.mailbox_eq here, joined.hands.2.2]

/-- Nothing is on its way to a client but what is in its account. -/
theorem one_le (joined : Joined A s₀ uri c ids expected dv r p cs log sys)
    (here : sys.clients[i]? = some s) :
    sys.requests s + (sys.answers s).length ≤ s.view.awaiting.toNat := by
  have bound := (joined.account here).load
  have fewer : askedBy s.server.identity sys.inbound ≤ askedBy s.server.identity r.inbound := by
    rcases joined.inbound_eq with hnone | same
    · rw [hnone]
      exact Nat.zero_le _
    · rw [same]
  have queue : sys.queue = dv.queue := joined.server.queue
  unfold System.requests
  rw [joined.answers_eq here, joined.hands.2.1, queue]
  unfold load at bound
  omega

theorem inStep (joined : Joined A s₀ uri c ids expected dv r p cs log sys)
    (here : sys.clients[i]? = some s) : sys.InStep s := by
  have acc := joined.account here
  have bound := joined.one_le here
  have one : sys.requests s + (sys.answers s).length ≤ 1 := Nat.le_trans bound (Bool.toNat_le _)
  have room : (sys.mailbox s).length ≤ 1 := by
    unfold System.answers at one
    rw [List.length_append, List.length_map] at one
    omega
  refine ⟨one, room, ?_⟩
  obtain ⟨before, ends, handed, notEnd, past⟩ := acc.sound.handed
  refine ⟨before, ends, handed, notEnd, fun hsome => ?_⟩
  have ended : s.server.ended = true := past hsome
  have rundown := acc.ended ended
  have empty : s.server.records = [] := acc.sound.last ended
  rw [acc.sound.idle_of_ended ended] at bound
  have queue : sys.queue = dv.queue := joined.server.queue
  refine ⟨by rw [queue]; exact rundown, ?_, ?_, ?_, empty, fun net' => ?_⟩
  · rw [queue]
    exact (Queue.over_of_calls joined.handover.run rundown).messages
  · exact Nat.eq_zero_of_add_eq_zero_right (Nat.le_zero.1 bound)
  · exact List.length_eq_zero_iff.1 (Nat.eq_zero_of_add_eq_zero_left (Nat.le_zero.1 bound))
  · show Client.next s.server net' = _
    unfold Client.next
    rw [empty, ended]
    rfl

/-- What was delivered to a client is handed out as its share. -/
theorem map_message_share_eq (joined : Joined A s₀ uri c ids expected dv r p cs log sys)
    (here : sys.clients[i]? = some s) :
    (share (identity ids i) (entriesIn (events
        ((Queue.new expected fun m => m.kind == .barrier).history 0 cs)))).map Piece.message
      = System.got s ++ (sys.answers s).flatMap Message.unpacked := by
  have got := (joined.account here).got
  have hidentity := (joined.clients i s here).identity
  have delivered : ∀ es : List Entry,
      (entriesTo (identity ids i) es).flatMap (fun e => e.message.unpacked)
        = (messagesTo (identity ids i) (es.map Entry.delivery)).flatMap Message.unpacked := by
    intro es
    unfold entriesTo messagesTo
    rw [List.filter_map, List.flatMap_map, List.flatMap_map]
    rfl
  rw [map_message_share, delivered, entriesIn_history 0 joined.handover.run, ← hidentity, got,
    joined.answers_eq here]
  rfl

theorem sharedOut (joined : Joined A s₀ uri c ids expected dv r p cs log sys)
    (distinct : ids.Nodup) : ∃ sent taken share, sys.SharedOut sent taken share := by
  have handover := joined.handover
  obtain ⟨taken, led⟩ := ledger_of_calls handover.run
  have queue : sys.queue = dv.queue := joined.server.queue
  have yielded : sys.yielded = dv.log := joined.server.log
  have hsent : cs.filterMap Call.sent? = taken ++ dv.queue.messages := by
    rw [← led.sent, sentIn_history]
  set es := entriesIn (events ((Queue.new expected fun m => m.kind == .barrier).history 0 cs))
    with hes
  have known : ∀ e ∈ es, ∃ i < ids.length, e.client = identity ids i := by
    intro e he
    refine handover.given e.delivery ?_
    rw [← entriesIn_history 0 handover.run]
    exact List.mem_map_of_mem he
  have whole : (pieces taken).Sublist (pieces (taken ++ dv.queue.messages)) := by
    unfold pieces
    rw [List.zipIdx_append, List.flatMap_append]
    exact List.sublist_append_left ..
  refine ⟨taken ++ dv.queue.messages, taken, fun i => share (identity ids i) es, ?_, ?_, ?_, ?_,
    fun i => ⟨?_, ?_⟩⟩
  · rw [joined.hands.1, yielded, ← hsent]
    exact handover.sent
  · rw [queue]
  · rw [joined.count]
    exact led.dealt_shares (fun _ => rfl) (identity_distinct distinct) known
  · exact fun i s here => joined.map_message_share_eq here
  · exact (led.share_sublist _).trans whole
  · exact (pieces_ordered taken).sublist (led.share_sublist _)

end Joined

/-- **The pull protocol.** Take a distributor at a free address, whose source yields records that
fit into a batch, barriers and ends, and does not fail; and clients with different identities, each
of which connects, asks for messages, and leaves when it has handed out the end. In every order of
their steps the distributor does not fail, each client is in step, and what was sent has been shared
out. -/
theorem pull_protocol {σ τ : Type} {A : Source Network σ τ} {s₀ : σ} {net : Network} {uri : String}
    {ids : List ClientId} {expected highWaterMark : Nat} {sys : System σ τ}
    (feeds : A.Feeds s₀ Message.Fits) (steady : A.Steady s₀) (free : net.lookup uri = none)
    (distinct : ids.Nodup)
    (runs : System.Runs A (.fresh net uri ids expected highWaterMark s₀) sys) :
    ¬ sys.server.phase.Failed ∧ (∀ s ∈ sys.clients, sys.InStep s) ∧
      ∃ sent taken share, sys.SharedOut sent taken share := by
  obtain ⟨c, dv, r, p, cs, log, joined⟩ := runs.joined feeds steady free distinct
  refine ⟨joined.server.not_failed, fun s hs => ?_, joined.sharedOut distinct⟩
  obtain ⟨i, here⟩ := List.mem_iff_getElem?.1 hs
  exact joined.inStep here

/-- Two messages with three records, a barrier, and another record. -/
def errands : List Message :=
  [.process [[4, 0, 0, 0], [5, 0, 0, 0, 7]], .process [[6, 0, 0, 0, 8, 9]], .barrier [[1]],
    .process [[4, 0, 0, 0]]]

def couple : System (List Message) SourceCall :=
  .fresh { limits := { capacity := 1, connectTimeout := 5000, linger := 1000 } } "out"
    [⟨1⟩, ⟨2⟩] 2 2
    errands

/-- The clients connect, ask for messages in turn, and leave. -/
def takingTurns : List System.Move :=
  let client (i : Nat) (call : SourceCall) : List System.Move :=
    .ask i call :: List.replicate 3 (.act i)
  let serve (n : Nat) : List System.Move := List.replicate n .serve
  serve 6 ++ client 0 .connect ++ serve 8 ++ client 1 .connect
    ++ (List.replicate 10 (serve 8 ++ client 0 .next ++ client 1 .next)).flatten
    ++ client 0 .disconnect ++ serve 12 ++ client 1 .release ++ serve 12

/-- When they take turns, one client hands out three of the records and the other one hands out one.
Both hand the barrier out in between, and end. -/
theorem pull_protocol_taking_turns :
    ((couple.played row takingTurns).clients.map fun s => handedOut s.answered) =
        [[.process [[4, 0, 0, 0]], .process [[5, 0, 0, 0, 7]], .barrier [[1]],
            .process [[4, 0, 0, 0]], .endOfStream, .endOfStream],
          [.process [[6, 0, 0, 0, 8, 9]], .barrier [[1]], .endOfStream, .endOfStream,
            .endOfStream]] ∧
      (∀ s ∈ (couple.played row takingTurns).clients, (couple.played row takingTurns).InStep s) ∧
      ∃ sent taken share, (couple.played row takingTurns).SharedOut sent taken share := by
  have fits : ∀ m ∈ errands, m.Fits := by
    intro m hm
    simp only [errands, List.mem_cons, List.not_mem_nil, or_false] at hm
    rcases hm with rfl | rfl | rfl | rfl
    · exact Or.inl ⟨⟨rfl, _, rfl⟩, by decide⟩
    · exact Or.inl ⟨⟨rfl, _, rfl⟩, by decide⟩
    · exact Or.inr rfl
    · exact Or.inl ⟨⟨rfl, _, rfl⟩, by decide⟩
  have sorts (m : Message) (fit : m.Fits) : m.Carries ∨ m.kind = .barrier :=
    fit.imp And.left fun barrier => barrier
  obtain ⟨-, inStep, sharedOut⟩ :=
    pull_protocol (row_feeds sorts fits) (row_steady errands) rfl (by decide)
      (System.runs_played row couple takingTurns)
  exact ⟨by decide +kernel, inStep, sharedOut⟩

end Fanout

end RecordFarm
