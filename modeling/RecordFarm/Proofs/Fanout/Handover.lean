import RecordFarm.Proofs.Fanout.Asking

/-!
# From the queue to the clients

`Handover` is what is true of a distributor, its router and its clients at every moment of a run. Of
each client it holds an `Account`: it has at most one request on its way, or one answer; what was
delivered to it is what it got and what is coming; and a client that has the end has it in the
rundown. Every move of a client keeps it (`Handover.client`).
-/

namespace RecordFarm

namespace Fanout

open Farm
open Message (Readable)

def messagesTo (id : ClientId) (due : List Delivery) : List Message :=
  (due.filter fun x => x.1 == id).map Prod.snd

theorem messagesTo_append (id : ClientId) (due due' : List Delivery) :
    messagesTo id (due ++ due') = messagesTo id due ++ messagesTo id due' := by
  unfold messagesTo
  rw [List.filter_append, List.map_append]

theorem messagesTo_cons (id id' : ClientId) (m : Message) (due : List Delivery) :
    messagesTo id ((id', m) :: due) = (if id' = id then [m] else []) ++ messagesTo id due := by
  unfold messagesTo
  by_cases h : id' = id <;> simp [h]

/-- The messages due to a client are as many as the deliveries to it. -/
theorem length_messagesTo (id : ClientId) (due : List Delivery) :
    (messagesTo id due).length = (due.map Prod.fst).count id := by
  unfold messagesTo
  rw [List.length_map, ← List.countP_eq_length_filter, List.count, List.countP_map]
  rfl

def askedBy (id : ClientId) (inbound : List (ClientId × Frames)) : Nat :=
  (inbound.map fun x => Message.arrived x.2).count (.dataRequest id)

theorem askedBy_append (id : ClientId) (inbound inbound' : List (ClientId × Frames)) :
    askedBy id (inbound ++ inbound') = askedBy id inbound + askedBy id inbound' := by
  unfold askedBy
  rw [List.map_append, List.count_append]

/-- A row of frames is counted for a client if it is a request of this client. -/
theorem askedBy_singleton (id sender : ClientId) {frames : Frames} {m : Message}
    (framed : Message.ofFrames frames = .ok m) :
    askedBy id [(sender, frames)] = if m = .dataRequest id then 1 else 0 := by
  unfold askedBy
  rw [List.map_singleton, Message.arrived_of_framed framed, List.count_singleton]
  simp

/-- The answers that are coming to a client: its mail, and what is due to it. -/
def coming (id : ClientId) (v : ClientView) (dv : DistView) (r : Router) : List Message :=
  (mailOf r v.dealer).map Message.arrived ++ messagesTo id dv.due

/-- The requests of a client that are on their way or wait, and the answers that are coming. -/
def load (id : ClientId) (v : ClientView) (dv : DistView) (r : Router) : Nat :=
  askedBy id r.inbound + dv.heard.count (.dataRequest id) + dv.queue.requests.count id
    + (coming id v dv r).length

/-- What is true of one client, when this is what was delivered to all of them. -/
structure Account (id : ClientId) (v : ClientView) (dv : DistView) (r : Router)
    (log : List Delivery) : Prop where
  sound : v.Sound
  /-- There is one request or one answer at most, and none if it does not wait. -/
  load : load id v dv r ≤ v.awaiting.toNat
  ended : v.ended = true → dv.queue.rundown = true
  got : (messagesTo id log).flatMap Message.unpacked
    = v.got ++ (coming id v dv r).flatMap Message.unpacked
  /-- The router finds its mailbox. -/
  peered : r.isOpen = true → ∀ s, v.dealer = some s → r.peers.lookup id = some s.mailbox

namespace Account

variable {id : ClientId} {v v' : ClientView} {dv dv' : DistView} {r r' : Router}
  {log : List Delivery}

/-- A client that does not wait has nothing on its way. -/
theorem quiet (acc : Account id v dv r log) (idle : v.awaiting = false) :
    Fanout.load id v dv r = 0 ∧ mailOf r v.dealer = [] := by
  have hload : Fanout.load id v dv r = 0 := by
    have := acc.load
    rw [idle] at this
    exact Nat.le_zero.1 this
  refine ⟨hload, ?_⟩
  have hlength : (mailOf r v.dealer).length = 0 := by
    unfold Fanout.load coming at hload
    rw [List.length_append, List.length_map] at hload
    omega
  exact List.length_eq_zero_iff.1 hlength

/-- What others do at the router. -/
theorem congr (acc : Account id v dv r log) (mail : mailOf r' v.dealer = mailOf r v.dealer)
    (words : askedBy id r'.inbound = askedBy id r.inbound)
    (peers : r'.isOpen = true → r.isOpen = true ∧ r'.peers.lookup id = r.peers.lookup id) :
    Account id v dv r' log where
  sound := acc.sound
  load := by
    unfold Fanout.load coming
    rw [mail, words]
    exact acc.load
  ended := acc.ended
  got := by
    unfold coming
    rw [mail]
    exact acc.got
  peered := by
    intro opened s own
    obtain ⟨before, same⟩ := peers opened
    rw [same]
    exact acc.peered before s own

end Account

/-- What is true of a distributor with this view, the router and the `n` clients, when these calls
were made of the queue and these deliveries came of them. -/
structure Handover (expected n : Nat) (ids : Nat → ClientId) (views : Nat → ClientView)
    (dv : DistView) (r : Router) (cs : List Call) (log : List (List Delivery)) : Prop where
  mail : Mail Readable n ids (fun i => (views i).dealer) (dv.socket.map RouterSocket.number) r
  run : (Queue.new expected fun m => m.kind == .barrier).calls cs = .ok (log, dv.queue)
  sent : cs.filterMap Call.sent? ++ dv.hand.flatMap passed = dv.log.flatMap passed
  yielded : Yielded Message.Fits dv.log dv.ended
  asking : ∀ id ∈ dv.queue.requests, Known n ids id
  given : ∀ x ∈ log.flatten, Known n ids x.1
  due : ∀ x ∈ dv.due, Known n ids x.1 ∧ (x.2.isEnd = true ∧ dv.queue.rundown = true ∨ x.2.Fits)
  ends : ∀ box ∈ r.mailboxes, ∀ frames ∈ box,
    (Message.arrived frames).isEnd = true → dv.queue.rundown = true
  shut : r.isOpen = false → dv.Done ∧ r.inbound = []
  accounts : ∀ i < n, Account (ids i) (views i) dv r log.flatten

namespace Handover

variable {expected n : Nat} {ids : Nat → ClientId} {views : Nat → ClientView} {dv dv' : DistView}
  {r r' : Router} {cs : List Call} {log : List (List Delivery)} {i : Nat} {v' : ClientView}

/-! ## Moves of a client -/

/-- One client and the router change. -/
theorem revise (joint : Handover expected n ids views dv r cs log)
    (mail : Mail Readable n ids (Function.update (fun j => (views j).dealer) i v'.dealer)
      (dv.socket.map RouterSocket.number) r')
    (ends : ∀ box ∈ r'.mailboxes, ∀ frames ∈ box,
      (Message.arrived frames).isEnd = true → dv.queue.rundown = true)
    (shut : r'.isOpen = false → dv.Done ∧ r'.inbound = [])
    (own : Account (ids i) v' dv r' log.flatten)
    (others : ∀ j < n, j ≠ i → Account (ids j) (views j) dv r' log.flatten) :
    Handover expected n ids (Function.update views i v') dv r' cs log where
  mail := by
    rw [comp_update ClientView.dealer]
    exact mail
  run := joint.run
  sent := joint.sent
  yielded := joint.yielded
  asking := joint.asking
  given := joint.given
  due := joint.due
  ends := ends
  shut := shut
  accounts := by
    refine (Function.forall_update_iff views fun j v =>
      j < n → Account (ids j) v dv r' log.flatten).2 ⟨fun _ => own, ?_⟩
    exact fun j hne hj => others j hj hne

/-- Others find their mailboxes when a client is taken off the router or put back on. -/
theorem lookup_others (distinct : ∀ i < n, ∀ j < n, ids i = ids j → i = j) (hi : i < n) {j : Nat}
    (hj : j < n) (hne : j ≠ i) (peers : List (ClientId × Nat)) :
    (peers.filter fun peer => peer.1 ≠ ids i).lookup (ids j) = peers.lookup (ids j) :=
  lookup_filter_of_keeps peers fun _ =>
    decide_eq_true fun heq => hne (distinct j hj i hi heq)

/-- A client that connects has an empty mailbox, and everybody keeps his mail. -/
theorem connect (distinct : ∀ i < n, ∀ j < n, ids i = ids j → i = j)
    (joint : Handover expected n ids views dv r cs log) (hi : i < n) {s : DealerSocket}
    (free : (views i).dealer = none) (number : dv.socket.map RouterSocket.number = some s.number)
    (mailbox : s.mailbox = r.mailboxes.length) :
    Handover expected n ids (Function.update views i { views i with dealer := some s }) dv
      { r with
        mailboxes := r.mailboxes ++ [[]]
        peers := (ids i, s.mailbox) :: r.peers.filter fun peer => peer.1 ≠ ids i } cs log := by
  set peers := (ids i, s.mailbox) :: r.peers.filter fun peer => peer.1 ≠ ids i with hpeers
  -- A new mailbox is empty, so the mail of everybody is what it was.
  have same := fun (j : Nat) (hj : j < n) => joint.mail.mailOf_connect free mailbox peers hj
  refine joint.revise (joint.mail.connect hi free number mailbox) ?_ joint.shut ?_ ?_
  · intro box hbox frames hframes
    rcases List.mem_append.1 hbox with old | new
    · exact joint.ends box old frames hframes
    · rw [List.mem_singleton.1 new] at hframes
      cases hframes
  · have acc := joint.accounts i hi
    have mine := same i hi
    rw [Function.update_self] at mine
    exact
      { sound := acc.sound.reconnect (acc.sound.idle_of_free free) _
        load := by
          unfold Fanout.load coming
          rw [mine]
          exact acc.load
        ended := acc.ended
        got := by
          unfold coming
          rw [mine]
          exact acc.got
        peered := by
          intro _ t own
          cases own
          exact List.lookup_cons_self }
  · intro j hj hne
    have other := same j hj
    rw [Function.update_of_ne hne] at other
    refine (joint.accounts j hj).congr other rfl fun opened => ⟨opened, ?_⟩
    have hkey : (ids j == ids i) = false := beq_false_of_ne fun heq => hne (distinct j hj i hi heq)
    rw [hpeers, List.lookup_cons, hkey]
    exact lookup_others distinct hi hj hne r.peers

/-- A client says something to the router. -/
theorem say (joint : Handover expected n ids views dv r cs log) {frames : Frames} {m : Message}
    (framed : Message.ofFrames frames = .ok m) (word : Word (Known n ids) m)
    (opened : r.isOpen = true) (hdealer : v'.dealer = (views i).dealer)
    (own : Account (ids i) v' dv { r with inbound := r.inbound ++ [(ids i, frames)] } log.flatten)
    (foreign : ∀ j < n, j ≠ i → m ≠ .dataRequest (ids j)) :
    Handover expected n ids (Function.update views i v') dv
      { r with inbound := r.inbound ++ [(ids i, frames)] } cs log := by
  refine joint.revise ?_ joint.ends (fun closed => ?_) own ?_
  · rw [hdealer, Function.update_eq_self]
    exact joint.mail.say framed word
  · rw [show r.isOpen = false from closed] at opened
    cases opened
  · intro j hj hne
    refine (joint.accounts j hj).congr rfl ?_ fun h => ⟨h, rfl⟩
    rw [askedBy_append, askedBy_singleton _ _ framed, if_neg (foreign j hj hne), Nat.add_zero]

/-- A client with an empty mailbox leaves, and says so or not. -/
theorem part (distinct : ∀ i < n, ∀ j < n, ids i = ids j → i = j)
    (joint : Handover expected n ids views dv r cs log) (hi : i < n)
    (idle : (views i).awaiting = false) {inbound : List (ClientId × Frames)}
    (words : ∀ x ∈ inbound, ∃ m, Message.ofFrames x.2 = .ok m ∧ Word (Known n ids) m)
    (shut : r.isOpen = false → dv.Done ∧ inbound = [])
    (same : ∀ j < n, askedBy (ids j) inbound = askedBy (ids j) r.inbound) :
    Handover expected n ids (Function.update views i { views i with dealer := none }) dv
      { r with inbound, peers := r.peers.filter fun peer => peer.1 ≠ ids i } cs log := by
  refine joint.revise (joint.mail.leave i rfl words) joint.ends shut ?_ ?_
  · have acc := joint.accounts i hi
    obtain ⟨hload, empty⟩ := acc.quiet idle
    have still : coming (ids i) { views i with dealer := none } dv
        { r with inbound, peers := r.peers.filter fun peer => peer.1 ≠ ids i }
          = coming (ids i) (views i) dv r := by
      unfold coming
      rw [empty]
      rfl
    refine ⟨acc.sound.reconnect idle _, ?_, acc.ended, ?_, nofun⟩
    · unfold Fanout.load
      rw [still, same i hi]
      exact acc.load
    · rw [still]
      exact acc.got
  · intro j hj hne
    exact (joint.accounts j hj).congr rfl (same j hj)
      fun opened => ⟨opened, lookup_others distinct hi hj hne r.peers⟩

/-- A client takes an answer in. -/
theorem receive (joint : Handover expected n ids views dv r cs log) (hi : i < n) {s : DealerSocket}
    {frames : Frames} {rest : Mailbox} {m : Message} (own : (views i).dealer = some s)
    (waits : (views i).awaiting = true) (box : r.mailboxes[s.mailbox]? = some (frames :: rest))
    (framed : Message.ofFrames frames = .ok m) (answer : m.IsAnswer) :
    Handover expected n ids (Function.update views i ((views i).absorb m)) dv
      { r with mailboxes := r.mailboxes.modify s.mailbox List.tail } cs log := by
  have acc := joint.accounts i hi
  have before : mailOf r (views i).dealer = frames :: rest := by
    rw [own]
    show r.mailboxes[s.mailbox]?.getD [] = _
    rw [box]
    rfl
  have after := fun (j : Nat) (hj : j < n) => joint.mail.mailOf_modify hi own List.tail hj
  -- Only the mailbox of this client changes, and it loses what it began with.
  refine joint.revise ?_ ?_ joint.shut ?_ ?_
  · rw [ClientView.absorb_dealer, Function.update_eq_self]
    exact joint.mail.modify s.mailbox fun box hbox frames hframes =>
      joint.mail.letters box hbox frames (List.mem_of_mem_tail hframes)
  · intro box' hbox' frames' hframes'
    obtain ⟨k, hk, hget⟩ := List.mem_iff_getElem.1 hbox'
    rw [List.getElem_modify] at hget
    rw [List.length_modify] at hk
    refine joint.ends _ (List.getElem_mem hk) frames' ?_
    split at hget
    · rw [← hget] at hframes'
      exact List.mem_of_mem_tail hframes'
    · rwa [← hget] at hframes'
  · have mine := after i hi
    rw [if_pos rfl, before, List.tail_cons] at mine
    have waited := acc.load
    unfold Fanout.load coming at waited
    rw [before, waits] at waited
    refine ⟨acc.sound.absorb waits m, ?_, ?_, ?_, ?_⟩
    · -- The answer was all that was on its way.
      unfold Fanout.load coming
      rw [ClientView.absorb_dealer, ClientView.absorb_awaiting, mine]
      simp only [List.map_cons, List.length_append, List.length_cons, Bool.toNat_true,
        Bool.toNat_false, List.length_map] at waited ⊢
      omega
    · intro ended
      rcases ClientView.ended_absorb m _ ended with old | isEnd
      · exact acc.ended old
      · refine joint.ends _ (List.mem_of_getElem? box) frames List.mem_cons_self ?_
        rw [Message.arrived_of_framed framed]
        exact isEnd
    · have got := acc.got
      unfold coming at got ⊢
      rw [ClientView.absorb_dealer, mine,
        ClientView.got_absorb answer (acc.sound.waiting waits).1, got, before]
      simp [Message.arrived_of_framed framed]
    · rw [ClientView.absorb_dealer]
      exact acc.peered
  · intro j hj hne
    refine (joint.accounts j hj).congr ?_ rfl fun opened => ⟨opened, rfl⟩
    rw [after j hj, if_neg hne]

/-- Nothing is on its way to anybody when the router is closed, but what is in the mailboxes. -/
theorem load_of_closed (joint : Handover expected n ids views dv r cs log)
    (closed : r.isOpen = false) (i : Nat) :
    load (ids i) (views i) dv r = (mailOf r (views i).dealer).length := by
  obtain ⟨done, silent⟩ := joint.shut closed
  have past := Queue.over_of_calls joint.run done.rundown
  unfold load coming askedBy Queue.requests messagesTo
  rw [silent, done.idle.heard, past.free, past.waiting, done.idle.due]
  simp

/-- A move that only its client notices. -/
theorem alone (joint : Handover expected n ids views dv r cs log)
    (own : Account (ids i) v' dv r log.flatten) (same : v'.dealer = (views i).dealer) :
    Handover expected n ids (Function.update views i v') dv r cs log := by
  refine joint.revise ?_ joint.ends joint.shut own fun j hj _ => joint.accounts j hj
  rw [same, Function.update_eq_self]
  exact joint.mail

/-- A client that asks had nothing on its way before. -/
theorem ask (distinct : ∀ i < n, ∀ j < n, ids i = ids j → i = j)
    (joint : Handover expected n ids views dv r cs log) (hi : i < n) {frames : Frames}
    (idle : (views i).awaiting = false) (empty : (views i).records = [])
    (running : (views i).ended = false) {s : DealerSocket} (own : (views i).dealer = some s)
    (framed : Message.ofFrames frames = .ok (.dataRequest (ids i))) (opened : r.isOpen = true) :
    Handover expected n ids (Function.update views i { views i with awaiting := true }) dv
      { r with inbound := r.inbound ++ [(ids i, frames)] } cs log := by
  have acc := joint.accounts i hi
  refine joint.say framed (.dataRequest ⟨i, hi, rfl⟩) opened rfl ?_ fun j hj hne heq => ?_
  · refine ⟨⟨fun _ => ⟨empty, running, s, own⟩, acc.sound.last, acc.sound.handed⟩, ?_, acc.ended,
      acc.got, acc.peered⟩
    have hload := (acc.quiet idle).1
    unfold load at hload ⊢
    rw [askedBy_append, askedBy_singleton _ _ framed, if_pos rfl]
    show askedBy (ids i) r.inbound + 1 + _ + _ + (coming (ids i) (views i) dv r).length ≤ 1
    omega
  · exact hne (distinct j hj i hi (Message.dataRequest_inj heq).symm)

/-- What a client gets and what it hands out is the same, when it hands a record out. -/
theorem got_hand {v : ClientView} {record : Bytes} {records : List Bytes}
    (first : v.records = record :: records) :
    ClientView.got { v with records, handed := v.handed ++ [.process [record]] } = v.got := by
  have notEnd : (Message.process [record]).isEnd = false := rfl
  unfold ClientView.got
  rw [first, List.filter_append, List.map_cons]
  simp [notEnd]

/-- The end that a client hands out is nothing that it got. -/
theorem got_finish (v : ClientView) :
    ClientView.got { v with handed := v.handed ++ [.endOfStream] } = v.got := by
  have isEnd : Message.endOfStream.isEnd = true := rfl
  unfold ClientView.got
  rw [List.filter_append, List.filter_singleton, isEnd]
  simp

/-- A client that has lost its peer has nothing on its way. The router would find its mailbox if it
were open. -/
theorem load_of_lost (joint : Handover expected n ids views dv r cs log) (hi : i < n)
    {s : DealerSocket} (own : (views i).dealer = some s)
    (empty : mailOf r (views i).dealer = [])
    (nobody : ∀ peer ∈ r.peers, peer.2 ≠ s.mailbox) : load (ids i) (views i) dv r = 0 := by
  have closed : r.isOpen = false := by
    by_contra opened
    have peer := (joint.accounts i hi).peered (Bool.eq_true_of_not_eq_false opened) s own
    obtain ⟨before, behind, hpeers, -⟩ := List.lookup_eq_some_iff.1 peer
    exact nobody (ids i, s.mailbox) (by rw [hpeers]; simp) rfl
  have hload := joint.load_of_closed closed i
  rw [empty] at hload
  exact hload

/-- **Every move of a client keeps the handover in order.** -/
theorem client (distinct : ∀ i < n, ∀ j < n, ids i = ids j → i = j)
    (joint : Handover expected n ids views dv r cs log) (hi : i < n)
    (move : ClientMove (ids i) (dv.socket.map RouterSocket.number) (views i) r v' r') :
    Handover expected n ids (Function.update views i v') dv r' cs log := by
  have acc := joint.accounts i hi
  have sound := move.sound acc.sound
  have known : Known n ids (ids i) := ⟨i, hi, rfl⟩
  generalize hv : views i = v at move
  cases move with
  | still =>
    subst hv
    rw [Function.update_eq_self]
    exact joint
  | connect free number mailbox =>
    subst hv
    exact joint.connect distinct hi free number mailbox
  | @greet frames framed opened =>
    subst hv
    refine joint.say framed (.registration known) opened rfl ?_ fun j _ _ => nofun
    refine acc.congr rfl ?_ fun h => ⟨h, rfl⟩
    rw [askedBy_append, askedBy_singleton _ _ framed, if_neg nofun, Nat.add_zero]
  | @ask s frames own idle empty running framed opened =>
    subst hv
    exact joint.ask distinct hi idle empty running own framed opened
  | receive own waits box framed answer =>
    subst hv
    exact joint.receive hi own waits box framed answer
  | @hand record records first =>
    subst hv
    refine joint.alone ⟨sound, acc.load, acc.ended, ?_, acc.peered⟩ rfl
    rw [got_hand first]
    exact acc.got
  | finish ended =>
    subst hv
    refine joint.alone ⟨sound, acc.load, acc.ended, ?_, acc.peered⟩ rfl
    rw [got_finish]
    exact acc.got
  | @leave s frames own ended framed opened =>
    subst hv
    have idle := acc.sound.idle_of_ended ended
    refine joint.part distinct hi idle (joint.mail.say framed (.unregistration known)).words ?_ ?_
    · exact fun closed => absurd (closed.symm.trans opened) Bool.false_ne_true
    · intro j _
      rw [askedBy_append, askedBy_singleton _ _ framed, if_neg nofun, Nat.add_zero]
  | @lose s own empty nobody =>
    subst hv
    refine joint.alone ⟨sound, ?_, acc.ended, acc.got, acc.peered⟩ rfl
    exact Nat.le_of_eq (joint.load_of_lost hi own empty nobody)
  | @quit s own idle closed =>
    subst hv
    exact joint.part distinct hi idle joint.mail.words joint.shut fun _ _ => rfl

end Handover

end Fanout

end RecordFarm
