import Mathlib.Data.Fintype.EquivFin
import RecordFarm.Network

/-!
# A farm's own part of the network

A farm uses one router, at which its workers ask for records, and one pipe, into which they push
what they make. `Lines` says which these are, and that nothing else can be found at their
addresses. What the farm's sockets do to the network they do to this router or to this pipe.
-/

namespace RecordFarm

/-- What is kept of a registry is found in it as before. -/
theorem lookup_filter_of_keeps {α β : Type} [BEq α] [LawfulBEq α] (entries : List (α × β))
    {p : α × β → Bool} {key : α} (keeps : ∀ b, p (key, b) = true) :
    (entries.filter p).lookup key = entries.lookup key := by
  induction entries with
  | nil => rfl
  | cons entry rest ih =>
    obtain ⟨name, value⟩ := entry
    by_cases hname : name = key
    · subst hname
      rw [List.filter_cons_of_pos (keeps value), List.lookup_cons_self, List.lookup_cons_self]
    · have hother : (key == name) = false := beq_false_of_ne fun heq => hname heq.symm
      rw [List.lookup_cons, hother, ← ih]
      cases hp : p (name, value) with
      | true => rw [List.filter_cons_of_pos hp, List.lookup_cons, hother]
      | false => rw [List.filter_cons_of_neg (by rw [hp]; exact Bool.false_ne_true)]

namespace Network

/-- Nothing happened to routers, pipes and addresses. Time may have passed, and inboxes may have
changed. -/
structure SameWires (net net' : Network) : Prop where
  bound : net'.bound = net.bound
  routers : net'.routers = net.routers
  pipes : net'.pipes = net.pipes

theorem SameWires.refl (net : Network) : net.SameWires net := ⟨rfl, rfl, rfl⟩

theorem lookup_unbind_self (net : Network) (uri : String) : (net.unbind uri).lookup uri = none := by
  unfold lookup unbind
  rw [List.lookup_eq_none_iff]
  intro entry hentry
  have := (List.mem_filter.1 hentry).2
  rw [bne_iff_ne] at this
  rw [bne_iff_ne]
  exact this.symm

theorem lookup_unbind_of_ne (net : Network) {uri other : String} (h : other ≠ uri) :
    (net.unbind uri).lookup other = net.lookup other :=
  lookup_filter_of_keeps net.bound fun _ => by simpa using h

/-- There is always another address, and a free one. -/
theorem exists_free (net : Network) (uri : String) :
    ∃ other, other ≠ uri ∧ net.lookup other = none := by
  obtain ⟨other, hother⟩ :=
    Infinite.exists_notMem_finset (uri :: net.bound.map Prod.fst).toFinset
  rw [List.mem_toFinset, List.mem_cons, not_or] at hother
  refine ⟨other, hother.1, List.lookup_eq_none_iff.2 fun entry hentry => ?_⟩
  rw [bne_iff_ne]
  rintro rfl
  exact hother.2 (List.mem_map_of_mem hentry)

theorem router_modifyRouter {net : Network} {n : Nat} {router : Router}
    (h : net.routers[n]? = some router) (change : Router → Router) :
    (net.modifyRouter n change).routers[n]? = some (change router) := by
  show (net.routers.modify n change)[n]? = _
  rw [List.getElem?_modify_eq, h]
  rfl

theorem pipe_modifyPipe {net : Network} {n : Nat} {pipe : Pipe}
    (h : net.pipes[n]? = some pipe) (change : Pipe → Pipe) :
    (net.modifyPipe n change).pipes[n]? = some (change pipe) := by
  show (net.pipes.modify n change)[n]? = _
  rw [List.getElem?_modify_eq, h]
  rfl

end Network

/-- An attempt that waits for an address is done when the address was there. -/
theorem Attempt.of_orNotBound {α : Type} {attempt : Attempt α} {uri : String} {timeIsOver : Bool}
    {result : α} {after : Network} (h : attempt.orNotBound uri timeIsOver = .done result after) :
    attempt = .done result after := by
  cases attempt with
  | blocked => cases timeIsOver <;> cases h
  | failed cause => exact h
  | done result' after' => exact h

/-- The router numbered `rn` of a network, if there is one yet, is found at the address `d` only,
and its pipe numbered `pn` at the address `c` only. -/
structure Lines (net : Network) (d c : String) (rn pn : Option Nat) (router : Router)
    (pipe : Pipe) : Prop where
  door : ∀ ep, net.lookup d = some ep → ∃ n, rn = some n ∧ ep = .router n
  gate : ∀ ep, net.lookup c = some ep → ∃ n, pn = some n ∧ ep = .pull n
  router : ∀ n, rn = some n → net.routers[n]? = some router
  pipe : ∀ n, pn = some n → net.pipes[n]? = some pipe

namespace Lines

variable {net : Network} {d c : String} {rn pn : Option Nat} {router : Router} {pipe : Pipe}

/-- Nothing is bound yet. -/
theorem unbound (hd : net.lookup d = none) (hc : net.lookup c = none) (router : Router)
    (pipe : Pipe) : Lines net d c none none router pipe where
  door := fun ep hep => by cases hd.symm.trans hep
  gate := fun ep hep => by cases hc.symm.trans hep
  router := nofun
  pipe := nofun

/-- What leaves the wires of a network alone leaves the lines. -/
theorem elsewhere (lines : Lines net d c rn pn router pipe) {net' : Network}
    (same : net.SameWires net') : Lines net' d c rn pn router pipe where
  door := by unfold Network.lookup; rw [same.bound]; exact lines.door
  gate := by unfold Network.lookup; rw [same.bound]; exact lines.gate
  router := by rw [same.routers]; exact lines.router
  pipe := by rw [same.pipes]; exact lines.pipe

/-- The router of the lines may change by itself. -/
theorem modifyRouter (lines : Lines net d c rn pn router pipe) {n : Nat} (hn : rn = some n)
    (change : Router → Router) :
    Lines (net.modifyRouter n change) d c rn pn (change router) pipe where
  door := lines.door
  gate := lines.gate
  router := by
    intro n' hn'
    obtain rfl : n = n' := Option.some.inj (hn.symm.trans hn')
    exact Network.router_modifyRouter (lines.router n hn) change
  pipe := lines.pipe

/-- The pipe of the lines may change by itself. -/
theorem modifyPipe (lines : Lines net d c rn pn router pipe) {n : Nat} (hn : pn = some n)
    (change : Pipe → Pipe) :
    Lines (net.modifyPipe n change) d c rn pn router (change pipe) where
  door := lines.door
  gate := lines.gate
  router := lines.router
  pipe := by
    intro n' hn'
    obtain rfl : n = n' := Option.some.inj (hn.symm.trans hn')
    exact Network.pipe_modifyPipe (lines.pipe n hn) change

theorem unbindDoor (lines : Lines net d c rn pn router pipe) (hdc : d ≠ c) :
    Lines (net.unbind d) d c rn pn router pipe where
  door := by
    intro ep hep
    rw [Network.lookup_unbind_self] at hep
    cases hep
  gate := by
    intro ep hep
    rw [Network.lookup_unbind_of_ne _ hdc.symm] at hep
    exact lines.gate ep hep
  router := lines.router
  pipe := lines.pipe

theorem unbindGate (lines : Lines net d c rn pn router pipe) (hdc : d ≠ c) :
    Lines (net.unbind c) d c rn pn router pipe where
  door := by
    intro ep hep
    rw [Network.lookup_unbind_of_ne _ hdc] at hep
    exact lines.door ep hep
  gate := by
    intro ep hep
    rw [Network.lookup_unbind_self] at hep
    cases hep
  router := lines.router
  pipe := lines.pipe

/-! ## Sockets of the farm -/

/-- The distributor binds the door. Its router is new. -/
theorem bindRouter (lines : Lines net d c none pn router pipe) (hdc : d ≠ c)
    {socket : RouterSocket} {net' : Network} (h : RouterSocket.bind net d = .done socket net') :
    socket.uri = d ∧ Lines net' d c (some socket.number) pn { uri := d } pipe := by
  unfold RouterSocket.bind at h
  split at h
  · cases h
  · simp only [Attempt.done.injEq] at h
    obtain ⟨rfl, rfl⟩ := h
    refine ⟨rfl, ?_, ?_, ?_, ?_⟩
    · intro ep hep
      have hfound : ((d, Endpoint.router net.routers.length) :: net.bound).lookup d
          = some (.router net.routers.length) := List.lookup_cons_self
      exact ⟨_, rfl, Option.some.inj (hep.symm.trans hfound)⟩
    · intro ep hep
      have hother : (c == d) = false := by simpa using hdc.symm
      have : net.lookup c = some ep := by
        simpa [Network.lookup, List.lookup_cons, hother] using hep
      exact lines.gate ep this
    · intro n hn
      cases hn
      simp
    · exact lines.pipe

/-- Nothing is bound at an address whose router is not there yet. -/
theorem bindRouter_ne_failed (lines : Lines net d c none pn router pipe) (cause : TransportError) :
    RouterSocket.bind net d ≠ .failed cause := by
  have free : net.isBound d = false := by
    unfold Network.isBound
    cases hlookup : net.lookup d with
    | none => rfl
    | some ep =>
      obtain ⟨n, hn, -⟩ := lines.door ep hlookup
      cases hn
  unfold RouterSocket.bind
  rw [if_neg (by rw [free]; exact Bool.false_ne_true)]
  simp

/-- The collector binds the gate. Its pipe is new. -/
theorem bindPipe (lines : Lines net d c rn none router pipe) (hdc : d ≠ c)
    {socket : PullSocket} {net' : Network} (h : PullSocket.bind net c = .done socket net') :
    socket.uri = c ∧ socket.isBinder = true ∧
      Lines net' d c rn (some socket.number) router { uri := c } := by
  unfold PullSocket.bind at h
  split at h
  · cases h
  · simp only [Attempt.done.injEq] at h
    obtain ⟨rfl, rfl⟩ := h
    refine ⟨rfl, rfl, ?_, ?_, ?_, ?_⟩
    · intro ep hep
      have hother : (d == c) = false := by simpa using hdc
      have : net.lookup d = some ep := by
        simpa [Network.lookup, List.lookup_cons, hother] using hep
      exact lines.door ep this
    · intro ep hep
      have hfound : ((c, Endpoint.pull net.pipes.length) :: net.bound).lookup c
          = some (.pull net.pipes.length) := List.lookup_cons_self
      exact ⟨_, rfl, Option.some.inj (hep.symm.trans hfound)⟩
    · exact lines.router
    · intro n hn
      cases hn
      simp

/-- A worker that connects to the door has a new mailbox and is a peer under its identity. -/
theorem connectDealer (lines : Lines net d c rn pn router pipe) {id : ClientId}
    {socket : DealerSocket} {net' : Network}
    (h : DealerSocket.connect net d id = .done socket net') :
    rn = some socket.number ∧ socket.mailbox = router.mailboxes.length ∧ socket.identity = id ∧
      Lines net' d c rn pn
        { router with
          mailboxes := router.mailboxes ++ [[]]
          peers := (id, socket.mailbox) :: router.peers.filter fun peer => peer.1 ≠ id }
        pipe := by
  unfold DealerSocket.connect at h
  split at h
  · cases h
  · next n hlookup =>
    -- There is only one router to be found at this address.
    obtain ⟨n', hn', hep⟩ := lines.door _ hlookup
    cases hep
    rw [lines.router n hn'] at h
    simp only [Attempt.done.injEq] at h
    obtain ⟨rfl, rfl⟩ := h
    exact ⟨hn', rfl, rfl, lines.modifyRouter hn' _⟩
  · cases h

/-- A worker that connects to the gate changes nothing. -/
theorem connectPush (lines : Lines net d c rn pn router pipe) {socket : PushSocket}
    {net' : Network} (h : PushSocket.connect net c = .done socket net') :
    pn = some socket.number ∧ socket.isBinder = false ∧ net' = net := by
  unfold PushSocket.connect at h
  split at h
  · cases h
  · next n hlookup =>
    simp only [Attempt.done.injEq] at h
    obtain ⟨rfl, rfl⟩ := h
    obtain ⟨n', hn', hep⟩ := lines.gate _ hlookup
    cases hep
    exact ⟨hn', rfl, rfl⟩
  · cases h

/-- What a worker sends to the door is one request more for the distributor. -/
theorem dealerSend (lines : Lines net d c rn pn router pipe) {socket : DealerSocket}
    (hrn : rn = some socket.number) {frames : Frames} {net' : Network}
    (h : socket.send frames net = .done () net') :
    Lines net' d c rn pn { router with inbound := router.inbound ++ [(socket.identity, frames)] }
      pipe := by
  unfold DealerSocket.send at h
  rw [lines.router _ hrn] at h
  simp only at h
  split at h
  · cases h
  · split at h
    · simp only [Attempt.done.injEq, true_and] at h
      rw [← h]
      exact lines.modifyRouter hrn _
    · cases h

/-- Only an open router takes what a dealer sends, and it fails to do so only when it is closed. -/
theorem dealerSend_isOpen (lines : Lines net d c rn pn router pipe) {socket : DealerSocket}
    (hrn : rn = some socket.number) (frames : Frames) :
    (∀ net', socket.send frames net = .done () net' → router.isOpen = true) ∧
      ∀ cause, socket.send frames net = .failed cause → router.isOpen = false := by
  unfold DealerSocket.send
  rw [lines.router _ hrn]
  simp only
  cases router.isOpen with
  | true =>
    refine ⟨fun _ _ => rfl, fun cause h => ?_⟩
    simp only [Bool.not_true, Bool.false_eq_true, if_false] at h
    split at h <;> cases h
  | false =>
    refine ⟨fun net' h => ?_, fun _ _ => rfl⟩
    simp only [Bool.not_false, if_true] at h
    cases h

/-- A dealer fails to receive only when it has no mail and is nobody's peer. -/
theorem dealerRecv_failed (lines : Lines net d c rn pn router pipe) {socket : DealerSocket}
    (hrn : rn = some socket.number) {cause : TransportError}
    (h : socket.recv net = .failed cause) :
    router.mailboxes[socket.mailbox]?.getD [] = [] ∧
      ∀ peer ∈ router.peers, peer.2 ≠ socket.mailbox := by
  unfold DealerSocket.recv at h
  rw [lines.router _ hrn] at h
  simp only at h
  split at h
  · cases h
  · next empty =>
    split at h
    · cases h
    · next alone =>
      rw [List.any_eq_true] at alone
      refine ⟨?_, fun peer hpeer heq => alone ⟨peer, hpeer, beq_iff_eq.2 heq⟩⟩
      cases hbox : router.mailboxes[socket.mailbox]? with
      | none => rfl
      | some box =>
        cases box with
        | nil => rfl
        | cons frames rest => exact absurd hbox (empty frames rest)

/-- A worker takes the answer that is first in its mailbox. -/
theorem dealerRecv (lines : Lines net d c rn pn router pipe) {socket : DealerSocket}
    (hrn : rn = some socket.number) {frames : Frames} {net' : Network}
    (h : socket.recv net = .done frames net') :
    (∃ rest, router.mailboxes[socket.mailbox]? = some (frames :: rest)) ∧
      Lines net' d c rn pn
        { router with mailboxes := router.mailboxes.modify socket.mailbox List.tail } pipe := by
  unfold DealerSocket.recv at h
  rw [lines.router _ hrn] at h
  simp only at h
  split at h
  · next frames' rest hmail =>
    simp only [Attempt.done.injEq] at h
    obtain ⟨rfl, rfl⟩ := h
    exact ⟨⟨rest, hmail⟩, lines.modifyRouter hrn _⟩
  · split at h <;> cases h

/-- A worker that hangs up is a peer no more. -/
theorem dealerClose (lines : Lines net d c rn pn router pipe) {socket : DealerSocket}
    (hrn : rn = some socket.number) :
    Lines (socket.close net) d c rn pn
      { router with peers := router.peers.filter fun peer => peer.1 ≠ socket.identity } pipe :=
  lines.modifyRouter hrn _

/-- What a worker pushes is one row more behind those in the pipe. -/
theorem pushSend (lines : Lines net d c rn pn router pipe) {socket : PushSocket}
    (hpn : pn = some socket.number) {frames : Frames} {net' : Network}
    (h : socket.send frames net = .done () net') :
    Lines net' d c rn pn router { pipe with queue := pipe.queue ++ [frames] } := by
  unfold PushSocket.send at h
  rw [lines.pipe _ hpn] at h
  simp only [Pipe.send] at h
  split at h
  · cases h
  · split at h
    · simp only [Attempt.done.injEq, true_and] at h
      rw [← h]
      exact lines.modifyPipe hpn _
    · cases h

/-- A pipe that is open takes what is sent, or lets the sender wait. -/
theorem pushSend_open (lines : Lines net d c rn pn router pipe) {socket : PushSocket}
    (hpn : pn = some socket.number) (opened : pipe.isOpen = true) (frames : Frames)
    (cause : TransportError) : socket.send frames net ≠ .failed cause := by
  unfold PushSocket.send
  rw [lines.pipe _ hpn]
  simp only [Pipe.send, opened, Bool.not_true, Bool.false_eq_true, if_false]
  split <;> simp

/-- The distributor takes the request that is first. -/
theorem routerRecv (lines : Lines net d c rn pn router pipe) {socket : RouterSocket}
    (hrn : rn = some socket.number) {request : ClientId × Frames} {net' : Network}
    (h : socket.recv net = .done request net') :
    ∃ rest, router.inbound = request :: rest ∧
      Lines net' d c rn pn { router with inbound := rest } pipe := by
  unfold RouterSocket.recv at h
  rw [lines.router _ hrn] at h
  simp only at h
  split at h
  · cases h
  · next request' rest hinbound =>
    simp only [Attempt.done.injEq] at h
    obtain ⟨rfl, rfl⟩ := h
    exact ⟨rest, hinbound, lines.modifyRouter hrn _⟩

/-- A router gives what was said to it, or lets the reader wait. -/
theorem routerRecv_ne_failed (lines : Lines net d c rn pn router pipe) {socket : RouterSocket}
    (hrn : rn = some socket.number) (cause : TransportError) : socket.recv net ≠ .failed cause := by
  unfold RouterSocket.recv
  rw [lines.router _ hrn]
  simp only
  split <;> simp

/-- What the router sends to an identity goes into the mailbox of its peer. -/
theorem routerSendTo (lines : Lines net d c rn pn router pipe) {socket : RouterSocket}
    (hrn : rn = some socket.number) {id : ClientId} {frames : Frames} {net' : Network}
    (h : socket.sendTo id frames net = .done () net') :
    ∃ mailbox, router.peers.lookup id = some mailbox ∧
      Lines net' d c rn pn
        { router with mailboxes := router.mailboxes.modify mailbox (· ++ [frames]) } pipe := by
  unfold RouterSocket.sendTo at h
  rw [lines.router _ hrn] at h
  simp only at h
  split at h
  · cases h
  · next mailbox hpeer =>
    split at h
    · cases h
    · split at h
      · simp only [Attempt.done.injEq, true_and] at h
        rw [← h]
        exact ⟨mailbox, hpeer, lines.modifyRouter hrn _⟩
      · cases h

/-- A router fails to send only to an identity without a mailbox. -/
theorem routerSendTo_failed (lines : Lines net d c rn pn router pipe) {socket : RouterSocket}
    (hrn : rn = some socket.number) {id : ClientId} {frames : Frames} {cause : TransportError}
    (h : socket.sendTo id frames net = .failed cause) :
    cause = .unknownPeer id ∧ ∀ mailbox, router.peers.lookup id = some mailbox →
      router.mailboxes.length ≤ mailbox := by
  unfold RouterSocket.sendTo at h
  rw [lines.router _ hrn] at h
  simp only at h
  split at h
  · next nobody =>
    cases h
    refine ⟨rfl, fun mailbox peer => ?_⟩
    rw [nobody] at peer
    cases peer
  · next mailbox hpeer =>
    split at h
    · next missing =>
      cases h
      refine ⟨rfl, fun mailbox' peer => ?_⟩
      obtain rfl := Option.some.inj (hpeer.symm.trans peer)
      exact List.getElem?_eq_none_iff.1 missing
    · split at h <;> cases h

/-- A door that is closed has no requests and no peers. -/
theorem routerClose (lines : Lines net d c rn pn router pipe) (hdc : d ≠ c)
    {socket : RouterSocket} (hrn : rn = some socket.number) (huri : socket.uri = d) :
    Lines (socket.close net) d c rn pn
      { router with inbound := [], peers := [], isOpen := false } pipe := by
  unfold RouterSocket.close
  rw [huri]
  exact (lines.modifyRouter hrn _).unbindDoor hdc

/-- The collector takes the row that is first. -/
theorem pullRecv (lines : Lines net d c rn pn router pipe) {socket : PullSocket}
    (hpn : pn = some socket.number) {frames : Frames} {net' : Network}
    (h : socket.recv net = .done frames net') :
    ∃ rest, pipe.queue = frames :: rest ∧
      Lines net' d c rn pn router { pipe with queue := rest } := by
  unfold PullSocket.recv at h
  rw [lines.pipe _ hpn] at h
  simp only [Pipe.recv] at h
  split at h
  · next frames' rest hqueue =>
    simp only [Attempt.done.injEq] at h
    obtain ⟨rfl, rfl⟩ := h
    exact ⟨rest, hqueue, lines.modifyPipe hpn _⟩
  · split at h <;> cases h

/-- A pipe that is open gives what it holds, or lets the reader wait. -/
theorem pullRecv_open (lines : Lines net d c rn pn router pipe) {socket : PullSocket}
    (hpn : pn = some socket.number) (opened : pipe.isOpen = true) (cause : TransportError) :
    socket.recv net ≠ .failed cause := by
  unfold PullSocket.recv
  rw [lines.pipe _ hpn]
  simp only [Pipe.recv, opened, if_true]
  split <;> simp

/-- Nothing is bound at an address whose pipe is not there yet. -/
theorem bindPipe_ne_failed (lines : Lines net d c rn none router pipe) (cause : TransportError) :
    PullSocket.bind net c ≠ .failed cause := by
  have free : net.isBound c = false := by
    unfold Network.isBound
    cases hlookup : net.lookup c with
    | none => rfl
    | some ep =>
      obtain ⟨n, hn, -⟩ := lines.gate ep hlookup
      cases hn
  unfold PullSocket.bind
  rw [if_neg (by rw [free]; exact Bool.false_ne_true)]
  simp

/-- A gate that is closed has a pipe that is closed. -/
theorem pullClose (lines : Lines net d c rn pn router pipe) (hdc : d ≠ c) {socket : PullSocket}
    (hpn : pn = some socket.number) (huri : socket.uri = c) (hbinder : socket.isBinder = true) :
    Lines (socket.close net) d c rn pn router { pipe with isOpen := false } := by
  unfold PullSocket.close
  rw [if_pos hbinder, huri]
  exact (lines.modifyPipe hpn _).unbindGate hdc

end Lines

end RecordFarm
