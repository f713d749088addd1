import RecordFarm.Proofs.Network.Sockets

/-!
# What a router answers

A router answers an identity through the mailbox that was connected last under it
(`RouterSocket.mailbox?`). Answering puts one row of frames behind what waits there and leaves every
other mailbox as it is, or waits because that mailbox is full, or fails because nobody is there
(`RouterSocket.sends_sendTo`). Nothing else that a router does touches a mailbox
(`Network.SameAnswers`).
-/

namespace RecordFarm

namespace Network

/-- In all mailboxes of all routers waits what waited before. -/
def SameAnswers (net net' : Network) : Prop :=
  ∀ number mailbox,
    net'.mail (.router number) (.answers mailbox) = net.mail (.router number) (.answers mailbox)

theorem SameAnswers.refl (net : Network) : net.SameAnswers net := fun _ _ => rfl

end Network

namespace RouterSocket

variable {socket : RouterSocket} {net net' : Network}

def mailbox? (socket : RouterSocket) (id : ClientId) (net : Network) : Option Nat :=
  (net.routers[socket.number]?).bind fun router =>
    (router.peers.lookup id).filter fun mailbox => mailbox < router.mailboxes.length

/-- A router finds a mailbox for an identity if it has a peer with one. -/
theorem mailbox?_of_stands {router : Router} (stands : net.routers[socket.number]? = some router)
    (id : ClientId) : socket.mailbox? id net
      = (router.peers.lookup id).filter fun mailbox => mailbox < router.mailboxes.length := by
  rw [mailbox?, stands, Option.bind_some]

def waiting (socket : RouterSocket) (mailbox : Nat) (net : Network) : Mailbox :=
  net.mail (.router socket.number) (.answers mailbox)

def isFull (socket : RouterSocket) (mailbox : Nat) (net : Network) : Bool :=
  !Network.hasRoom (socket.waiting mailbox net).length net.limits.capacity

/-- What comes of answering an identity. -/
inductive Sends (socket : RouterSocket) (id : ClientId) (frames : Frames) (net : Network) :
    Attempt Unit → Prop where
  | unknown (away : socket.mailbox? id net = none) :
      Sends socket id frames net (.failed (.unknownPeer id))
  | full {mailbox : Nat} (here : socket.mailbox? id net = some mailbox)
      (full : socket.isFull mailbox net = true) : Sends socket id frames net .blocked
  | lays {mailbox : Nat} {net' : Network} (here : socket.mailbox? id net = some mailbox)
      (room : socket.isFull mailbox net = false)
      (lays : net.Lays net' (.router socket.number) (.answers mailbox)
        (socket.waiting mailbox net ++ [frames]))
      (inbound : ∀ n : Nat,
        (net'.routers[n]?).map Router.inbound = (net.routers[n]?).map Router.inbound) :
      Sends socket id frames net (.done () net')

/-- Answering takes nothing away of what was asked. -/
theorem inbound_sendTo {id : ClientId} {frames : Frames}
    (h : socket.sendTo id frames net = .done () net') (n : Nat) :
    (net'.routers[n]?).map Router.inbound = (net.routers[n]?).map Router.inbound := by
  unfold sendTo at h
  repeat' split at h
  all_goals cases h
  unfold Network.modifyRouter
  simp only [List.getElem?_modify]
  cases net.routers[n]? with
  | none => rfl
  | some r =>
    by_cases same : socket.number = n
    · simp [same]
    · simp [same]

/-- **What is sent to an identity is one row more in its own mailbox**, if it has one with room for
it. Otherwise the network stays as it is. -/
theorem sends_sendTo (socket : RouterSocket) (id : ClientId) (frames : Frames) (net : Network) :
    Sends socket id frames net (socket.sendTo id frames net) := by
  generalize sent : socket.sendTo id frames net = attempt
  cases stands : net.routers[socket.number]? with
  | none =>
    simp only [sendTo, stands] at sent
    exact sent ▸ .unknown (by rw [mailbox?, stands, Option.bind_none])
  | some router =>
    cases known : router.peers.lookup id with
    | none =>
      simp only [sendTo, stands, known] at sent
      exact sent ▸ .unknown (by rw [mailbox?_of_stands stands, known, Option.filter_none])
    | some box =>
      cases row : router.mailboxes[box]? with
      | none =>
        simp only [sendTo, stands, known, row] at sent
        have past : ¬ box < router.mailboxes.length :=
          Nat.not_lt.2 (List.getElem?_eq_none_iff.1 row)
        exact sent ▸ .unknown (by
          rw [mailbox?_of_stands stands, known, Option.filter_some, decide_eq_false past]
          rfl)
      | some waits =>
        obtain ⟨bound, -⟩ := List.getElem?_eq_some_iff.1 row
        have here : socket.mailbox? id net = some box := by
          rw [mailbox?_of_stands stands, known, Option.filter_some, decide_eq_true bound]
          rfl
        have waiting : socket.waiting box net = waits := by
          show net.mail _ _ = _
          rw [Network.mail_router stands, Router.lane, row]
          rfl
        have lookedUp : socket.mailboxOf id net = box := by
          rw [mailboxOf, stands, Option.bind_some, known]
          rfl
        have done := sent
        simp only [sendTo, stands, known, row] at sent
        cases room : Network.hasRoom waits.length net.limits.capacity with
        | false =>
          rw [if_neg (by rw [room]; exact Bool.false_ne_true)] at sent
          exact sent ▸ .full here (by rw [isFull, waiting, room]; rfl)
        | true =>
          rw [if_pos room] at sent
          subst sent
          have lays := lays_sendTo done
          rw [lookedUp] at lays
          exact .lays here (by rw [isFull, waiting, room]; rfl) lays (inbound_sendTo done)

/-- A router that is bound begins without mailboxes. -/
theorem sameAnswers_bind {uri : String} (h : bind net uri = .done socket net') :
    net.SameAnswers net' := by
  unfold bind at h
  split at h
  · cases h
  · cases h
    exact fun number mailbox => Network.mail_addRouter uri _ (.router number) (.answers mailbox)

/-- Taking a request takes nothing out of a mailbox. -/
theorem sameAnswers_recv {request : ClientId × Frames} (h : socket.recv net = .done request net') :
    net.SameAnswers net' := by
  obtain ⟨rest, -, lays⟩ := lays_recv h
  intro number mailbox
  rw [lays.mail, if_neg fun same => nomatch same.2]

/-- What was answered can still be read when the router is closed. -/
theorem sameAnswers_close (socket : RouterSocket) (net : Network) :
    net.SameAnswers (socket.close net) := by
  intro number mailbox
  refine (Network.mail_unbind _ _ _ _).trans ?_
  rw [Network.mail_modifyRouter]
  split
  · next own =>
    obtain rfl := Channel.router.inj own
    rfl
  · rfl

end RouterSocket

end RecordFarm
