import RecordFarm.Proofs.Farm.Lines

/-!
# The pipe of a pusher

A pusher binds the writing end of a pipe at an address, and a puller that connects to the address
reads from this pipe. `Chute` says which pipe it is and that nothing else is found at the address.
Pusher and puller do to the network what they do to this pipe, and what others do in the same
network spares it (`Network.Spares`): they may bind, fill and close whatever has another address.
-/

namespace RecordFarm

namespace Network

/-- What is bound at this address is bound there as before, and the pipes that were ever bound there
are as they were. -/
structure Spares (net : Network) (uri : String) (net' : Network) : Prop where
  lookup : net'.lookup uri = net.lookup uri
  pipes : ∀ (n : Nat) (p : Pipe), net.pipes[n]? = some p → p.uri = uri → net'.pipes[n]? = some p

/-- What leaves the wires of a network alone spares every address. -/
theorem SameWires.spares {net net' : Network} (same : net.SameWires net') (uri : String) :
    net.Spares uri net' where
  lookup := by unfold Network.lookup; rw [same.bound]
  pipes := by rw [same.pipes]; exact fun n p hp _ => hp

end Network

namespace Push

/-- The pipe numbered `number`, if it is bound yet, is all that is found at the address. Before that
nothing is in it. -/
structure Chute (net : Network) (uri : String) (number : Option Nat) (pipe : Pipe) : Prop where
  gate : ∀ ep, net.lookup uri = some ep → ∃ n, number = some n ∧ ep = .push n
  named : pipe.uri = uri
  empty : number = none → pipe.queue = []
  pipe : ∀ n, number = some n → net.pipes[n]? = some pipe

namespace Chute

variable {net net' : Network} {uri : String} {number : Option Nat} {pipe : Pipe}

/-- Nothing is bound yet. -/
theorem unbound (free : net.lookup uri = none) : Chute net uri none { uri } where
  gate := fun ep hep => by cases free.symm.trans hep
  pipe := nofun
  named := rfl
  empty := fun _ => rfl

/-- What spares its address leaves a chute as it is. -/
theorem spared (chute : Chute net uri number pipe) (spares : net.Spares uri net') :
    Chute net' uri number pipe where
  gate := by rw [spares.lookup]; exact chute.gate
  pipe := fun n hn => spares.pipes n pipe (chute.pipe n hn) chute.named
  named := chute.named
  empty := chute.empty

theorem modifyPipe (chute : Chute net uri number pipe) {n : Nat} (hn : number = some n)
    {change : Pipe → Pipe} (named : (change pipe).uri = uri) :
    Chute (net.modifyPipe n change) uri number (change pipe) where
  gate := chute.gate
  pipe := by
    intro n' hn'
    obtain rfl : n = n' := Option.some.inj (hn.symm.trans hn')
    exact Network.pipe_modifyPipe (chute.pipe n hn) change
  named := named
  empty := fun unbound => by cases unbound.symm.trans hn

/-- The pusher binds the address. Its pipe is new. -/
theorem bind {socket : PushSocket}
    (h : PushSocket.bind net uri = .done socket net') :
    socket.uri = uri ∧ socket.isBinder = true ∧
      Chute net' uri (some socket.number) { uri } := by
  unfold PushSocket.bind at h
  split at h
  · cases h
  · simp only [Attempt.done.injEq] at h
    obtain ⟨rfl, rfl⟩ := h
    refine ⟨rfl, rfl, ?_, rfl, nofun, ?_⟩
    · intro ep hep
      have hfound : ((uri, Endpoint.push net.pipes.length) :: net.bound).lookup uri
          = some (.push net.pipes.length) := List.lookup_cons_self
      exact ⟨_, rfl, Option.some.inj (hep.symm.trans hfound)⟩
    · intro n hn
      cases hn
      simp

/-- The puller connects and changes nothing. -/
theorem connect (chute : Chute net uri number pipe) {socket : PullSocket}
    (h : PullSocket.connect net uri = .done socket net') :
    number = some socket.number ∧ socket.isBinder = false ∧ net' = net := by
  unfold PullSocket.connect at h
  split at h
  · cases h
  · next n hlookup =>
    simp only [Attempt.done.injEq] at h
    obtain ⟨rfl, rfl⟩ := h
    obtain ⟨n', hn', hep⟩ := chute.gate _ hlookup
    cases hep
    exact ⟨hn', rfl, rfl⟩
  · cases h

/-- What is pushed is put behind the others. -/
theorem send (chute : Chute net uri number pipe) {socket : PushSocket}
    (hnumber : number = some socket.number) {frames : Frames}
    (h : socket.send frames net = .done () net') :
    Chute net' uri number { pipe with queue := pipe.queue ++ [frames] } := by
  unfold PushSocket.send at h
  rw [chute.pipe _ hnumber] at h
  simp only [Pipe.send] at h
  split at h
  · cases h
  · split at h
    · simp only [Attempt.done.injEq, true_and] at h
      rw [← h]
      exact chute.modifyPipe hnumber chute.named
    · cases h

/-- What is pulled was first. -/
theorem recv (chute : Chute net uri number pipe) {socket : PullSocket}
    (hnumber : number = some socket.number) {frames : Frames}
    (h : socket.recv net = .done frames net') :
    ∃ rest, pipe.queue = frames :: rest ∧ Chute net' uri number { pipe with queue := rest } := by
  unfold PullSocket.recv at h
  rw [chute.pipe _ hnumber] at h
  simp only [Pipe.recv] at h
  split at h
  · next frames' rest hqueue =>
    simp only [Attempt.done.injEq] at h
    obtain ⟨rfl, rfl⟩ := h
    exact ⟨rest, hqueue, chute.modifyPipe hnumber chute.named⟩
  · split at h <;> cases h

/-- When the pusher closes the pipe, what is in it stays there. -/
theorem close (chute : Chute net uri number pipe) {socket : PushSocket}
    (hnumber : number = some socket.number) (huri : socket.uri = uri)
    (hbinder : socket.isBinder = true) :
    Chute (socket.close net) uri number { pipe with isOpen := false } := by
  unfold PushSocket.close
  rw [if_pos hbinder, huri]
  have closed : Chute (net.modifyPipe socket.number fun pipe => { pipe with isOpen := false }) uri
      number { pipe with isOpen := false } :=
    chute.modifyPipe hnumber chute.named
  exact
    { closed with
      gate := fun ep hep => by
        rw [Network.lookup_unbind_self] at hep
        cases hep }

end Chute

end Push

end RecordFarm
