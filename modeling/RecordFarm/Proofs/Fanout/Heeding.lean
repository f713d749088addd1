import RecordFarm.Proofs.Fanout.HeldExit

/-!
# What a dispenser hears while it runs down

In the rundown a dispenser takes one message after the other. `understood` says which frames it can
read, `heed` what a message does to the queue and `farewells` what becomes due for it: nothing but
the end, for who asks. A step of the rundown that has nothing to deliver is told by these
(`step_of_drained`, `step_of_nothing`, `step_of_request`). -/

namespace RecordFarm

namespace Fanout

/-! ## What a peer says to a dispenser that runs down -/

/-- The message that frames stand for, with the identity that its kind demands. -/
def understood (frames : Frames) : Except Violation Message :=
  match Message.ofFrames frames with
  | .error cause => .error cause
  | .ok m =>
    match m.kind with
    | .registration | .unregistration | .dataRequest => m.identity.map fun _ => m
    | _ => .ok m

def heed (q : Queue) (m : Message) : Queue :=
  match Call.ofPeer? m with
  | some (.register id) => q.register id
  | some (.unregister id) => { q with clients := q.clients.filter fun other => decide (other ≠ id) }
  | _ => q

def farewells (m : Message) : List Delivery :=
  match Call.ofPeer? m with
  | some (.request id) => [(id, .endOfStream)]
  | _ => []

theorem length_farewells_le (m : Message) : (farewells m).length ≤ 1 := by
  unfold farewells
  split
  · exact Nat.le_refl _
  · exact Nat.zero_le _

def asksToExit (m : Message) : Bool := m.kind == .exitRequest

/-- Who asks to exit asks nothing of the queue. -/
theorem ofPeer?_of_asksToExit {m : Message} (exit : asksToExit m = true) :
    Call.ofPeer? m = none := by
  unfold Call.ofPeer?
  rw [eq_of_beq exit]

/-- Whether the queue that began to run down is done with after these messages: it is drained, or
one of them asked to exit. -/
def satisfied (q : Queue) (ms : List Message) : Bool :=
  (ms.foldl heed q).isDrained || ms.any asksToExit

/-- What every client gets that asks in the rundown. -/
def farewell : Frames := [Bytes.ofUInt32 Kind.endOfStream.code]

theorem toFramesBatched_endOfStream : Message.endOfStream.toFramesBatched = .ok farewell := rfl

/-- After the end a client that unregisters is struck off, and nothing is delivered. -/
theorem Queue.Over.unregister_ok {q : Queue} (isOver : q.Over) (id : ClientId) :
    q.unregister id
      = (.ok [], { q with clients := q.clients.filter fun other => decide (other ≠ id) }) := by
  rw [isOver.unregister]
  unfold Queue.accept
  simp only [isOver.waiting, isOver.free, List.filter_nil, Option.map_none]

/-- Heeding a peer does not end the rundown. -/
theorem Queue.Over.heed {q : Queue} (isOver : q.Over) (m : Message) : (heed q m).Over := by
  unfold Fanout.heed
  split
  · next id _ => exact isOver.call (.register id)
  · exact ⟨isOver.rundown, isOver.messages, isOver.waiting, isOver.free⟩
  · exact isOver

namespace Dispenser

variable {s : Dispenser} {d : Diary} {net : Network} {router : RouterSocket}

/-! ## One step -/

/-- What comes of what a peer said. -/
theorem runDown_of_ofFrames (isOver : s.queue.Over) {frames : Frames} {m : Message}
    (read : Message.ofFrames frames = .ok m) (net : Network) :
    runDown m s net =
      match understood frames with
      | .error cause => answer (.error (.violation cause)) s net
      | .ok m =>
        if asksToExit m then answer (.ok none) { s with heldExit := some m } net
        else (.working (.deliver (farewells m) true), { s with queue := heed s.queue m }, net) := by
  unfold understood runDown heed farewells Call.ofPeer?
  simp only [read, asksToExit]
  cases hkind : m.kind with
  | registration =>
    cases hid : m.identity with
    | error cause => simp [Except.map]
    | ok id => simp [Except.map, hkind, hid]
  | unregistration =>
    cases hid : m.identity with
    | error cause => simp [Except.map]
    | ok id => simp [Except.map, hkind, hid, isOver.unregister_ok, afterQueue]
  | dataRequest =>
    cases hid : m.identity with
    | error cause => simp [Except.map]
    | ok id => simp [Except.map, hkind, hid, isOver.request, afterQueue]
  | exitRequest => simp [hkind]
  | _ => simp [hkind]

/-- The rundown is over when the queue is drained. -/
theorem step_of_drained (drained : s.queue.isDrained = true) :
    step (.deliver [] true) s net = answer (.ok none) s net := by
  simp only [step, drained, if_true]

/-- The dispenser waits until somebody speaks. -/
theorem step_of_nothing (owes : s.queue.isDrained = false) (bound : s.router = some router)
    (there : heard router.number net = some []) :
    step (.deliver [] true) s net = (.waiting none, s, net) := by
  simp only [step, owes, receive_of_nothing bound there, Bool.false_eq_true, if_false]

/-- **What is done when somebody spoke.** -/
theorem step_of_request (isOver : s.queue.Over) (owes : s.queue.isDrained = false)
    (bound : s.router = some router) {request : ClientId × Frames}
    {rest : List (ClientId × Frames)} (there : heard router.number net = some (request :: rest)) :
    step (.deliver [] true) s net =
      match understood request.2 with
      | .error cause => answer (.error (.violation cause)) s (taken router.number rest net)
      | .ok m =>
        if asksToExit m then
          answer (.ok none) { s with heldExit := some m } (taken router.number rest net)
        else
          (.working (.deliver (farewells m) true), { s with queue := heed s.queue m },
            taken router.number rest net) := by
  simp only [step, owes, receive_of_request bound there, Bool.false_eq_true, if_false]
  cases read : Message.ofFrames request.2 with
  | error cause =>
    have unreadable : understood request.2 = .error cause := by
      unfold understood
      rw [read]
    rw [unreadable]
    rfl
  | ok m => exact runDown_of_ofFrames isOver read _

end Dispenser

end Fanout

end RecordFarm
