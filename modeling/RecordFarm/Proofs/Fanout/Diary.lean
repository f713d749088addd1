import RecordFarm.Fanout.Dispenser
import RecordFarm.Proofs.Fanout.Farewells
import RecordFarm.Proofs.Fanout.Shares
import RecordFarm.Proofs.Network.Answering
import RecordFarm.Proofs.Service.Views

/-!
# Dispensers that keep a diary

A dispenser asks its queue for things and hands out what is due, also by itself while it runs down.
A dispenser that keeps a diary writes its steps down, each with what it found and what it left, and
does what it does without one (`Dispenser.diary_shows`). What it asked of the queue (`Deed.asked?`)
and which delivery it is done with (`Deed.gone?`) is read off the steps, and whether this delivery
is a new row in the mailbox of its client is a question to the network before and after the step
(`Deed.Posted`).

`Dispenser.Does` says everything that a step can do (`Dispenser.does_step`). That every delivery is
posted follows (`Deed.posted`), and what the diary says of the dispenser is `Kept`: asking the queue
and handing out what is due keep it (`Kept.call`, `Kept.part`), and at the end of the stream it says
what was handed out (`Kept.farewell`).
-/

namespace RecordFarm

namespace Fanout

/-! ## What a step does for others -/

/-- What a call of the dispenser asks of the queue. -/
def Call.ofSink? : SinkCall → Option Call
  | .send m => some (.send m)
  | .request id => some (.request id)
  | .register id => some (.register id)
  | .unregister id => some (.unregister id)
  | _ => none

/-- What a message of a peer asks of the queue. -/
def Call.ofPeer? (m : Message) : Option Call :=
  match m.kind, m.identity with
  | .registration, .ok id => some (.register id)
  | .unregistration, .ok id => some (.unregister id)
  | .dataRequest, .ok id => some (.request id)
  | _, _ => none

namespace Dispenser

variable {s : Dispenser} {net net' : Network} {router : RouterSocket}

/-- What has arrived at a router and waits to be taken. -/
def heard (n : Nat) (net : Network) : Option (List (ClientId × Frames)) :=
  (net.routers[n]?).map Router.inbound

/-- The network when the router has taken what waited longest. -/
def taken (n : Nat) (rest : List (ClientId × Frames)) (net : Network) : Network :=
  net.modifyRouter n fun router => { router with inbound := rest }

/-- What is taken from the row of a router is not heard again. -/
theorem heard_taken {n : Nat} {waiting : List (ClientId × Frames)}
    (there : heard n net = some waiting) (rest : List (ClientId × Frames)) :
    heard n (taken n rest net) = some rest := by
  obtain ⟨r, stands, -⟩ := Option.map_eq_some_iff.1 there
  unfold heard taken Network.modifyRouter
  simp only [List.getElem?_modify_eq, stands]
  rfl

/-- The mailbox through which the dispenser answers a client. -/
def mailbox? (s : Dispenser) (id : ClientId) (net : Network) : Option Nat :=
  s.router.bind fun router => router.mailbox? id net

/-- The call asks for what a peer said. -/
def Fetches (call : SinkCall) : Prop := call = .poll ∨ call = .get

/-- A call that asks something of the queue does not fetch. -/
theorem not_fetches {call : SinkCall} {c : Call} (asks : Call.ofSink? call = some c) :
    ¬ Fetches call := by
  rintro (rfl | rfl)
  · cases asks
  · cases asks

end Dispenser

/-- A step of a dispenser: what it was at, what it found, and how it went on and what it left. -/
structure Deed where
  task : Dispenser.Task
  server : Dispenser
  net : Network
  result : Dispenser.Stepped

namespace Deed

open Dispenser (heard taken)

/-- The request that the step took: it had waited longest at the router, and does so no more. -/
def took? (t : Deed) : Option (ClientId × Frames) :=
  match t.server.router with
  | none => none
  | some router =>
    match heard router.number t.net with
    | some (request :: rest) =>
      if heard router.number t.result.2.2 = some rest then some request else none
    | _ => none

/-- What the step asked of the queue, for the call or for the peer who spoke. -/
def asked? (t : Deed) : Option Call :=
  match t.task with
  | .begin call => Call.ofSink? call
  | .deliver _ _ =>
    t.took?.bind fun request => (Message.ofFrames request.2).toOption.bind Call.ofPeer?

/-- The delivery that the step is done with, and whether its client had a mailbox. -/
def gone? (t : Deed) : Option (Delivery × Bool) :=
  match t.task, t.result.1 with
  | .deliver (x :: _) _, .working _ => some (x, (t.server.mailbox? x.1 t.net).isSome)
  | _, _ => none

/-- What the delivery that is done with has come to in the mailboxes. -/
inductive Posts (s : Dispenser) (net : Network) : Option (Delivery × Bool) → Network → Prop where
  /-- There is none, and all mailboxes are as they were. -/
  | still {net' : Network} (same : net.SameAnswers net') : Posts s net none net'
  /-- It is one row more in the mailbox of its client, and nothing else has changed. -/
  | lays {router : RouterSocket} {id : ClientId} {m : Message} {frames : Frames} {mailbox : Nat}
      {net' : Network} (bound : s.router = some router) (framed : m.toFramesBatched = .ok frames)
      (here : router.mailbox? id net = some mailbox)
      (lays : net.Lays net' (.router router.number) (.answers mailbox)
        (router.waiting mailbox net ++ [frames])) : Posts s net (some ((id, m), true)) net'
  /-- It is an end for a client that has no mailbox, and nothing has changed. -/
  | misses {id : ClientId} {m : Message} (away : s.mailbox? id net = none)
      (isEnd : m.isEnd = true) : Posts s net (some ((id, m), false)) net

/-- What the step is done with is where it belongs. -/
def Posted (t : Deed) : Prop := Posts t.server t.net t.gone? t.result.2.2

variable {s : Dispenser} {net net' : Network} {progress : Progress Dispenser.Task Reply}
  {s' : Dispenser} {due : List Delivery} {runningDown : Bool}

/-- A delivery that the call goes on from is done with. It was made if its client had a mailbox. -/
theorem gone?_deliver (x : Delivery) (due : List Delivery) (runningDown : Bool) (s : Dispenser)
    (net : Network) (result : Dispenser.Stepped) :
    gone? ⟨.deliver (x :: due) runningDown, s, net, result⟩ = match result.1 with
      | .working _ => some (x, (s.mailbox? x.1 net).isSome)
      | _ => none := by
  unfold gone?
  cases result.1 <;> rfl

/-- Where as much waits as before, nothing was taken. -/
theorem asked?_of_same (same : ∀ n, heard n net' = heard n net) :
    asked? ⟨.deliver due runningDown, s, net, (progress, s', net')⟩ = none := by
  have nothing : took? ⟨.deliver due runningDown, s, net, (progress, s', net')⟩ = none := by
    unfold took?
    cases s.router with
    | none => rfl
    | some router =>
      simp only [same]
      cases heard router.number net with
      | none => rfl
      | some waiting =>
        cases waiting with
        | nil => rfl
        | cons request rest =>
          exact if_neg fun h => List.cons_ne_self _ _ (Option.some.inj h)
  simp only [asked?, nothing, Option.bind_none]

/-- What was taken is what waited longest. -/
theorem asked?_of_taken {router : RouterSocket} (bound : s.router = some router)
    {request : ClientId × Frames} {rest : List (ClientId × Frames)}
    (there : heard router.number net = some (request :: rest)) :
    asked? ⟨.deliver due runningDown, s, net, (progress, s', taken router.number rest net)⟩
      = (Message.ofFrames request.2).toOption.bind Call.ofPeer? := by
  have took : took?
      ⟨.deliver due runningDown, s, net, (progress, s', taken router.number rest net)⟩
      = some request := by
    simp only [took?, bound, there, Dispenser.heard_taken there rest, if_true]
  simp only [asked?, took, Option.bind_some]

end Deed

/-- The steps of a dispenser, oldest first. -/
structure Diary where
  deeds : List Deed := []

namespace Diary

def note (d : Diary) (t : Deed) : Diary := ⟨d.deeds ++ [t]⟩

def called (d : Diary) : List Call := d.deeds.filterMap Deed.asked?

/-- The deliveries that it is done with, and whether their client had a mailbox. -/
def gone (d : Diary) : List (Delivery × Bool) := d.deeds.filterMap Deed.gone?

def sent (d : Diary) : List Message := d.called.filterMap Call.sent?

/-- What was handed to a client. -/
def handed (d : Diary) : List Delivery := (d.gone.filter Prod.snd).map Prod.fst

/-- Whatever was delivered is where it belongs. -/
def Posted (d : Diary) : Prop := ∀ t ∈ d.deeds, t.Posted

/-- A diary with one more step, in which the queue was asked this, and this delivery is done with
and posted. -/
structure Adds (d d' : Diary) (asked : Option Call) (gone : Option (Delivery × Bool)) : Prop where
  called : d'.called = d.called ++ asked.toList
  gone : d'.gone = d.gone ++ gone.toList
  posted : d.Posted → d'.Posted

theorem filterMap_note {α : Type} (f : Deed → Option α) (d : Diary) (t : Deed) :
    (d.note t).deeds.filterMap f = d.deeds.filterMap f ++ (f t).toList := by
  rw [note, List.filterMap_append, List.filterMap_cons]
  cases f t <;> rfl

/-- A step that is written down adds what it asked and what it is done with, and nothing else. -/
theorem adds_note (d : Diary) {t : Deed} (posted : t.Posted) :
    d.Adds (d.note t) t.asked? t.gone? where
  called := d.filterMap_note Deed.asked? t
  gone := d.filterMap_note Deed.gone? t
  posted earlier := by
    intro t' ht'
    rcases List.mem_append.1 ht' with old | new
    · exact earlier t' old
    · rwa [List.mem_singleton.1 new]

variable {d d' : Diary} {asked : Option Call}

theorem Adds.sent {gone : Option (Delivery × Bool)} (adds : d.Adds d' asked gone) :
    d'.sent = d.sent ++ (asked.bind Call.sent?).toList := by
  unfold Diary.sent
  rw [adds.called, List.filterMap_append]
  cases asked with
  | none => rfl
  | some c =>
    rw [Option.toList_some, Call.filterMap_sent_cons]
    exact congrArg _ (List.append_nil _)

theorem Adds.handed {x : Delivery} {there : Bool} (adds : d.Adds d' asked (some (x, there))) :
    d'.handed = d.handed ++ if there then [x] else [] := by
  unfold Diary.handed
  rw [adds.gone, List.filter_append, List.map_append]
  cases there <;> rfl

theorem Adds.gone_of_none (adds : d.Adds d' asked none) : d'.gone = d.gone := by
  rw [adds.gone, Option.toList_none, List.append_nil]

theorem Adds.handed_of_none (adds : d.Adds d' asked none) : d'.handed = d.handed := by
  unfold Diary.handed
  rw [adds.gone_of_none]

end Diary

namespace Dispenser

def diary : Sink Network (Dispenser × Diary) Task where
  start := .begin
  step := fun task (s, d) net =>
    let result := step task s net
    (result.1, (result.2.1, d.note ⟨task, s, net, result⟩), result.2.2)
  connector? s := sink.connector? s.1
  wantsInput := fun (s, d) net => (s.wantsInput, (s, d), net)
  isDrained s _ := s.1.queue.isDrained

/-- A dispenser that keeps a diary shows the dispenser. -/
theorem diary_shows : diary.Shows sink id Prod.fst id where
  start _ := rfl
  step := by
    rintro task ⟨s, d⟩ net
    rw [Progress.mapTask_id]
    rfl
  wantsInput _ _ := rfl
  isDrained _ _ := rfl

/-! ## Everything that a step can do -/

/-- A delivery cannot be made: its message does not fit into frames, or the client is away and it is
not an end. -/
def Refuses (s : Dispenser) (net : Network) (x : Delivery) : Prop :=
  (∃ cause, x.2.toFramesBatched = .error cause) ∨ s.router = none ∨
    s.mailbox? x.1 net = none ∧ x.2.isEnd = false

/-- Everything that a step of a dispenser can do: how the call goes on, what becomes of the
dispenser and of the network, what it asks of the queue, and with which delivery it is done. -/
inductive Does (s : Dispenser) (net : Network) :
    Task → Stepped → Option Call → Option (Delivery × Bool) → Prop where
  /-- The address is bound, or given up. -/
  | binds {call : SinkCall} {result : Except Error Reply} {router : Option RouterSocket}
      {net' : Network} (apart : Call.ofSink? call = none) (noFetch : ¬ Fetches call)
      (same : net.SameAnswers net') :
      Does s net (.begin call) (.finished result, { s with router }, net') none none
  | waits {call : SinkCall} (fetches : Fetches call) (free : s.heldExit = none) :
      Does s net (.begin call) (.waiting none, s, net) none none
  | hears {call : SinkCall} {result : Except Error Reply} {net' : Network}
      (fetches : Fetches call) (free : s.heldExit = none) (same : net.SameAnswers net') :
      Does s net (.begin call) (.finished result, s, net') none none
  /-- It gives away the request to exit that it held. -/
  | gives {call : SinkCall} {m : Message} (fetches : Fetches call) (held : s.heldExit = some m) :
      Does s net (.begin call) (.finished (.ok (some m)), { s with heldExit := none }, net)
        none none
  | registers {id : ClientId} :
      Does s net (.begin (.register id))
        (.finished (.ok none), { s with queue := s.queue.register id }, net)
        (some (.register id)) none
  /-- The queue says what is due. -/
  | calls {call : SinkCall} {c : Call} {due : List Delivery} {after : Queue}
      (asks : Call.ofSink? call = some c) (h : s.queue.call c = (.ok due, after)) :
      Does s net (.begin call)
        (.working (.deliver due false), { s with queue := after }, net) (some c) none
  /-- The queue fails. -/
  | breaks {call : SinkCall} {c : Call} {cause : Violation} {after : Queue}
      (asks : Call.ofSink? call = some c) (h : s.queue.call c = (.error cause, after)) :
      Does s net (.begin call)
        (.finished (.error cause), { s with queue := after }, net) (some c) none
  /-- There is no room in the mailbox of the client. -/
  | stops {x : Delivery} {due : List Delivery} {runningDown : Bool} {router : RouterSocket}
      {mailbox : Nat} (bound : s.router = some router)
      (here : router.mailbox? x.1 net = some mailbox) (full : router.isFull mailbox net = true) :
      Does s net (.deliver (x :: due) runningDown) (.waiting none, s, net) none none
  | hands {x : Delivery} {due : List Delivery} {runningDown : Bool} {router : RouterSocket}
      {frames : Frames} {mailbox : Nat} {net' : Network} (bound : s.router = some router)
      (framed : x.2.toFramesBatched = .ok frames)
      (here : router.mailbox? x.1 net = some mailbox)
      (lays : net.Lays net' (.router router.number) (.answers mailbox)
        (router.waiting mailbox net ++ [frames]))
      (inbound : ∀ n, heard n net' = heard n net) :
      Does s net (.deliver (x :: due) runningDown)
        (.working (.deliver due runningDown), { s with delivered := s.delivered + 1 }, net')
        none (some (x, true))
  /-- An end is due to a client that has left. -/
  | misses {x : Delivery} {due : List Delivery} {runningDown : Bool}
      (away : s.mailbox? x.1 net = none) (isEnd : x.2.isEnd = true) :
      Does s net (.deliver (x :: due) runningDown) (.working (.deliver due runningDown), s, net)
        none (some (x, false))
  | refuses {x : Delivery} {due : List Delivery} {runningDown : Bool} {cause : Error}
      (why : s.Refuses net x) :
      Does s net (.deliver (x :: due) runningDown) (.finished (.error cause), s, net) none none
  | runsDown (ended : s.queue.rundown = true) (first : s.ranDown = false) :
      Does s net (.deliver [] false) (.working (.deliver [] true), { s with ranDown := true }, net)
        none none
  | ends (later : s.queue.rundown = true → s.ranDown = true) :
      Does s net (.deliver [] false) (.finished (.ok none), s, net) none none
  /-- It runs down, and nobody is left. -/
  | drained (drained : s.queue.isDrained = true) :
      Does s net (.deliver [] true) (.finished (.ok none), s, net) none none
  /-- It runs down, and nobody speaks. -/
  | awaits : Does s net (.deliver [] true) (.waiting none, s, net) none none
  /-- It runs down, and cannot read what a peer said. -/
  | fails {cause : Error} {net' : Network} (same : net.SameAnswers net') :
      Does s net (.deliver [] true) (.finished (.error cause), s, net') none none
  /-- It runs down, and a peer asks to exit. -/
  | exits {m : Message} {net' : Network} (exit : m.kind = .exitRequest)
      (same : net.SameAnswers net') :
      Does s net (.deliver [] true) (.finished (.ok none), { s with heldExit := some m }, net')
        none none
  /-- It runs down, and a peer said what does not matter. -/
  | ignores {net' : Network} (same : net.SameAnswers net') :
      Does s net (.deliver [] true) (.working (.deliver [] true), s, net') none none
  /-- It runs down, and asks the queue for a peer. -/
  | serves {c : Call} {due : List Delivery} {after : Queue} {net' : Network}
      (silent : c.sent? = none) (h : s.queue.call c = (.ok due, after))
      (same : net.SameAnswers net') :
      Does s net (.deliver [] true)
        (.working (.deliver due true), { s with queue := after }, net') (some c) none
  /-- It runs down, and the queue fails. -/
  | sinks {c : Call} {cause : Violation} {after : Queue} {net' : Network}
      (silent : c.sent? = none) (h : s.queue.call c = (.error cause, after))
      (same : net.SameAnswers net') :
      Does s net (.deliver [] true)
        (.finished (.error cause), { s with queue := after }, net') (some c) none

variable {s : Dispenser} {d : Diary} {net : Network} {router : RouterSocket}

/-- Where nobody has spoken the dispenser waits. -/
theorem receive_of_nothing (bound : s.router = some router)
    (there : heard router.number net = some []) : s.receive net = .blocked := by
  obtain ⟨r, stands, nothing⟩ := Option.map_eq_some_iff.1 there
  unfold receive RouterSocket.recv
  rw [bound]
  simp only [stands, nothing]

/-- A dispenser hears the request that is first at its router. -/
theorem receive_of_request (bound : s.router = some router) {request : ClientId × Frames}
    {rest : List (ClientId × Frames)} (there : heard router.number net = some (request :: rest)) :
    s.receive net = .done ((Message.ofFrames request.2).mapError .violation)
      (taken router.number rest net) := by
  obtain ⟨r, stands, waits⟩ := Option.map_eq_some_iff.1 there
  unfold receive RouterSocket.recv
  rw [bound]
  simp only [stands, waits]
  rfl

inductive Receives (s : Dispenser) (net : Network) : Attempt (Except Error Message) → Prop where
  | nobody : Receives s net .blocked
  /-- There is no router. -/
  | astray {cause : Error} : Receives s net (.done (.error cause) net)
  | takes {router : RouterSocket} {request : ClientId × Frames}
      {rest : List (ClientId × Frames)} (bound : s.router = some router)
      (there : heard router.number net = some (request :: rest)) :
      Receives s net (.done ((Message.ofFrames request.2).mapError .violation)
        (taken router.number rest net))

/-- To receive is to wait, to find no router, or to take the request that is first. -/
theorem receives_receive (s : Dispenser) (net : Network) : Receives s net (s.receive net) := by
  cases bound : s.router with
  | none =>
    rw [receive, bound]
    exact .astray
  | some router =>
    cases there : heard router.number net with
    | none =>
      have nowhere := Option.map_eq_none_iff.1 there
      simp only [receive, bound, RouterSocket.recv, nowhere]
      exact .astray
    | some waiting =>
      cases waiting with
      | nil =>
        rw [receive_of_nothing bound there]
        exact .nobody
      | cons request rest =>
        rw [receive_of_request bound there]
        exact .takes bound there

/-- Taking a request changes no answers. -/
theorem sameAnswers_taken {n : Nat} {request : ClientId × Frames}
    {rest : List (ClientId × Frames)} (there : heard n net = some (request :: rest)) :
    net.SameAnswers (taken n rest net) := by
  obtain ⟨r, stands, waits⟩ := Option.map_eq_some_iff.1 there
  have taking : RouterSocket.recv ⟨n, ""⟩ net = .done request (taken n rest net) := by
    simp only [RouterSocket.recv, stands, waits]
    rfl
  exact RouterSocket.sameAnswers_recv taking

/-- To look for the next message is no call of the queue and no delivery. -/
theorem does_nextMessage {waits : Bool} {call : SinkCall} (fetches : Fetches call) (net : Network) :
    Does s net (.begin call) (nextMessage waits s net) none none := by
  unfold nextMessage
  cases held : s.heldExit with
  | some m => exact .gives fetches held
  | none =>
    have received := receives_receive s net
    simp only
    generalize s.receive net = attempt at received
    cases received with
    | nobody =>
      cases waits with
      | true => exact .waits fetches held
      | false => exact .hears fetches held (.refl net)
    | astray => exact .hears fetches held (.refl net)
    | @takes _ request _ _ there =>
      have same := sameAnswers_taken there
      cases Message.ofFrames request.2 with
      | error cause => exact .hears fetches held same
      | ok m => exact .hears fetches held same

theorem does_close {call : SinkCall} (apart : Call.ofSink? call = none)
    (noFetch : ¬ Fetches call) (net : Network) :
    Does s net (.begin call) (answer (.ok none) (s.close net).1 (s.close net).2) none none := by
  unfold close
  cases bound : s.router with
  | none =>
    have same : s = { s with router := none } := by rw [← bound]
    rw [same]
    exact .binds apart noFetch (.refl net)
  | some router => exact .binds apart noFetch (router.sameAnswers_close net)

/-- A call of the queue has its deliveries due, or fails. -/
theorem does_afterQueue {call : SinkCall} {c : Call} (asks : Call.ofSink? call = some c)
    (net : Network) :
    Does s net (.begin call) (afterQueue false (s.queue.call c) s net) (some c) none := by
  rcases h : s.queue.call c with ⟨result, after⟩
  cases result with
  | error cause => exact .breaks asks h
  | ok due => exact .calls asks h

/-- A delivery that is due is made, or waits, or is done with because its client has left, or makes
the call fail. -/
theorem does_deliver (x : Delivery) (due : List Delivery) (runningDown : Bool) (net : Network) :
    let t : Deed := ⟨.deliver (x :: due) runningDown, s, net,
      step (.deliver (x :: due) runningDown) s net⟩
    Does s net t.task t.result t.asked? t.gone? := by
  intro t
  obtain ⟨id, m⟩ := x
  have result : t.result = step (.deliver ((id, m) :: due) runningDown) s net := rfl
  -- Nothing is taken from the peers.
  have quiet : ∀ progress s' net', t.result = (progress, s', net') →
      (∀ n, heard n net' = heard n net) → t.asked? = none := by
    intro progress s' net' ht same
    have ht : t = ⟨.deliver ((id, m) :: due) runningDown, s, net, (progress, s', net')⟩ := by
      rw [← ht]
    rw [ht]
    exact Deed.asked?_of_same same
  have gone : t.gone? = match t.result.1 with
      | .working _ => some ((id, m), (s.mailbox? id net).isSome)
      | _ => none := Deed.gone?_deliver ..
  simp only [step] at result
  cases framed : m.toFramesBatched with
  | error cause =>
    simp only [framed, answer] at result
    rw [quiet _ _ _ result fun _ => rfl, gone, result]
    exact .refuses (Or.inl ⟨cause, framed⟩)
  | ok frames =>
    cases bound : s.router with
    | none =>
      simp only [framed, bound, answer] at result
      rw [quiet _ _ _ result fun _ => rfl, gone, result]
      exact .refuses (Or.inr (Or.inl bound))
    | some router =>
      have mailbox : s.mailbox? id net = router.mailbox? id net := by
        rw [mailbox?, bound, Option.bind_some]
      have sends := router.sends_sendTo id frames net
      simp only [framed, bound] at result
      generalize router.sendTo id frames net = attempt at sends result
      cases sends with
      | full here full =>
        rw [quiet _ _ _ result fun _ => rfl, gone, result]
        exact .stops bound here full
      | lays here room lays inbound =>
        rw [← bound] at result
        rw [quiet _ _ _ result inbound, gone, result]
        simp only [mailbox, here, Option.isSome_some]
        exact .hands (x := (id, m)) bound framed here lays inbound
      | unknown away =>
        cases isEnd : m.isEnd with
        | true =>
          simp only [isEnd, if_true] at result
          rw [quiet _ _ _ result fun _ => rfl, gone, result]
          simp only [mailbox, away, Option.isSome_none]
          exact .misses (mailbox.trans away) isEnd
        | false =>
          simp only [isEnd, Bool.false_eq_true, if_false, answer] at result
          rw [quiet _ _ _ result fun _ => rfl, gone, result]
          exact .refuses (Or.inr (Or.inr ⟨mailbox.trans away, isEnd⟩))

/-- In the rundown a message of a peer is one call of the queue, or none. -/
theorem does_runDown (m : Message) {net' : Network} (same : net.SameAnswers net') :
    Does s net (.deliver [] true) (runDown m s net') (Call.ofPeer? m) none := by
  have asked : ∀ c : Call, c.sent? = none → Does s net (.deliver [] true)
      (afterQueue true (s.queue.call c) s net') (some c) none := by
    intro c silent
    rcases h : s.queue.call c with ⟨result, after⟩
    cases result with
    | error cause => exact .sinks silent h same
    | ok due => exact .serves silent h same
  unfold runDown Call.ofPeer?
  cases hkind : m.kind with
  | registration =>
    cases m.identity with
    | error cause => exact .fails same
    | ok id => exact asked (.register id) rfl
  | unregistration =>
    cases m.identity with
    | error cause => exact .fails same
    | ok id => exact asked (.unregister id) rfl
  | dataRequest =>
    cases m.identity with
    | error cause => exact .fails same
    | ok id => exact asked (.request id) rfl
  | exitRequest => exact .exits hkind same
  | _ => exact .ignores same

/-- Serving a peer is between the dispenser and its queue. -/
theorem runDown_net (m : Message) (s : Dispenser) (net : Network) :
    (runDown m s net).2.2 = net := by
  have asked : ∀ outcome, (afterQueue true outcome s net).2.2 = net := by
    intro outcome
    unfold afterQueue
    cases outcome.1 <;> rfl
  unfold runDown
  repeat' split
  all_goals first
    | rfl
    | exact asked _

/-- In the rundown the dispenser is done, or waits for its peers, or does what one of them asks. -/
theorem does_serve (s : Dispenser) (net : Network) :
    let t : Deed := ⟨.deliver [] true, s, net, step (.deliver [] true) s net⟩
    Does s net t.task t.result t.asked? t.gone? := by
  intro t
  have result : t.result = step (.deliver [] true) s net := rfl
  have deed : ∀ progress s' net', t.result = (progress, s', net') →
      t = ⟨.deliver [] true, s, net, (progress, s', net')⟩ := by
    intro progress s' net' h
    rw [← h]
  simp only [step] at result
  cases drained : s.queue.isDrained with
  | true =>
    rw [drained, if_pos rfl] at result
    rw [deed _ _ _ result, Deed.asked?_of_same fun _ => rfl]
    exact .drained drained
  | false =>
    rw [drained, if_neg Bool.false_ne_true] at result
    have received := receives_receive s net
    generalize s.receive net = attempt at received result
    cases received with
    | nobody =>
      rw [deed _ _ _ result, Deed.asked?_of_same fun _ => rfl]
      exact .awaits
    | astray =>
      rw [deed _ _ _ result, Deed.asked?_of_same fun _ => rfl]
      exact .fails (.refl net)
    | @takes router request rest bound there =>
      have same := sameAnswers_taken there
      -- Whatever comes of it, the router has let go of the request.
      have asked : ∀ stepped : Stepped, t.result = stepped →
          stepped.2.2 = taken router.number rest net →
          t.asked? = (Message.ofFrames request.2).toOption.bind Call.ofPeer? := by
        rintro ⟨progress, s', _⟩ h rfl
        rw [deed _ _ _ h]
        exact Deed.asked?_of_taken bound there
      cases read : Message.ofFrames request.2 with
      | error cause =>
        simp only [read, Except.mapError, answer] at result
        rw [asked _ result rfl, read, result]
        exact .fails same
      | ok m =>
        simp only [read, Except.mapError] at result
        rw [asked _ result (runDown_net m s _), read, result]
        exact does_runDown m same

/-- **What a dispenser does in a step.** -/
theorem does_step (task : Task) (s : Dispenser) (net : Network) :
    let t : Deed := ⟨task, s, net, step task s net⟩
    Does s net task t.result t.asked? t.gone? := by
  cases task with
  | begin call =>
    cases call with
    | connect =>
      simp only [step]
      cases attempt : RouterSocket.bind net s.uri with
      | blocked =>
        unfold RouterSocket.bind at attempt
        split at attempt <;> cases attempt
      | failed cause => exact .binds rfl (by rintro (h | h) <;> cases h) (.refl net)
      | done router net' =>
        exact .binds rfl (by rintro (h | h) <;> cases h) (RouterSocket.sameAnswers_bind attempt)
    | disconnect => exact does_close rfl (by rintro (h | h) <;> cases h) net
    | release => exact does_close rfl (by rintro (h | h) <;> cases h) net
    | poll => exact does_nextMessage (Or.inl rfl) net
    | get => exact does_nextMessage (Or.inr rfl) net
    | register id => exact .registers
    | send m => exact does_afterQueue (c := .send m) rfl net
    | request id => exact does_afterQueue (c := .request id) rfl net
    | unregister id => exact does_afterQueue (c := .unregister id) rfl net
  | deliver due runningDown =>
    cases due with
    | cons x due => exact does_deliver x due runningDown net
    | nil =>
      cases runningDown with
      | true => exact does_serve s net
      -- Everything is delivered: the call ends, or turns to the rundown. Nothing is asked.
      | false =>
        intro t
        have result : t.result = step (.deliver [] false) s net := rfl
        have nothing : ∀ progress s', t.result = (progress, s', net) → t.asked? = none := by
          intro progress s' h
          have ht : t = ⟨.deliver [] false, s, net, (progress, s', net)⟩ := by rw [← h]
          rw [ht]
          exact Deed.asked?_of_same fun _ => rfl
        simp only [step] at result
        split at result
        · next turns =>
          rw [Bool.and_eq_true, Bool.not_eq_true'] at turns
          rw [nothing _ _ result, result]
          exact .runsDown turns.1 turns.2
        · next stays =>
          rw [nothing _ _ result, result]
          refine .ends fun ended => ?_
          rw [ended, Bool.true_and, Bool.not_eq_true, Bool.not_eq_false'] at stays
          exact stays

/-- What becomes of a mailbox in a step is what is said of the delivery. -/
theorem Does.posts {task : Task} {stepped : Stepped} {asked : Option Call}
    {gone : Option (Delivery × Bool)} (does : Does s net task stepped asked gone) :
    Deed.Posts s net gone stepped.2.2 := by
  cases does with
  | hands bound framed here lays => exact .lays bound framed here lays
  | misses away isEnd => exact .misses away isEnd
  | binds _ _ same | hears _ _ same | fails same | exits _ same | ignores same
  | serves _ _ same | sinks _ _ same => exact .still same
  | waits | gives | registers | calls | breaks | stops | refuses | runsDown | ends | drained
  | awaits => exact .still (.refl net)

/-- **Every step posts what it is done with.** Whatever the dispenser is at and whatever the network
is like, a delivery that is done with is one new row in the mailbox of its client, or an end for
somebody who has none, and no other mailbox changes. -/
theorem posted_step (task : Task) (s : Dispenser) (net : Network) :
    Deed.Posted ⟨task, s, net, step task s net⟩ := (does_step task s net).posts

/-- **Every step asks at most one call of the queue and is done with at most one delivery.** Case by
case over what the step goes on with. -/
theorem exists_does (task : Task) (s : Dispenser) (net : Network) :
    ∃ asked gone, Does s net task (step task s net) asked gone := ⟨_, _, does_step task s net⟩

/-- **What a dispenser does in a step, and what its diary says of it.** -/
theorem diary_step (task : Task) (s : Dispenser) (d : Diary) (net : Network) :
    ∃ d' asked gone, d.Adds d' asked gone ∧
      (∃ result, d'.deeds.getLast? = some ⟨task, s, net, result⟩) ∧
      Does s net task (step task s net) asked gone ∧
      diary.step task (s, d) net
        = ((step task s net).1, ((step task s net).2.1, d'), (step task s net).2.2) :=
  ⟨d.note ⟨task, s, net, step task s net⟩, _, _, d.adds_note (posted_step task s net),
    ⟨_, List.getLast?_concat⟩, does_step task s net, rfl⟩

end Dispenser

/-- What the diary says of the state that a dispenser ended in, when this is due. -/
structure Kept (expected : Nat) (isBarrier : Message → Bool) (due : List Delivery)
    (x : Dispenser × Diary) : Prop where
  run : ∃ log, (Queue.new expected isBarrier).calls x.2.called = .ok (log, x.1.queue) ∧
    log.flatten = x.2.gone.map Prod.fst ++ due
  /-- Nothing but an end has no client to take it. -/
  missed : ∀ y ∈ x.2.gone, y.2 = false → y.1.2.isEnd = true
  delivered : x.1.delivered = x.2.handed.length
  posted : x.2.Posted

namespace Kept

variable {expected : Nat} {isBarrier : Message → Bool} {due : List Delivery} {s s' : Dispenser}
  {d d' : Diary}

theorem start (expected : Nat) (isBarrier : Message → Bool) (uri : String) (highWaterMark : Nat) :
    Kept expected isBarrier [] (.new uri (.new expected isBarrier) highWaterMark, {}) where
  run := ⟨[], rfl, rfl⟩
  missed _ h := absurd h List.not_mem_nil
  delivered := rfl
  posted _ h := absurd h List.not_mem_nil

/-- The diary is about the queue and the deliveries. -/
theorem same (kept : Kept expected isBarrier due (s, d)) (adds : d.Adds d' none none)
    (queue : s'.queue = s.queue) (delivered : s'.delivered = s.delivered) :
    Kept expected isBarrier due (s', d') where
  run := by
    show ∃ log, _ = Except.ok (log, s'.queue) ∧ _
    rw [queue, adds.called, adds.gone_of_none, Option.toList_none, List.append_nil]
    exact kept.run
  missed := by
    rw [adds.gone_of_none]
    exact kept.missed
  delivered := by
    show s'.delivered = d'.handed.length
    rw [delivered, adds.handed_of_none]
    exact kept.delivered
  posted := adds.posted kept.posted

/-- A call of the queue adds what it makes due. -/
theorem call {c : Call} {after : Queue} (kept : Kept expected isBarrier [] (s, d))
    (adds : d.Adds d' (some c) none) (h : s.queue.call c = (.ok due, after)) :
    Kept expected isBarrier due ({ s with queue := after }, d') where
  run := by
    obtain ⟨log, run, flat⟩ := kept.run
    refine ⟨log ++ [due], ?_, ?_⟩
    · rw [adds.called]
      exact Queue.calls_snoc run h
    · rw [List.flatten_append, flat, List.append_nil, List.flatten_singleton, adds.gone_of_none]
  missed := by
    rw [adds.gone_of_none]
    exact kept.missed
  delivered := by
    show s.delivered = d'.handed.length
    rw [adds.handed_of_none]
    exact kept.delivered
  posted := adds.posted kept.posted

/-- What was due first is done with. -/
theorem part {x : Delivery} {there : Bool} (kept : Kept expected isBarrier (x :: due) (s, d))
    (adds : d.Adds d' none (some (x, there))) (missed : there = false → x.2.isEnd = true)
    (delivered : s'.delivered = s.delivered + there.toNat) (queue : s'.queue = s.queue) :
    Kept expected isBarrier due (s', d') where
  run := by
    obtain ⟨log, run, flat⟩ := kept.run
    refine ⟨log, ?_, ?_⟩
    · rw [adds.called, Option.toList_none, List.append_nil]
      show _ = Except.ok (log, s'.queue)
      rw [queue]
      exact run
    · rw [flat, adds.gone, List.map_append, List.append_assoc]
      rfl
  missed := by
    intro y hy
    rw [adds.gone, Option.toList_some] at hy
    rcases List.mem_append.1 hy with old | new
    · exact kept.missed y old
    · rw [List.mem_singleton.1 new]
      exact missed
  delivered := by
    show s'.delivered = _
    rw [delivered, kept.delivered, adds.handed, List.length_append]
    cases there <;> rfl
  posted := adds.posted kept.posted

/-- **At the end of the stream all that was sent has been handed out, and then ends.** -/
theorem farewell (kept : Kept expected isBarrier [] (s, d)) (ended : s.queue.rundown = true) :
    ∃ earlier m items farewells, d.sent = earlier ++ [m] ∧ m.isEnd = true ∧
      d.handed = items ++ farewells ∧ Farewell earlier items farewells := by
  obtain ⟨log, run, flat⟩ := kept.run
  obtain ⟨earlier, m, items, farewells, sent, isEnd, hlog, farewell⟩ := farewell_of_calls run ended
  rw [hlog, List.append_nil] at flat
  obtain ⟨gone, more, hgone, hitems, hmore⟩ := List.map_eq_append_iff.1 flat.symm
  -- No item is an end, so there was a client for each of them.
  have taken : gone.filter Prod.snd = gone := by
    refine List.filter_eq_self.2 fun y hy => ?_
    by_contra missed
    have isEnd := kept.missed y (by rw [hgone]; exact List.mem_append_left _ hy)
      (Bool.eq_false_iff.2 missed)
    have item := farewell.items y.1 (by rw [← hitems]; exact List.mem_map_of_mem hy)
    rw [farewell.plain _ item] at isEnd
    cases isEnd
  refine ⟨earlier, m, items, (more.filter Prod.snd).map Prod.fst, sent, isEnd, ?_, ?_⟩
  · rw [Diary.handed, hgone, List.filter_append, List.map_append, taken, hitems]
  · refine { farewell with ends := fun x hx => farewell.ends x ?_ }
    rw [← hmore]
    exact (List.filter_sublist.map Prod.fst).subset hx

/-- When something else than an end was sent last, the queue does not run down. -/
theorem running_of_send {m : Message} (kept : Kept expected isBarrier due (s, d'))
    (adds : d.Adds d' (some (.send m)) none) (notEnd : m.isEnd = false) :
    s.queue.rundown = false := by
  obtain ⟨log, run, -⟩ := kept.run
  rw [Bool.eq_false_iff]
  intro ended
  obtain ⟨earlier, last, -, -, sent, isEnd, -⟩ := farewell_of_calls run ended
  have hsent : d'.sent = d.sent ++ [m] := adds.sent
  obtain rfl : m = last := List.singleton_inj.1 (List.append_inj' (hsent.symm.trans sent) rfl).2
  rw [isEnd] at notEnd
  cases notEnd

end Kept

end Fanout

end RecordFarm
