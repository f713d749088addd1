import RecordFarm.Proofs.Fanin.Membership
import RecordFarm.Proofs.Fanout.Asking

/-!
# A client as a peer

A client says only three things, all in its own name: that it is there, that it asks for more, and
that it goes. It may be connected, asked and made to leave in any order, and the answers that it
gets may be anything (`Client.Keeps`).

`registration_paired` is what follows for both sorts of peers.
-/

namespace RecordFarm

namespace Fanout

namespace Client

/-- The router with this number hears a client, if the address leads to no other. -/
def ear (uri : String) (n : Nat) : Ear (ClientId × Frames) where
  IsOpen net := (∀ k, net.lookup uri = some (.router k) → k = n) ∧
    ∃ router, net.routers[n]? = some router ∧ router.isOpen = true
  queue net := ((net.routers[n]?).map Router.inbound).getD []
  read request := request.2

def ends (call : SourceCall) : Bool := call == .release

/-- What a client with this identity says: in its own name, that it comes, asks or goes. -/
def InOwnName (id : ClientId) (request : ClientId × Frames) : Prop :=
  request.1 = id ∧ ∃ m, Message.ofFrames request.2 = .ok m ∧
    (m = .registration id ∨ m = .dataRequest id ∨ m = .unregistration id)

variable {uri : String} {n : Nat} {id : ClientId} {net net' : Network} {socket : DealerSocket}

/-- What is heard of a change of the router. -/
theorem heard_modifyRouter (opened : (ear uri n).IsOpen net) (change : Router → Router)
    (said : List (ClientId × Frames))
    (keeps : ∀ r, (change r).isOpen = r.isOpen ∧ (change r).inbound = r.inbound ++ said) :
    (ear uri n).IsOpen (net.modifyRouter n change) ∧
      (ear uri n).queue (net.modifyRouter n change) = (ear uri n).queue net ++ said := by
  obtain ⟨alone, router, here, isOpen⟩ := opened
  have changed := Network.router_modifyRouter here change
  refine ⟨⟨alone, change router, changed, (keeps router).1.trans isOpen⟩, ?_⟩
  show (Option.map _ ((net.modifyRouter n change).routers[n]?)).getD []
    = (Option.map _ (net.routers[n]?)).getD [] ++ said
  rw [changed, here]
  exact (keeps router).2

/-- Mailboxes and peers are not heard. -/
theorem unheard_modifyRouter (opened : (ear uri n).IsOpen net) (change : Router → Router)
    (keeps : ∀ r, (change r).isOpen = r.isOpen ∧ (change r).inbound = r.inbound) :
    (ear uri n).IsOpen (net.modifyRouter n change) ∧
      (ear uri n).queue (net.modifyRouter n change) = (ear uri n).queue net := by
  have := heard_modifyRouter opened change [] fun r => by
    rw [List.append_nil]
    exact keeps r
  rwa [List.append_nil] at this

/-- Through an end of this router everything can be said, as soon as there is room. -/
theorem send_of_own (own : Own (some n) id socket) (opened : (ear uri n).IsOpen net)
    (frames : Frames) :
    socket.send frames net = .blocked ∨ ∃ net', socket.send frames net = .done () net' ∧
      (ear uri n).IsOpen net' ∧
      (ear uri n).queue net' = (ear uri n).queue net ++ [(id, frames)] := by
  have opened' := opened
  obtain ⟨-, router, here, isOpen⟩ := opened'
  obtain rfl : n = socket.number := Option.some.inj own.number
  unfold DealerSocket.send
  rw [here]
  simp only [isOpen, Bool.not_true, Bool.false_eq_true, if_false, own.identity]
  split
  · exact Or.inr ⟨_, rfl, heard_modifyRouter opened _ [(id, frames)] fun _ => ⟨rfl, rfl⟩⟩
  · exact Or.inl rfl

/-- The end that a client gets is one of this router, in its own name. -/
theorem own_of_connect (opened : (ear uri n).IsOpen net)
    (h : DealerSocket.connect net uri id = .done socket net') :
    Own (some n) id socket ∧ (ear uri n).IsOpen net' ∧
      (ear uri n).queue net' = (ear uri n).queue net := by
  unfold DealerSocket.connect at h
  split at h
  · cases h
  · next k hk =>
    obtain rfl := opened.1 k hk
    split at h
    · cases h
    · cases h
      exact ⟨⟨rfl, rfl⟩, unheard_modifyRouter opened _ fun _ => ⟨rfl, rfl⟩⟩
  · cases h

/-- A client that listens says nothing. -/
theorem unheard_recv (own : Own (some n) id socket) (opened : (ear uri n).IsOpen net)
    {frames : Frames} (h : socket.recv net = .done frames net') :
    (ear uri n).IsOpen net' ∧ (ear uri n).queue net' = (ear uri n).queue net := by
  obtain rfl : n = socket.number := Option.some.inj own.number
  unfold DealerSocket.recv at h
  split at h
  · cases h
  · split at h
    · cases h
      exact unheard_modifyRouter opened _ fun _ => ⟨rfl, rfl⟩
    · split at h <;> cases h

/-- A client that hangs up says nothing. -/
theorem unheard_close (own : Own (some n) id socket) (opened : (ear uri n).IsOpen net) :
    (ear uri n).IsOpen (socket.close net) ∧
      (ear uri n).queue (socket.close net) = (ear uri n).queue net := by
  obtain rfl : n = socket.number := Option.some.inj own.number
  exact unheard_modifyRouter opened _ fun _ => ⟨rfl, rfl⟩

/-- Where a client stands: the call that it is serving, its end of the router, and whether it is a
member. -/
inductive Keeps (n : Nat) (id : ClientId) :
    Option (SourceCall × Task) → Option DealerSocket → Bool → Prop where
  | idle {dealer : Option DealerSocket} (own : ∀ socket ∈ dealer, Own (some n) id socket) :
      Keeps n id none dealer dealer.isSome
  | begun {dealer : Option DealerSocket} (own : ∀ socket ∈ dealer, Own (some n) id socket)
      (call : SourceCall) : Keeps n id (some (call, .begin call)) dealer dealer.isSome
  | connecting (deadline : Nat) : Keeps n id (some (.connect, .connecting deadline)) none false
  | greeting {socket : DealerSocket} (new : Own (some n) id socket) :
      Keeps n id (some (.connect, .registering socket)) none false
  | awaiting {dealer : Option DealerSocket} (own : ∀ socket ∈ dealer, Own (some n) id socket) :
      Keeps n id (some (.next, .awaiting)) dealer dealer.isSome
  | leaving {socket : DealerSocket} (old : Own (some n) id socket) {call : SourceCall}
      (leaves : Leaving call) : Keeps n id (some (call, .leaving socket)) none true

def Stands (uri : String) (n : Nat) (id : ClientId) (current : Option (SourceCall × Task))
    (s : Client) (present : Bool) : Prop := s.uri = uri ∧ Keeps n id current s.dealer present

/-- A client that is no member, and has not begun to connect, holds nothing in any name. -/
theorem Keeps.anew {id' : ClientId} {current : Option (SourceCall × Task)}
    {dealer : Option DealerSocket} (keeps : Keeps n id current dealer false)
    (unconnected : ∀ call task, current = some (call, task) → (call == .connect) = true →
      task = .begin call) : Keeps n id' current dealer false := by
  generalize hfalse : false = absent at keeps
  cases keeps with
  | idle own =>
    obtain rfl : dealer = none := by simpa using hfalse
    exact .idle nofun
  | begun own call =>
    obtain rfl : dealer = none := by simpa using hfalse
    exact .begun (by nofun) call
  | awaiting own =>
    obtain rfl : dealer = none := by simpa using hfalse
    exact .awaiting nofun
  | connecting deadline => exact .connecting deadline
  | greeting new => cases unconnected _ _ rfl rfl
  | leaving old leaves => cases hfalse

/-! ### What a step says, case by case -/

abbrev StepFares (uri : String) (n : Nat) (id : ClientId) (call : SourceCall) (task : Task)
    (present : Bool) (net : Network) (s : Client) : Prop :=
  Fares (ear uri n) InOwnName (· == .connect) ends (Stands uri n) id call task present net
    (step task s net)

variable {dealer : Option DealerSocket} {records : List Bytes} {ended : Bool}

/-- Who asks for more says so, in its own name, only if nothing is left of the last answer. -/
theorem next_fares (own : ∀ socket ∈ dealer, Own (some n) id socket)
    (opened : (ear uri n).IsOpen net) :
    StepFares uri n id .next (.begin .next) dealer.isSome net
      ⟨uri, id, dealer, records, ended⟩ := by
  simp only [StepFares, step, next]
  cases records with
  | cons record records => exact .nothing opened ⟨rfl, .idle own⟩ (Fares.keeps rfl)
  | nil =>
  cases ended with
  | true => exact .nothing opened ⟨rfl, .idle own⟩ (Fares.keeps rfl)
  | false =>
  cases dealer with
  | none => exact .nothing opened ⟨rfl, .idle own⟩ (Fares.keeps rfl)
  | some socket =>
    obtain ⟨frames, hframes, framed⟩ := Message.exists_frames (m := .dataRequest id) rfl rfl
    simp only [hframes, Bool.false_eq_true, if_false]
    rcases send_of_own (own socket rfl) opened frames with hsend | ⟨net', hsend, opened', queued⟩
    · rw [hsend]
      exact .nothing opened ⟨rfl, .begun own .next⟩ (Fares.keeps rfl)
    · rw [hsend]
      have plain : IsData frames := by
        intro m hm
        rw [framed] at hm
        cases hm
        constructor
        · intro kind
          cases kind
        · intro kind
          cases kind
      exact .intro opened' queued
        (.word (.data plain) ⟨rfl, _, framed, Or.inr (Or.inl rfl)⟩ fun h => by cases h)
        ⟨rfl, .awaiting own⟩ (Fares.keeps rfl)

/-- Who is to leave has something to say first, unless there is no end to say it through. -/
theorem leave_fares (own : ∀ socket ∈ dealer, Own (some n) id socket) {call : SourceCall}
    (leaves : Leaving call) (opened : (ear uri n).IsOpen net) :
    StepFares uri n id call (.begin call) dealer.isSome net ⟨uri, id, dealer, records, ended⟩ := by
  cases dealer with
  | none =>
    cases leaves with
    | disconnect => exact .nothing opened ⟨rfl, .idle own⟩ fun _ _ => rfl
    | release => exact .nothing opened ⟨rfl, .idle own⟩ fun _ _ => rfl
  | some socket =>
    cases leaves with
    | disconnect =>
      exact .nothing opened ⟨rfl, .leaving (own socket rfl) .disconnect⟩ (Fares.goesOn rfl)
    | release =>
      exact .nothing opened ⟨rfl, .leaving (own socket rfl) .release⟩ (Fares.goesOn rfl)

/-- Connecting is done in silence. -/
theorem connecting_fares (deadline : Nat) (opened : (ear uri n).IsOpen net) :
    StepFares uri n id .connect (.connecting deadline) false net
      ⟨uri, id, none, records, ended⟩ := by
  simp only [StepFares, step]
  cases hconnect : (DealerSocket.connect net uri id).orNotBound uri (deadline ≤ net.now) with
  | blocked => exact .nothing opened ⟨rfl, .connecting deadline⟩ (Fares.keeps rfl)
  | failed cause => exact .nothing opened ⟨rfl, .idle fun _ h => by cases h⟩ (Fares.keeps rfl)
  | done socket net' =>
    obtain ⟨new, opened', queued⟩ := own_of_connect opened (Attempt.of_orNotBound hconnect)
    exact .quiet opened' queued ⟨rfl, .greeting new⟩ (Fares.keeps rfl)

/-- The first thing that a client says is that it is there, and with that it is a member. -/
theorem greeting_fares (new : Own (some n) id socket) (opened : (ear uri n).IsOpen net) :
    StepFares uri n id .connect (.registering socket) false net
      ⟨uri, id, none, records, ended⟩ := by
  obtain ⟨frames, hframes, framed⟩ := Message.exists_frames (m := .registration id) rfl rfl
  simp only [StepFares, step, speak, hframes]
  rcases send_of_own new opened frames with hsend | ⟨net', hsend, opened', queued⟩
  · rw [hsend]
    exact .nothing opened ⟨rfl, .greeting new⟩ (Fares.keeps rfl)
  · rw [hsend]
    refine .intro opened' queued
      (.word (.comes framed) ⟨rfl, _, framed, Or.inl rfl⟩ fun _ => rfl) ⟨rfl, .idle ?_⟩
      (Fares.keeps rfl)
    rintro socket ⟨⟩
    exact new

/-- Whatever the answer is, it concerns the records alone. -/
theorem awaiting_fares (own : ∀ socket ∈ dealer, Own (some n) id socket)
    (opened : (ear uri n).IsOpen net) :
    StepFares uri n id .next .awaiting dealer.isSome net ⟨uri, id, dealer, records, ended⟩ := by
  simp only [StepFares, step]
  cases dealer with
  | none => exact .nothing opened ⟨rfl, .idle own⟩ (Fares.keeps rfl)
  | some socket =>
    simp only
    cases hrecv : socket.recv net with
    | blocked => exact .nothing opened ⟨rfl, .awaiting own⟩ (Fares.keeps rfl)
    | failed cause => exact .nothing opened ⟨rfl, .idle own⟩ (Fares.keeps rfl)
    | done frames net' =>
      obtain ⟨opened', queued⟩ := unheard_recv (own socket rfl) opened hrecv
      simp only [takeIn]
      cases Message.ofFrames frames with
      | error cause => exact .quiet opened' queued ⟨rfl, .idle own⟩ (Fares.keeps rfl)
      | ok m =>
        simp only
        split
        · cases m.records with
          | error cause => exact .quiet opened' queued ⟨rfl, .idle own⟩ (Fares.keeps rfl)
          | ok records => exact .quiet opened' queued ⟨rfl, .begun own .next⟩ (Fares.keeps rfl)
        · exact .quiet opened' queued ⟨rfl, .begun own .next⟩ (Fares.keeps rfl)
        · exact .quiet opened' queued ⟨rfl, .idle own⟩ (Fares.keeps rfl)

/-- The last thing that a client says is that it goes, and its end is closed behind that. -/
theorem leaving_fares (old : Own (some n) id socket) {call : SourceCall} (leaves : Leaving call)
    (opened : (ear uri n).IsOpen net) :
    StepFares uri n id call (.leaving socket) true net ⟨uri, id, none, records, ended⟩ := by
  obtain ⟨frames, hframes, framed⟩ := Message.exists_frames (m := .unregistration id) rfl rfl
  simp only [StepFares, step, speak, hframes]
  rcases send_of_own old opened frames with hsend | ⟨net', hsend, opened', queued⟩
  · rw [hsend]
    exact .nothing opened ⟨rfl, .leaving old leaves⟩ (Fares.goesOn rfl)
  · rw [hsend]
    obtain ⟨opened', closed⟩ := unheard_close old opened'
    simp only [Bool.false_eq_true, if_false]
    exact .intro opened' (closed.trans queued)
      (.word (.goes framed) ⟨rfl, _, framed, Or.inr (Or.inr rfl)⟩ fun h => by cases h)
      ⟨rfl, .idle fun _ h => by cases h⟩ fun _ _ => rfl

/-- **A client speaks in its own name, and knows whether it is a member.** One lemma for each thing
that it can be in the middle of. -/
theorem step_fares {call : SourceCall} {task : Task} {s : Client} {present : Bool}
    (opened : (ear uri n).IsOpen net) (stands : Stands uri n id (some (call, task)) s present) :
    StepFares uri n id call task present net { s with identity := id } := by
  obtain ⟨uri', identity, dealer, records, ended⟩ := s
  obtain ⟨rfl, keeps⟩ := stands
  simp only at keeps
  cases keeps with
  | begun own =>
    cases call with
    | connect =>
      cases dealer with
      | some socket => exact .nothing opened ⟨rfl, .idle own⟩ (Fares.keeps rfl)
      | none => exact .nothing opened ⟨rfl, .connecting _⟩ (Fares.keeps rfl)
    | next => exact next_fares own opened
    | disconnect => exact leave_fares own .disconnect opened
    | release => exact leave_fares own .release opened
    | _ => exact .nothing opened ⟨rfl, .idle own⟩ (Fares.keeps rfl)
  | connecting deadline => exact connecting_fares deadline opened
  | greeting new => exact greeting_fares new opened
  | awaiting own => exact awaiting_fares own opened
  | leaving old leaves => exact leaving_fares old leaves opened

def peer (uri : String) (n : Nat) :
    Peer source.toService (ear uri n) (· == .connect) ends
      (fun identity s => { s with identity }) (fun _ => True) InOwnName where
  Stands := Stands uri n
  anew := fun ⟨huri, keeps⟩ unconnected => ⟨huri, keeps.anew unconnected⟩
  ask := by
    rintro id s present call - ⟨huri, keeps⟩
    refine ⟨huri, ?_⟩
    cases keeps with
    | idle own => exact .begun own call
  step := step_fares

end Client

end Fanout

open Fanin (Producer)
open Fanout (Client)

/-- **Whoever comes also goes.** Take a producer or a client whose endpoint stays, with or without
an identity of its own, and anything that may be asked of it before it is given up: to be connected,
used and disconnected in any order by anyone. What it has said when it was given up is paired, and
all in the name that it had when it was first connected; if it never was, it has said nothing. A
client speaks of nothing else, and always in its own name. -/
theorem registration_paired (uri : String) (n : Nat) (given : Option ClientId)
    (placeholder : ClientId) :
    (∀ s net log,
      Talk Producer.adopting (Producer.ear uri n) Producer.MayBe Producer.ends
        { fixed := given, server := { uri, identity := placeholder } } s net log →
      (∃ a ∈ s.answered, Producer.ends a.1.call = true) →
      (adopted (· == .connect) given s.calls = none → log = []) ∧
        ∀ id, adopted (· == .connect) given s.calls = some id → Paired id log) ∧
    (∀ s net log,
      Talk Client.adopting (Client.ear uri n) (fun _ => True) Client.ends
        { fixed := given, server := { uri, identity := placeholder } } s net log →
      (∃ a ∈ s.answered, Client.ends a.1.call = true) →
      (adopted (· == .connect) given s.calls = none → log = []) ∧
        ∀ id, adopted (· == .connect) given s.calls = some id →
          Paired id (log.map Prod.snd) ∧ ∀ request ∈ log, Client.InOwnName id request) := by
  constructor
  · intro s net log talk left
    obtain ⟨silent, paired⟩ := (Producer.peer uri n).paired
      (fun id => ⟨rfl, .idle (by nofun)⟩) talk left
    refine ⟨silent, fun id decided => ?_⟩
    have hlog : log.map (Producer.ear uri n).read = log := List.map_id log
    have := (paired id decided).1
    rwa [hlog] at this
  · intro s net log talk left
    exact (Client.peer uri n).paired (fun id => ⟨rfl, .idle (by nofun)⟩) talk left

def reception : Network where
  limits := { capacity := 8, connectTimeout := 5000, linger := 1000 }
  bound := [("in", .pull 0), ("out", .router 0)]
  pipes := [{ uri := "in" }]
  routers := [{ uri := "out" }]

theorem reception_open :
    (Producer.ear "in" 0).IsOpen reception ∧ (Client.ear "out" 0).IsOpen reception :=
  ⟨⟨fun k h => by cases h; rfl, _, rfl, rfl⟩, ⟨fun k h => by cases h; rfl, _, rfl, rfl⟩⟩

/-- A producer without an identity is told to send too early, connected by `⟨5⟩` and again by `⟨6⟩`,
made to send, and dropped by `⟨6⟩`. A client with the identity `⟨7⟩` asks, gets rubbish, and is
dropped. -/
theorem registration_paired_visits :
    (∃ s net log, Talk Producer.adopting (Producer.ear "in" 0) Producer.MayBe Producer.ends
        { fixed := none, server := { uri := "in", identity := default } } s net log ∧
      (∃ a ∈ s.answered, Producer.ends a.1.call = true) ∧
      log.map Message.arrived
        = [.registration ⟨5⟩, .registration ⟨5⟩, .barrier [], .unregistration ⟨5⟩] ∧
      Paired ⟨5⟩ log) ∧
    (∃ s net log, Talk Client.adopting (Client.ear "out" 0) (fun _ => True) Client.ends
        { fixed := some ⟨7⟩, server := { uri := "out", identity := default } } s net log ∧
      (∃ a ∈ s.answered, Client.ends a.1.call = true) ∧
      log.map (fun request => Message.arrived request.2)
        = [.registration ⟨7⟩, .dataRequest ⟨7⟩, .unregistration ⟨7⟩] ∧
      Paired ⟨7⟩ (log.map Prod.snd)) := by
  constructor
  · have start : Talk Producer.adopting (Producer.ear "in" 0) Producer.MayBe Producer.ends
        { fixed := none, server := { uri := "in", identity := default } } _ reception [] :=
      .start reception_open.1
    have sends : Producer.MayBe (.send (.barrier [])) := fun m hm => by cases hm; decide
    have early := (start.ask ⟨⟨5⟩, .send (.barrier [])⟩ rfl sends (by nofun)).step.step
    have once := (early.ask ⟨⟨5⟩, .connect⟩ rfl nofun (by decide +kernel)).step.step.step
    have twice := (once.ask ⟨⟨6⟩, .connect⟩ rfl nofun (by decide +kernel)).step.step.step
    have sent := (twice.ask ⟨⟨5⟩, .send (.barrier [])⟩ rfl sends (by decide +kernel)).step.step
    have dropped := (sent.ask ⟨⟨6⟩, .release⟩ rfl nofun (by decide +kernel)).step.step
    have paired := ((registration_paired "in" 0 none default).1 _ _ _ dropped (by decide +kernel)).2
    exact ⟨_, _, _, dropped, by decide +kernel, by decide +kernel, paired ⟨5⟩ (by decide +kernel)⟩
  · have start : Talk Client.adopting (Client.ear "out" 0) (fun _ => True) Client.ends
        { fixed := some ⟨7⟩, server := { uri := "out", identity := default } } _ reception [] :=
      .start reception_open.2
    have connected := (start.ask ⟨⟨5⟩, .connect⟩ rfl trivial (by nofun)).step.step.step
    have asked := (connected.ask ⟨⟨5⟩, .next⟩ rfl trivial (by decide +kernel)).step
    -- The router reads what it has got, and answers with a frame that is no word.
    have rubbish : (Client.ear "out" 0).IsOpen { reception with
        routers := [{ uri := "out", mailboxes := [[[[1, 2]]]], peers := [(⟨7⟩, 0)] }] } :=
      ⟨fun k h => by cases h; rfl, _, rfl, rfl⟩
    have failed := (asked.others rubbish).step
    have dropped := (failed.ask ⟨⟨6⟩, .release⟩ rfl trivial (by decide +kernel)).step.step
    have paired := ((registration_paired "out" 0 (some ⟨7⟩) default).2 _ _ _ dropped
      (by decide +kernel)).2
    exact ⟨_, _, _, dropped, by decide +kernel, by decide +kernel,
      (paired ⟨7⟩ (by decide +kernel)).1⟩

end RecordFarm
