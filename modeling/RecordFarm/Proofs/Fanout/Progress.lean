import RecordFarm.Proofs.Fanout.Requests
import RecordFarm.Proofs.Fanout.Rundown

/-!
# No request waits that could be answered

Service ends, whatever the queue looks like: `Queue.serveWithin` makes a limited number of rounds,
and as many as the load of the queue, and one more to see that nothing is left, are enough
(`Queue.serveWithin_of_load_lt`). What it leaves behind is told by `AtRest`. The reason for a
request to wait is that nothing is queued, or that its client has the barrier in progress and a
registered client has not asked for it yet.

Coming is the one call that changes who is registered and serves nothing. A barrier that waited for
somebody still does then, so the queue stays at rest (`Queue.round_register`).
-/

namespace RecordFarm

namespace Fanout

namespace Queue

/-! ## Service in a limited number of rounds -/

/-- Does what can be done in so many rounds, behind the deliveries that are due already. Nothing
comes of it if that was not enough to see the end. -/
def serveWithin : Nat → Queue → List Delivery → Option (Except Violation (List Delivery) × Queue)
  | 0, _, _ => none
  | limit + 1, q, due =>
    match q.round with
    | .idle => some (.ok due, q)
    | .served more after => serveWithin limit after (due ++ more)
    | .misplacedEnd after =>
      some (.error (.endNotLast after.messages.length due.length), after)

/-- More rounds than the queue has load are enough. Induction on the limit. -/
theorem serveWithin_of_load_lt {limit : Nat} {q : Queue} (h : q.load < limit)
    (due : List Delivery) : q.serveWithin limit due = some (q.serve due) := by
  induction limit generalizing q due with
  | zero => exact absurd h (Nat.not_lt_zero _)
  | succ limit ih =>
    rw [serveWithin]
    cases hround : q.round with
    | idle => rw [serve_of_idle hround]
    | misplacedEnd after => rw [serve_of_misplaced hround]
    | served more after =>
      -- The round has used something up, so what is left fits the limit that is left.
      have hless := round_decreases hround
      rw [serve_of_served hround]
      exact ih (by omega) _

end Queue

/-! ## What service leaves behind -/

/-- The client got its copy of the barrier in progress, which is the latest message that is not
queued any more. -/
def HasCurrent (h : List Event) (q : Queue) (b : Barrier) (id : ClientId) : Prop :=
  ∃ e ∈ entriesIn h, e.client = id ∧ e.message = b.message ∧
    e.place + 1 + q.messages.length = (sentIn h).length

/-- Nothing can be done for those who wait. -/
structure AtRest (h : List Event) (q : Queue) : Prop where
  /-- In the rundown nobody waits. -/
  ended : q.rundown = true → q.requests = [] ∧ q.messages = [] ∧ q.barrier = none
  /-- Behind a barrier only those wait who have it, and it is not over because somebody has not got
  it yet. -/
  held : q.rundown = false → ∀ b, q.barrier = some b →
    q.waiting = [] ∧ (∀ id ∈ q.requests, id ∈ b.served) ∧
      (∃ id ∈ q.clients, id ∉ b.served) ∧ ∀ id, id ∈ b.served ↔ HasCurrent h q b id
  /-- Otherwise there is nothing to give or nobody to give it to. -/
  free : q.rundown = false → q.barrier = none → q.messages = [] ∨ q.requests = []

/-- A barrier that is not complete is missing for one of the clients. -/
theorem Barrier.exists_unserved {b : Barrier} {clients : List ClientId}
    (h : b.isComplete clients = false) : ∃ id ∈ clients, id ∉ b.served := by
  unfold Barrier.isComplete at h
  obtain ⟨id, hid, unserved⟩ := List.all_eq_false.1 h
  exact ⟨id, hid, by simpa using unserved⟩

namespace Attended

variable {isBarrier : Message → Bool} {h : List Event} {q : Queue}

/-- Who counts as served by the barrier in progress has got it. -/
theorem mem_served_iff (att : Attended isBarrier h q) {b : Barrier} (busy : q.barrier = some b)
    (id : ClientId) : id ∈ b.served ↔ HasCurrent h q b id := by
  obtain ⟨taken, led⟩ := att.balanced
  have hsent : (sentIn h).length = taken.length + q.messages.length := by
    rw [led.sent, List.length_append]
  obtain ⟨-, hend, before, htaken⟩ := led.current b busy
  rw [led.served b busy id]
  constructor
  · rintro ⟨e, he, hclient, hplace⟩
    refine ⟨e, he, hclient, ?_, by omega⟩
    -- What is delivered at the last place of all is the message that was taken last.
    obtain ⟨m, hm, hends, same, -⟩ := led.contents e he
    have hlast : e.place = before.length := by
      rw [htaken, List.length_append, List.length_singleton] at hplace
      omega
    rw [hlast, htaken, List.getElem?_concat_length] at hm
    cases hm
    exact (same hend).symm
  · rintro ⟨e, he, hclient, -, hplace⟩
    exact ⟨e, he, hclient, by omega⟩

/-- A queue that can do nothing is at rest. One case for each reason. -/
theorem atRest (att : Attended isBarrier h q) (idle : q.round = .idle) : AtRest h q := by
  obtain ⟨taken, led⟩ := att.balanced
  cases (Queue.round_idle_iff q).1 idle with
  | ended past asking =>
    obtain ⟨hmessages, hbarrier, -⟩ := led.ended past
    have hrequests : q.requests = [] := by
      unfold Queue.requests
      rw [hbarrier, asking]
      rfl
    exact
      { ended := fun _ => ⟨hrequests, hmessages, hbarrier⟩
        held := fun running => by rw [past] at running; cases running
        free := fun running => by rw [past] at running; cases running }
  | @held b running busy asking missing =>
    have hrequests : q.requests = b.deferred := by
      unfold Queue.requests
      rw [busy, asking, List.append_nil]
      rfl
    refine
      { ended := fun past => by rw [past] at running; cases running
        held := fun _ b' hb' => ?_
        free := fun _ hnone => by rw [busy] at hnone; cases hnone }
    rw [busy] at hb'
    cases hb'
    rw [hrequests]
    exact ⟨asking, att.deferred b busy, Barrier.exists_unserved missing, att.mem_served_iff busy⟩
  | free running hnone nothing =>
    have hrequests : q.requests = q.waiting := by
      unfold Queue.requests
      rw [hnone]
      rfl
    exact
      { ended := fun past => by rw [past] at running; cases running
        held := fun _ b busy => by rw [hnone] at busy; cases busy
        free := fun _ _ => by rw [hrequests]; exact nothing }

end Attended

/-- **No request is stalled that could be answered.** Service comes to its end from every queue,
within a number of rounds that the queue's load bounds. After any calls none of which failed: in
the rundown no request waits, no message is queued and no barrier is in progress; behind a barrier
nobody waits but those who have it, and a registered client does not have it yet; otherwise no
message is queued or no request waits. -/
theorem never_stalls :
    (∀ (q : Queue) (limit : Nat), q.load < limit → q.serveWithin limit [] = some q.flush) ∧
    ∀ (expected : Nat) (isBarrier : Message → Bool) (cs : List Call) (log : List (List Delivery))
      (q : Queue), (Queue.new expected isBarrier).calls cs = .ok (log, q) →
      AtRest (events ((Queue.new expected isBarrier).history 0 cs)) q := by
  refine ⟨fun q limit h => Queue.serveWithin_of_load_lt h [], ?_⟩
  intro expected isBarrier cs log q run
  exact (attended_of_calls run).atRest (Queue.round_of_calls rfl run)

/-- In the rehearsal the first barrier is held up by the client `⟨1⟩` when `⟨2⟩`, which has it, asks
again; another client comes then. At the end the queue runs down. -/
theorem never_stalls_rehearsal :
    let q₀ := Queue.new 0 fun m => m.kind == .barrier
    let cs : List Call := rehearsal.take 5 ++ [.request ⟨2⟩, .register ⟨3⟩]
    let held : Queue :=
      { messages := [.barrier [[7]]], clients := [⟨3⟩, ⟨2⟩, ⟨1⟩], seen := [⟨3⟩, ⟨2⟩, ⟨1⟩]
        barrier := some ⟨.barrier [[7]], [⟨2⟩], [⟨2⟩]⟩ }
    (∃ log, q₀.calls cs = .ok (log, held)) ∧ AtRest (events (q₀.history 0 cs)) held ∧
      q₀.calls rehearsal = .ok (rehearsalLog, rehearsed) ∧
      AtRest (events (q₀.history 0 rehearsal)) rehearsed ∧
      held.load < 7 ∧ held.serveWithin 7 [] = some held.flush := by
  intro q₀ cs held
  have run : q₀.calls cs = .ok ([[], [], [], [], [(⟨2⟩, .barrier [[7]])], [], []], held) := by cbv
  have whole : q₀.calls rehearsal = .ok (rehearsalLog, rehearsed) := by cbv
  have load : held.load < 7 := by decide
  exact ⟨⟨_, run⟩, never_stalls.2 _ _ _ _ _ run, whole, never_stalls.2 _ _ _ _ _ whole, load,
    never_stalls.1 held 7 load⟩

end Fanout

end RecordFarm
