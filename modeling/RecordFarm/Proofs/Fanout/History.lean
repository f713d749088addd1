import RecordFarm.Fanout.Queue

/-!
# The history of a fan-out queue

A queue is used by calls: messages are sent, clients ask, come and go. This module says what it
means to make some calls one after the other (`Queue.calls`), and writes down what happened
(`Queue.history`): each call with the deliveries that it gave, and for each delivery the *place*
of its message in the order of sending, so that equal messages are not confused.

* **`Queue.Tick`** is the smallest thing that a queue does by itself: it answers one request, puts
  one off, retires a barrier, or begins to run down. It says everything that such a step can do.
* **`Queue.history_induction`** is the one induction over histories: what holds at first, and is
  kept by taking in a call and by every tick, holds of every history in which no call failed.
-/

namespace RecordFarm

namespace Fanout

inductive Call where
  | send (m : Message)
  | request (id : ClientId)
  | register (id : ClientId)
  | unregister (id : ClientId)
  deriving DecidableEq, Repr

def Call.sent? : Call → Option Message
  | send m => some m
  | _ => none

/-- The messages that some calls send, the first one's before those of the others. -/
theorem Call.filterMap_sent_cons (c : Call) (cs : List Call) :
    (c :: cs).filterMap Call.sent? = c.sent?.toList ++ cs.filterMap Call.sent? := by
  rw [List.filterMap_cons]
  cases c <;> rfl

/-- A delivery, with the place of its message in the order of sending. -/
structure Entry where
  client : ClientId
  message : Message
  place : Nat
  deriving DecidableEq, Repr

def Entry.delivery (e : Entry) : Delivery := (e.client, e.message)

inductive Event where
  | call (c : Call)
  | delivery (e : Entry)
  deriving DecidableEq, Repr

def sentIn (events : List Event) : List Message :=
  events.filterMap fun
    | .call c => c.sent?
    | .delivery _ => none

def entriesIn (events : List Event) : List Entry :=
  events.filterMap fun
    | .call _ => none
    | .delivery e => some e

namespace Queue

def new (expected : Nat) (isBarrier : Message → Bool) : Queue := { expected, isBarrier }

/-- Makes a call. Registering delivers nothing and cannot fail. -/
def call (q : Queue) : Call → Except Violation (List Delivery) × Queue
  | .send m => q.send m
  | .request id => q.request id
  | .register id => (.ok [], q.register id)
  | .unregister id => q.unregister id

/-- Makes calls one after the other: the deliveries of each, and the queue that they leave. A call
that fails is the last one. -/
def calls (q : Queue) : List Call → Except Violation (List (List Delivery) × Queue)
  | [] => .ok ([], q)
  | c :: cs =>
    match q.call c with
    | (.error cause, _) => .error cause
    | (.ok due, after) => (after.calls cs).map fun (log, last) => (due :: log, last)

/-- The queue when a call has been taken in and nothing has been served for it yet. -/
def accept (q : Queue) : Call → Queue
  | .send m => { q with messages := q.messages ++ [m] }
  | .request id => { q with waiting := q.waiting ++ [id] }
  | .register id => q.register id
  | .unregister id =>
    { q with
      clients := q.clients.filter fun other => decide (other ≠ id)
      waiting := q.waiting.filter fun other => decide (other ≠ id)
      barrier := q.barrier.map fun b =>
        { b with deferred := b.deferred.filter fun other => decide (other ≠ id) } }

/-- The place of the message that is delivered next, when so many were sent: all that are no longer
queued came before it, except for a barrier in progress and for the end in the rundown, which
are delivered again. -/
def place (q : Queue) (sent : Nat) : Nat :=
  sent - q.messages.length - if q.barrier.isSome || q.rundown then 1 else 0

/-- Writes the place of its message down for each delivery of a round. -/
def mark (q : Queue) (sent : Nat) (due : List Delivery) : List Entry :=
  due.map fun d => ⟨d.1, d.2, q.place sent⟩

/-- The deliveries of all rounds that can be served, when so many messages were sent. -/
def entries (sent : Nat) (q : Queue) : List Entry :=
  match _h : q.round with
  | .idle => []
  | .served due after => q.mark sent due ++ entries sent after
  | .misplacedEnd _ => []
termination_by q.load
decreasing_by exact round_decreases _h

/-- The deliveries that a call gives, when so many messages were sent, its own among them. -/
def given (sent : Nat) (q : Queue) : Call → List Entry
  | .register _ => []
  | c => (q.accept c).entries sent

/-- Calls made one after the other, each with the deliveries that it gives, when so many messages
were sent before. -/
def history (sent : Nat) (q : Queue) : List Call → List (Call × List Entry)
  | [] => []
  | c :: cs =>
    let sent := sent + c.sent?.toList.length
    (c, q.given sent c) :: (q.call c).2.history sent cs

end Queue

def events (history : List (Call × List Entry)) : List Event :=
  history.flatMap fun (c, given) => .call c :: given.map .delivery

/-! ## Ticks

A round of service serves all waiting requests at once when a barrier is in progress or the queue
runs down. A tick serves one of them, so that after every tick all accounts are balanced. -/

namespace Queue

/-- The smallest steps of serving, each with the delivery that comes of it. -/
inductive Tick : Queue → Option Delivery → Queue → Prop where
  /-- The oldest message goes to the oldest request. It may be a barrier, which is then in
  progress. -/
  | first {q : Queue} {m : Message} {messages : List Message} {id : ClientId}
      {waiting : List ClientId} (running : q.rundown = false) (free : q.barrier = none)
      (oldest : q.messages = m :: messages) (asking : q.waiting = id :: waiting)
      (notEnd : m.isEnd = false) :
      Tick q (some (id, m))
        { q with
          messages, waiting, barrier := if q.isBarrier m then some ⟨m, [id], []⟩ else none }
  /-- A client that does not have the barrier gets it. -/
  | copy {q : Queue} {b : Barrier} {id : ClientId} {waiting : List ClientId}
      (running : q.rundown = false) (busy : q.barrier = some b) (asking : q.waiting = id :: waiting)
      (unserved : id ∉ b.served) :
      Tick q (some (id, b.message))
        { q with waiting, barrier := some { b with served := id :: b.served } }
  /-- The request of a client that has the barrier is put off. -/
  | defer {q : Queue} {b : Barrier} {id : ClientId} {waiting : List ClientId}
      (running : q.rundown = false) (busy : q.barrier = some b) (asking : q.waiting = id :: waiting)
      (served : id ∈ b.served) :
      Tick q none { q with waiting, barrier := some { b with deferred := b.deferred ++ [id] } }
  /-- Every registered client has the barrier, and what was put off waits again. -/
  | complete {q : Queue} {b : Barrier} (running : q.rundown = false) (busy : q.barrier = some b)
      (idle : q.waiting = []) (everyone : b.isComplete q.clients = true) :
      Tick q none { q with waiting := b.deferred, barrier := none }
  /-- The end is reached. -/
  | finish {q : Queue} {m : Message} (running : q.rundown = false) (free : q.barrier = none)
      (last : q.messages = [m]) (asking : q.waiting ≠ []) (isEnd : m.isEnd = true) :
      Tick q none { q with messages := [], rundown := true }
  /-- In the rundown every request is answered with the end. -/
  | farewell {q : Queue} {id : ClientId} {waiting : List ClientId} (ended : q.rundown = true)
      (asking : q.waiting = id :: waiting) :
      Tick q (some (id, .endOfStream)) { q with waiting }

/-- Ticks one after the other, and their deliveries with places, when so many messages were
sent. -/
inductive Ticks (sent : Nat) : Queue → List Entry → Queue → Prop where
  | none (q : Queue) : Ticks sent q [] q
  | tick {q mid after : Queue} {due : Option Delivery} {more : List Entry}
      (now : q.Tick due mid) (later : Ticks sent mid more after) :
      Ticks sent q (q.mark sent due.toList ++ more) after

theorem Ticks.append {sent : Nat} {q mid after : Queue} {es es' : List Entry}
    (h : Ticks sent q es mid) (h' : Ticks sent mid es' after) : Ticks sent q (es ++ es') after := by
  induction h with
  | none _ => exact h'
  | tick now _ ih =>
    rw [List.append_assoc]
    exact .tick now (ih h')

theorem Ticks.one (sent : Nat) {q after : Queue} {due : Option Delivery} (h : q.Tick due after) :
    Ticks sent q (q.mark sent due.toList) after := by
  have : Ticks sent q (q.mark sent due.toList ++ []) after := .tick h (.none after)
  rwa [List.append_nil] at this

/-- Serving a barrier is a row of ticks, one for each waiting request. Induction on the requests. -/
theorem ticks_serve (sent : Nat) (waiting : List ClientId) :
    ∀ (q : Queue) (b : Barrier), q.rundown = false → q.barrier = some b → q.waiting = waiting →
      Ticks sent q (q.mark sent (b.serve waiting).1)
        { q with barrier := some (b.serve waiting).2, waiting := [] } := by
  induction waiting with
  | nil =>
    intro q b _ hb hw
    have same : { q with barrier := some b, waiting := [] } = q := by rw [← hb, ← hw]
    simp only [Barrier.serve, mark, List.map_nil]
    rw [same]
    exact .none q
  | cons id rest ih =>
    intro q b hr hb hw
    -- The first request is put off or answered, and the others are served from there.
    by_cases hid : id ∈ b.served
    · have step := Ticks.one sent (Tick.defer hr hb hw hid)
      have more := ih
        { q with waiting := rest, barrier := some { b with deferred := b.deferred ++ [id] } }
        _ hr rfl rfl
      have := step.append more
      simpa [Barrier.serve, hid, mark, place, hb] using this
    · have step := Ticks.one sent (Tick.copy hr hb hw hid)
      have more := ih
        { q with waiting := rest, barrier := some { b with served := id :: b.served } }
        _ hr rfl rfl
      have := step.append more
      simpa [Barrier.serve, hid, mark, place, hb] using this

/-- Answering every request in the rundown is a row of ticks. Induction on the requests. -/
theorem ticks_farewell (sent : Nat) (waiting : List ClientId) :
    ∀ q : Queue, q.rundown = true → q.waiting = waiting →
      Ticks sent q (q.mark sent (waiting.map fun id => (id, .endOfStream)))
        { q with waiting := [] } := by
  induction waiting with
  | nil =>
    intro q _ hw
    have same : { q with waiting := [] } = q := by rw [← hw]
    rw [same]
    exact .none q
  | cons id rest ih =>
    intro q hr hw
    have step := Ticks.one sent (Tick.farewell hr hw)
    have := step.append (ih { q with waiting := rest } hr rfl)
    simpa [mark, place] using this

/-- **Every round is a row of ticks.** -/
theorem ticks_of_round (sent : Nat) {q after : Queue} {due : List Delivery}
    (h : q.round = .served due after) : Ticks sent q (q.mark sent due) after := by
  unfold round at h
  split at h
  · next ended =>
    split at h
    · cases h
    · next waiting _ =>
      simp only [Round.served.injEq] at h
      obtain ⟨rfl, rfl⟩ := h
      exact ticks_farewell sent _ q ended rfl
  · next running =>
    have running : q.rundown = false := by simpa using running
    split at h
    · next b busy =>
      -- The requests are served first. The barrier may be retired after that.
      have served := ticks_serve sent q.waiting q b running busy rfl
      generalize b.serve q.waiting = outcome at h served
      obtain ⟨given, b'⟩ := outcome
      simp only at h served
      split at h
      · next everyone =>
        simp only [Round.served.injEq] at h
        obtain ⟨rfl, rfl⟩ := h
        have last := Ticks.one sent
          (Tick.complete (q := { q with barrier := some b', waiting := [] }) running rfl rfl
            everyone)
        simpa [mark] using served.append last
      · split at h
        · cases h
        · simp only [Round.served.injEq] at h
          obtain ⟨rfl, rfl⟩ := h
          exact served
    · next free =>
      split at h
      · cases h
      · cases h
      · next m messages id waiting oldest asking =>
        split at h
        · next isEnd =>
          split at h
          · next alone =>
            simp only [Round.served.injEq] at h
            obtain ⟨rfl, rfl⟩ := h
            obtain rfl : messages = [] := by simpa using alone
            have asked : q.waiting ≠ [] := by rw [asking]; simp
            simpa [mark] using Ticks.one sent (Tick.finish running free oldest asked isEnd)
          · cases h
        · next notEnd =>
          simp only [Round.served.injEq] at h
          obtain ⟨rfl, rfl⟩ := h
          have notEnd : m.isEnd = false := by simpa using notEnd
          exact Ticks.one sent (Tick.first running free oldest asking notEnd)

/-- What a service that does not fail gives: its entries, which are a row of ticks. -/
theorem serve_ok (sent : Nat) {q after : Queue} {due log : List Delivery}
    (h : q.serve due = (.ok log, after)) :
    log = due ++ (q.entries sent).map Entry.delivery ∧ Ticks sent q (q.entries sent) after := by
  fun_induction serve q due with
  | case1 q due idle =>
    simp only [Prod.mk.injEq, Except.ok.injEq] at h
    obtain ⟨rfl, rfl⟩ := h
    rw [entries, idle]
    exact ⟨by simp, .none q⟩
  | case2 q due more mid served ih =>
    obtain ⟨hlog, hticks⟩ := ih h
    rw [entries, served]
    refine ⟨?_, (ticks_of_round sent served).append hticks⟩
    rw [hlog, List.map_append, List.append_assoc]
    simp [mark, Function.comp_def, Entry.delivery]
  | case3 q due last misplaced => simp at h

/-- What a call that does not fail comes to: it is taken in, and ticks follow. Nothing is sent in
the rundown. -/
theorem call_ok (sent : Nat) {q after : Queue} {c : Call} {due : List Delivery}
    (h : q.call c = (.ok due, after)) :
    (∀ m, c = .send m → q.rundown = false) ∧
      due = (q.given sent c).map Entry.delivery ∧
      Ticks sent (q.accept c) (q.given sent c) after := by
  cases c with
  | send m =>
    simp only [call, send] at h
    split at h
    · simp at h
    · next running =>
      obtain ⟨hdue, hticks⟩ := serve_ok sent h
      exact ⟨fun _ _ => by simpa using running, hdue, hticks⟩
  | request id =>
    obtain ⟨hdue, hticks⟩ := serve_ok sent h
    exact ⟨fun _ hc => (by cases hc), hdue, hticks⟩
  | register id =>
    simp only [call, Prod.mk.injEq, Except.ok.injEq] at h
    obtain ⟨rfl, rfl⟩ := h
    exact ⟨fun _ hc => (by cases hc), rfl, .none _⟩
  | unregister id =>
    obtain ⟨hdue, hticks⟩ := serve_ok sent h
    exact ⟨fun _ hc => (by cases hc), hdue, hticks⟩

/-- Calls that succeed are a first one that does and later ones that do. -/
theorem calls_cons_ok {q last : Queue} {c : Call} {cs : List Call} {log : List (List Delivery)}
    (h : q.calls (c :: cs) = .ok (log, last)) :
    ∃ due after rest, q.call c = (.ok due, after) ∧ after.calls cs = .ok (rest, last) ∧
      log = due :: rest := by
  unfold calls at h
  split at h
  · cases h
  · next due after now =>
    cases later : after.calls cs with
    | error cause => rw [later] at h; cases h
    | ok result =>
      obtain ⟨rest, last'⟩ := result
      rw [later] at h
      simp only [Except.map, Except.ok.injEq, Prod.mk.injEq] at h
      obtain ⟨rfl, rfl⟩ := h
      exact ⟨due, after, rest, now, later, rfl⟩

/-- **Calls one after the other are made in two runs.** The second starts where the first ends, and
the history is that of the first and then that of the second. -/
theorem calls_append_ok {q last : Queue} {cs cs' : List Call} {log : List (List Delivery)}
    (h : q.calls (cs ++ cs') = .ok (log, last)) :
    ∃ log₁ mid log₂, q.calls cs = .ok (log₁, mid) ∧ mid.calls cs' = .ok (log₂, last) ∧
      ∀ sent, q.history sent (cs ++ cs') =
        q.history sent cs ++ mid.history (sent + (cs.filterMap Call.sent?).length) cs' := by
  induction cs generalizing q log with
  | nil => exact ⟨[], q, log, rfl, h, fun sent => rfl⟩
  | cons c cs ih =>
    obtain ⟨due, after, rest, now, later, rfl⟩ := calls_cons_ok h
    obtain ⟨log₁, mid, log₂, first, second, hist⟩ := ih later
    refine ⟨due :: log₁, mid, log₂, ?_, second, ?_⟩
    · rw [calls, now]
      show (after.calls cs).map _ = _
      rw [first]
      rfl
    · intro sent
      -- The places of the second run are counted from all that the first one sent.
      have count : ((c :: cs).filterMap Call.sent?).length
          = c.sent?.toList.length + (cs.filterMap Call.sent?).length := by
        rw [Call.filterMap_sent_cons, List.length_append]
      rw [List.cons_append, history, now, hist, history, now, count, Nat.add_assoc]
      rfl

end Queue

/-! ## Histories grow -/

theorem events_append (history history' : List (Call × List Entry)) :
    events (history ++ history') = events history ++ events history' :=
  List.flatMap_append ..

@[simp] theorem sentIn_append (h h' : List Event) : sentIn (h ++ h') = sentIn h ++ sentIn h' :=
  List.filterMap_append ..

@[simp] theorem entriesIn_append (h h' : List Event) :
    entriesIn (h ++ h') = entriesIn h ++ entriesIn h' :=
  List.filterMap_append ..

@[simp] theorem sentIn_nil : sentIn [] = [] := rfl

@[simp] theorem entriesIn_nil : entriesIn [] = [] := rfl

@[simp] theorem sentIn_call (c : Call) (h : List Event) :
    sentIn (.call c :: h) = c.sent?.toList ++ sentIn h := by
  cases c <;> rfl

@[simp] theorem entriesIn_call (c : Call) (h : List Event) :
    entriesIn (.call c :: h) = entriesIn h := rfl

@[simp] theorem sentIn_deliveries (es : List Entry) : sentIn (es.map .delivery) = [] := by
  induction es with
  | nil => rfl
  | cons e es _ => simp [sentIn]

@[simp] theorem entriesIn_deliveries (es : List Entry) : entriesIn (es.map .delivery) = es := by
  induction es with
  | nil => rfl
  | cons e es ih =>
    show e :: entriesIn (es.map .delivery) = e :: es
    rw [ih]

namespace Queue

variable {P : List Event → Queue → Prop}

/-- What every tick keeps is kept by a row of ticks. -/
theorem Ticks.keep
    (onTick : ∀ h q due after, P h q → q.Tick due after →
      P (h ++ (q.mark (sentIn h).length due.toList).map .delivery) after)
    {sent : Nat} {q after : Queue} {es : List Entry} (ticks : Ticks sent q es after) :
    ∀ h, (sentIn h).length = sent → P h q → P (h ++ es.map .delivery) after := by
  induction ticks with
  | none q =>
    intro h _ hP
    simpa using hP
  | @tick q mid after due more now _ ih =>
    intro h hsent hP
    have next := onTick h q due mid hP now
    rw [hsent] at next
    have := ih _ (by simpa using hsent) next
    rwa [List.append_assoc, ← List.map_append] at this

/-- **Induction over histories.** What is kept when a call is taken in and by every tick is kept
by calls none of which fails. -/
theorem history_induction
    (onCall : ∀ h q c, P h q → (∀ m, c = .send m → q.rundown = false) →
      P (h ++ [.call c]) (q.accept c))
    (onTick : ∀ h q due after, P h q → q.Tick due after →
      P (h ++ (q.mark (sentIn h).length due.toList).map .delivery) after)
    {q last : Queue} {cs : List Call} {log : List (List Delivery)}
    (run : q.calls cs = .ok (log, last)) :
    ∀ h, P h q → P (h ++ events (q.history (sentIn h).length cs)) last := by
  induction cs generalizing q log with
  | nil =>
    intro h hP
    simp only [calls, Except.ok.injEq, Prod.mk.injEq] at run
    obtain ⟨-, rfl⟩ := run
    simpa [history, events] using hP
  | cons c cs ih =>
    intro h hP
    obtain ⟨due, after, rest, now, later, rfl⟩ := calls_cons_ok run
    obtain ⟨allowed, -, ticks⟩ := call_ok ((sentIn h).length + c.sent?.toList.length) now
    have taken := onCall h q c hP allowed
    have served := ticks.keep onTick (h ++ [.call c]) (by simp) taken
    -- Deliveries send nothing, so the other calls count on from this one.
    have count (n : Nat) : (sentIn (h ++ [.call c] ++ (q.given n c).map .delivery)).length
        = (sentIn h).length + c.sent?.toList.length := by simp
    have rest := ih later _ served
    rw [count] at rest
    simpa [history, events, now, List.append_assoc] using rest

end Queue

/-! ## A rehearsal

One run through all there is: two clients, a barrier, another one with the same content, and the
end of the stream. -/

def rehearsal : List Call :=
  let x : ClientId := ⟨1⟩
  let y : ClientId := ⟨2⟩
  [.register x, .register y, .send (.barrier [[7]]), .send (.barrier [[7]]), .request y, .request x,
    .request y, .send .endOfStream, .request x, .request x, .request y]

/-- What the clients get in the rehearsal. -/
def rehearsalLog : List (List Delivery) :=
  let x : ClientId := ⟨1⟩
  let y : ClientId := ⟨2⟩
  let b : Message := .barrier [[7]]
  [[], [], [], [], [(y, b)], [(x, b)], [(y, b)], [], [(x, b)], [(x, .endOfStream)],
    [(y, .endOfStream)]]

def rehearsed : Queue :=
  { clients := [⟨2⟩, ⟨1⟩], seen := [⟨2⟩, ⟨1⟩], rundown := true }

end Fanout

end RecordFarm
