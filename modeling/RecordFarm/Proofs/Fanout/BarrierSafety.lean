import RecordFarm.Proofs.Fanout.Ledger

/-!
# A barrier comes before what was sent after it

A barrier is settled when every registered client has it. Until then nothing that was sent after
it is delivered, so a client that was registered while the barrier was not settled, and stayed,
has its copy before it or anybody else gets something later.

The argument follows one client and one barrier from some moment on. How many messages are settled
(`Queue.settled`) grows past the barrier at one tick only, which is the one that retires it, and
that tick has just seen that everyone was served (`passed_of_tick`).
-/

namespace RecordFarm

namespace Fanout

/-- The client got the message at this place. -/
def Got (h : List Event) (c : ClientId) (p : Nat) : Prop :=
  ∃ e ∈ entriesIn h, e.client = c ∧ e.place = p

theorem Got.append {h : List Event} {c : ClientId} {p : Nat} (got : Got h c p) (h' : List Event) :
    Got (h ++ h') c p := by
  obtain ⟨e, he, hclient, hplace⟩ := got
  exact ⟨e, by rw [entriesIn_append]; exact List.mem_append_left _ he, hclient, hplace⟩

/-- How many messages are settled, when so many were sent: they have left the queue, and are not the
barrier in progress. -/
def Queue.settled (q : Queue) (sent : Nat) : Nat :=
  sent - q.messages.length - if q.barrier.isSome then 1 else 0

/-- If a barrier was sent at this place, and it is not the end. -/
def BarrierAt (isBarrier : Message → Bool) (sent : List Message) (p : Nat) : Prop :=
  ∀ m, sent[p]? = some m → isBarrier m = true ∧ m.isEnd = false

/-- What is delivered next does not come after the messages that are settled. -/
theorem place_le_settled (q : Queue) (sent : Nat) : q.place sent ≤ q.settled sent := by
  unfold Queue.place Queue.settled
  cases q.barrier.isSome <;> cases q.rundown <;> simp

variable {isBarrier : Message → Bool} {taken : List Message} {h : List Event} {q : Queue}

/-- The number of settled messages in terms of those that were taken. -/
theorem Ledger.settled_eq (led : Ledger isBarrier taken h q) :
    q.settled (sentIn h).length = taken.length - if q.barrier.isSome then 1 else 0 := by
  unfold Queue.settled
  rw [led.sent, List.length_append, Nat.add_sub_cancel]

/-- A barrier becomes settled only when every registered client has it. One case for each tick. -/
theorem passed_of_tick (led : Ledger isBarrier taken h q) {due : Option Delivery} {after : Queue}
    (t : q.Tick due after) {c : ClientId} {p : Nat} (hbarrier : BarrierAt isBarrier (sentIn h) p)
    (registered : c ∈ q.clients) (unsettled : q.settled (sentIn h).length ≤ p)
    (passed : p < after.settled (sentIn h).length) : Got h c p := by
  have hsettled := led.settled_eq
  cases t with
  | @first m messages id waiting running free oldest asking notEnd =>
    -- Only an item is settled at once, and the barrier is none.
    rw [hsettled, free] at unsettled
    have htaken : (sentIn h).length = taken.length + (messages.length + 1) := by
      rw [led.sent, oldest, List.length_append, List.length_cons]
    by_cases hm : q.isBarrier m = true
    · simp only [Queue.settled, hm, if_true, Option.isSome_some, htaken] at passed
      simp only [Option.isSome_none, Bool.false_eq_true, if_false] at unsettled
      omega
    · simp only [Queue.settled, hm, Bool.false_eq_true, if_false, Option.isSome_none, htaken]
        at passed
      simp only [Option.isSome_none, Bool.false_eq_true, if_false] at unsettled
      obtain rfl : p = taken.length := by omega
      have := hbarrier m (by rw [led.sent, oldest]; simp)
      rw [← led.classifier] at this
      exact absurd this.1 hm
  | copy running busy asking unserved =>
    simp only [Queue.settled, busy, Option.isSome_some] at unsettled passed
    omega
  | defer running busy asking served =>
    simp only [Queue.settled, busy, Option.isSome_some] at unsettled passed
    omega
  | @complete b running busy idle everyone =>
    -- The barrier is retired because everyone who is registered was served.
    have hserved : c ∈ b.served := by
      have := List.all_eq_true.1 everyone c registered
      simpa using this
    obtain ⟨e, he, hclient, hplace⟩ := (led.served b busy c).1 hserved
    refine ⟨e, he, hclient, ?_⟩
    rw [hsettled, busy] at unsettled
    have htaken : (sentIn h).length = taken.length + q.messages.length := by
      rw [led.sent, List.length_append]
    simp only [Queue.settled, Option.isSome_none, Bool.false_eq_true, if_false, htaken] at passed
    simp only [Option.isSome_some, if_true] at unsettled
    omega
  | @finish m running free last asking isEnd =>
    -- What is taken is the end, and the barrier is none.
    rw [hsettled, free] at unsettled
    have htaken : (sentIn h).length = taken.length + 1 := by
      rw [led.sent, last, List.length_append, List.length_singleton]
    simp only [Queue.settled, free, Option.isSome_none, Bool.false_eq_true, if_false,
      List.length_nil, htaken] at passed
    simp only [Option.isSome_none, Bool.false_eq_true, if_false] at unsettled
    obtain rfl : p = taken.length := by omega
    have := hbarrier m (by rw [led.sent, last]; simp)
    rw [isEnd] at this
    cases this.2
  | farewell ended asking =>
    simp only [Queue.settled] at unsettled passed
    omega

/-! ## One client and one barrier -/

/-- What is known of a client that was registered after `base`, when the barrier at place `p` was
not settled: as long as it stays it has the barrier or the barrier is not settled, and of what
was sent later nothing was delivered before it had the barrier. -/
structure Watched (isBarrier : Message → Bool) (p : Nat) (c : ClientId) (base mid : List Event)
    (q : Queue) : Prop where
  balanced : ∃ taken, Ledger isBarrier taken (base ++ mid) q
  registered : .call (.unregister c) ∉ mid → c ∈ q.clients
  reached : .call (.unregister c) ∉ mid → BarrierAt isBarrier (sentIn (base ++ mid)) p →
    q.settled (sentIn (base ++ mid)).length ≤ p ∨ Got (base ++ mid) c p
  safe : BarrierAt isBarrier (sentIn (base ++ mid)) p →
    ∀ before e rest, mid = before ++ .delivery e :: rest → .call (.unregister c) ∉ before →
      p < e.place → Got (base ++ before) c p

namespace Watched

variable {p : Nat} {c : ClientId} {base mid : List Event}

/-- What was a barrier among more messages was one before they were sent. -/
theorem barrierAt_of_append {sent more : List Message}
    (hbarrier : BarrierAt isBarrier (sent ++ more) p) : BarrierAt isBarrier sent p := by
  intro m hm
  refine hbarrier m ?_
  rw [List.getElem?_append_left (List.getElem?_eq_some_iff.1 hm).1]
  exact hm

/-- Taking a call in keeps a client watched. -/
theorem call (w : Watched isBarrier p c base mid q) (x : Call)
    (allowed : ∀ m, x = .send m → q.rundown = false) :
    Watched isBarrier p c base (mid ++ [.call x]) (q.accept x) := by
  obtain ⟨taken, led⟩ := w.balanced
  have hsent : sentIn (base ++ (mid ++ [.call x])) = sentIn (base ++ mid) ++ x.sent?.toList := by
    simp [← List.append_assoc]
  constructor
  case balanced =>
    refine ⟨taken, ?_⟩
    rw [← List.append_assoc]
    exact led.call x allowed
  case registered =>
    intro stays
    obtain ⟨hmid, hx⟩ : .call (.unregister c) ∉ mid ∧ x ≠ .unregister c := by
      simpa [eq_comm] using stays
    have := w.registered hmid
    cases x with
    | send m => exact this
    | request id => exact this
    | register id => exact List.mem_insert_of_mem this
    | unregister id =>
      have : c ≠ id := by rintro rfl; exact hx rfl
      simp [Queue.accept, this, w.registered hmid]
  case reached =>
    intro stays hbarrier
    rw [hsent] at hbarrier
    have hmid : .call (.unregister c) ∉ mid := fun hin => stays (List.mem_append_left _ hin)
    -- A message that is sent joins the queue, so no more messages are settled than before.
    have hsettled : (q.accept x).settled (sentIn (base ++ (mid ++ [.call x]))).length
        = q.settled (sentIn (base ++ mid)).length := by
      rw [hsent, List.length_append]
      cases x with
      | send m =>
        simp only [Queue.settled, Queue.accept, Call.sent?, Option.toList_some,
          List.length_append, List.length_singleton, Nat.add_sub_add_right]
        rfl
      | request id => rfl
      | register id => rfl
      | unregister id => simp [Queue.settled, Queue.accept, Call.sent?]
    rw [hsettled]
    rcases w.reached hmid (barrierAt_of_append hbarrier) with unsettled | got
    · exact Or.inl unsettled
    · rw [← List.append_assoc]
      exact Or.inr (got.append _)
  case safe =>
    intro hbarrier before e rest hsplit stays hlater
    rw [hsent] at hbarrier
    rcases List.eq_nil_or_concat rest with rfl | ⟨rest, last, rfl⟩
    · -- A call is no delivery.
      have := (List.append_inj' hsplit rfl).2
      cases this
    · rw [List.concat_eq_append, ← List.cons_append, ← List.append_assoc] at hsplit
      have := (List.append_inj' hsplit rfl).1
      exact w.safe (barrierAt_of_append hbarrier) before e rest this stays hlater

/-- A tick keeps a client watched. -/
theorem tick (w : Watched isBarrier p c base mid q) {due : Option Delivery} {after : Queue}
    (t : q.Tick due after) :
    Watched isBarrier p c base
      (mid ++ (q.mark (sentIn (base ++ mid)).length due.toList).map .delivery) after := by
  obtain ⟨taken, led⟩ := w.balanced
  have hsent : ∀ es : List Entry,
      sentIn (base ++ (mid ++ es.map .delivery)) = sentIn (base ++ mid) := by
    intro es
    simp [← List.append_assoc]
  have hstays : ∀ es : List Entry, Event.call (.unregister c) ∉ mid ++ es.map .delivery →
      Event.call (.unregister c) ∉ mid :=
    fun es stays hin => stays (List.mem_append_left _ hin)
  have hclients : after.clients = q.clients := by cases t <;> rfl
  constructor
  case balanced =>
    rw [← List.append_assoc]
    exact led.tick t
  case registered =>
    intro stays
    rw [hclients]
    exact w.registered (hstays _ stays)
  case reached =>
    intro stays hbarrier
    rw [hsent] at hbarrier ⊢
    have hmid := hstays _ stays
    rw [← List.append_assoc]
    rcases w.reached hmid hbarrier with unsettled | got
    · rcases Nat.lt_or_ge p (after.settled (sentIn (base ++ mid)).length) with passed | still
      · have := passed_of_tick led t hbarrier (w.registered hmid) unsettled passed
        exact Or.inr (this.append _)
      · exact Or.inl still
    · exact Or.inr (got.append _)
  case safe =>
    intro hbarrier before e rest hsplit stays hlater
    rw [hsent] at hbarrier
    cases due with
    | none =>
      simp only [Option.toList_none, Queue.mark, List.map_nil, List.append_nil] at hsplit
      exact w.safe hbarrier before e rest hsplit stays hlater
    | some d =>
      simp only [Option.toList_some, Queue.mark, List.map_cons, List.map_nil] at hsplit
      rcases List.eq_nil_or_concat rest with rfl | ⟨rest, last, rfl⟩
      · -- This is the new delivery: what it delivers is not settled earlier than the barrier.
        obtain ⟨rfl, hnew⟩ := List.append_inj' hsplit rfl
        obtain rfl := Event.delivery.inj (List.cons.inj hnew).1
        have hplace := place_le_settled q (sentIn (base ++ mid)).length
        rcases w.reached stays hbarrier with unsettled | got
        · simp only at hlater
          omega
        · exact got
      · rw [List.concat_eq_append, ← List.cons_append, ← List.append_assoc] at hsplit
        have := (List.append_inj' hsplit rfl).1
        exact w.safe hbarrier before e rest this stays hlater

/-- A client can be watched from any moment at which it is registered and the barrier has not been
delivered to anybody, or is in progress. -/
theorem start (led : Ledger isBarrier taken base q) (registered : c ∈ q.clients)
    (early : (∀ e ∈ entriesIn base, e.place ≠ p) ∨
      q.barrier.isSome = true ∧ ∀ e ∈ entriesIn base, e.place ≤ p) :
    Watched isBarrier p c base [] q where
  balanced := ⟨taken, by rw [List.append_nil]; exact led⟩
  registered := fun _ => registered
  reached := by
    intro _ hbarrier
    rw [List.append_nil] at hbarrier ⊢
    refine Or.inl ?_
    rw [led.settled_eq]
    rcases early with unseen | ⟨busy, latest⟩
    · -- All settled messages but the end were delivered to somebody.
      by_contra hpassed
      have hp : p < taken.length := by omega
      cases hr : q.rundown with
      | false =>
        obtain ⟨e, he, hplace⟩ := led.delivered_at (k := p) (by rw [hr]; simpa using hp)
        exact unseen e he hplace
      | true =>
        obtain ⟨-, -, before, m, htaken, hend⟩ := led.ended hr
        by_cases hlast : p = taken.length - 1
        · have := hbarrier m (by rw [led.sent, hlast, htaken]; simp)
          rw [hend] at this
          cases this.2
        · obtain ⟨e, he, hplace⟩ := led.delivered_at (k := p) (by rw [hr, if_pos rfl]; omega)
          exact unseen e he hplace
    · -- The barrier in progress was delivered, so it was sent no later than this one.
      obtain ⟨b, hb⟩ := Option.isSome_iff_exists.1 busy
      obtain ⟨-, -, before, htaken⟩ := led.current b hb
      have hr := led.running hb
      obtain ⟨e, he, hplace⟩ := led.delivered_at (k := taken.length - 1) (by simp [hr, htaken])
      have := latest e he
      rw [busy, if_pos rfl]
      omega
  safe := by
    intro _ before e rest hsplit
    have := congrArg List.length hsplit
    simp at this

end Watched

/-- A client stays watched through calls none of which fails. -/
theorem watched_of_calls {p : Nat} {c : ClientId} {base : List Event} {last : Queue}
    {cs : List Call} {log : List (List Delivery)} (w : Watched isBarrier p c base [] q)
    (run : q.calls cs = .ok (log, last)) :
    Watched isBarrier p c base (events (q.history (sentIn base).length cs)) last := by
  have := Queue.history_induction
    (P := fun h q => ∃ mid, h = base ++ mid ∧ Watched isBarrier p c base mid q)
    (by
      rintro h q x ⟨mid, rfl, w⟩ allowed
      exact ⟨mid ++ [.call x], by rw [List.append_assoc], w.call x allowed⟩)
    (by
      rintro h q due after ⟨mid, rfl, w⟩ t
      exact ⟨_, by rw [List.append_assoc], w.tick t⟩)
    run base ⟨[], by rw [List.append_nil], w⟩
  obtain ⟨mid, hmid, watched⟩ := this
  rw [List.append_cancel_left hmid]
  exact watched

/-- What is delivered at the place of a message that is no end is this message. -/
theorem Ledger.message_at (led : Ledger isBarrier taken h q) {p : Nat} {b : Message}
    (hb : (sentIn h)[p]? = some b) (hend : b.isEnd = false) {e : Entry} (he : e ∈ entriesIn h)
    (hplace : e.place = p) : e.message = b := by
  obtain ⟨m, hm, hsame⟩ := led.delivered he
  rw [hplace, hb] at hm
  cases hm
  rcases hsame with rfl | ⟨hend', -⟩
  · rfl
  · rw [hend] at hend'
    cases hend'

/-- A client that is watched from a moment between two calls on has the barrier before anything that
was sent after it. -/
theorem got_of_later {expected : Nat} {cs₁ cs₂ : List Call} {log₁ log : List (List Delivery)}
    {q₁ : Queue} {c : ClientId} {p : Nat}
    (run₁ : (Queue.new expected isBarrier).calls cs₁ = .ok (log₁, q₁))
    (run : (Queue.new expected isBarrier).calls (cs₁ ++ cs₂) = .ok (log, q))
    (w : Watched isBarrier p c (events ((Queue.new expected isBarrier).history 0 cs₁)) [] q₁)
    (barrier : BarrierAt isBarrier ((cs₁ ++ cs₂).filterMap Call.sent?) p) {mid rest : List Event}
    {e : Entry} (split : events ((Queue.new expected isBarrier).history 0 (cs₁ ++ cs₂))
      = events ((Queue.new expected isBarrier).history 0 cs₁) ++ mid ++ .delivery e :: rest)
    (stays : .call (.unregister c) ∉ mid) (later : p < e.place) :
    ∃ e' ∈ entriesIn (events ((Queue.new expected isBarrier).history 0 cs₁) ++ mid),
      e'.client = c ∧ e'.place = p := by
  obtain ⟨log₁', q₁', log₂, run₁', run₂, hist⟩ := Queue.calls_append_ok run
  rw [run₁] at run₁'
  cases run₁'
  have hcount : (sentIn (events ((Queue.new expected isBarrier).history 0 cs₁))).length
      = 0 + (cs₁.filterMap Call.sent?).length := by
    rw [sentIn_history, Nat.zero_add]
  rw [hist, events_append, ← hcount] at split
  refine (watched_of_calls w run₂).safe ?_ mid e rest ?_ stays later
  · have whole := sentIn_history 0 (Queue.new expected isBarrier) (cs₁ ++ cs₂)
    rw [hist, events_append, ← hcount] at whole
    rw [whole]
    exact barrier
  · rw [List.append_assoc] at split
    exact List.append_cancel_left split

/-- **Barrier safety.** Let `b` be the message sent at place `p`, a barrier and not the end, in a
history in which no call failed.

1. What is delivered at place `p` is `b`, and no client gets it twice.
2. From the first copy of `b` on, only copies of `b` are delivered until something that was sent
   after it is.
3. Take a moment between two calls at which a client is registered, and at which no copy of `b`
   was delivered yet or `b` is in progress. When something that was sent after `b` is delivered
   later to anyone, and the client did not unregister in between, the client got `b` before. -/
theorem barrier_before_later {expected : Nat} {cs : List Call} {log : List (List Delivery)}
    (run : (Queue.new expected isBarrier).calls cs = .ok (log, q)) {p : Nat} {b : Message}
    (hb : (cs.filterMap Call.sent?)[p]? = some b) (hbarrier : isBarrier b = true)
    (hend : b.isEnd = false) :
    let h := events ((Queue.new expected isBarrier).history 0 cs)
    (entriesIn h).map Entry.delivery = log.flatten ∧
      (∀ e ∈ entriesIn h, ∃ m, (cs.filterMap Call.sent?)[e.place]? = some m ∧
        (m = e.message ∨ m.isEnd = true ∧ e.message = .endOfStream)) ∧
      (∀ e ∈ entriesIn h, e.place = p → e.message = b) ∧
      (((entriesIn h).filter fun e => e.place == p).map Entry.client).Nodup ∧
      (∀ before first between after, entriesIn h = before ++ first :: between ++ after →
        first.place = p → (∀ e ∈ between, e.place ≤ p) → ∀ e ∈ between, e.place = p) ∧
      ∀ cs₁ cs₂ log₁ q₁ c, cs = cs₁ ++ cs₂ →
        (Queue.new expected isBarrier).calls cs₁ = .ok (log₁, q₁) →
        let h₁ := events ((Queue.new expected isBarrier).history 0 cs₁)
        q₁.isRegistered c = true →
        ((∀ e ∈ entriesIn h₁, e.place ≠ p) ∨
          q₁.barrier.isSome = true ∧ (∃ e ∈ entriesIn h₁, e.place = p) ∧
            ∀ e ∈ entriesIn h₁, e.place ≤ p) →
        ∀ mid e rest, h = h₁ ++ mid ++ .delivery e :: rest →
          .call (.unregister c) ∉ mid → p < e.place →
          ∃ e' ∈ entriesIn (h₁ ++ mid), e'.client = c ∧ e'.place = p := by
  intro h
  obtain ⟨taken, led⟩ := ledger_of_calls run
  have hsent : sentIn h = cs.filterMap Call.sent? := sentIn_history ..
  have hcontents : ∀ e ∈ entriesIn h, ∃ m, (cs.filterMap Call.sent?)[e.place]? = some m ∧
      (m = e.message ∨ m.isEnd = true ∧ e.message = .endOfStream) := by
    intro e he
    rw [← hsent]
    exact led.delivered he
  have hcopy : ∀ e ∈ entriesIn h, e.place = p → e.message = b :=
    fun e he hplace => led.message_at (by rw [hsent]; exact hb) hend he hplace
  refine ⟨entriesIn_history 0 run, hcontents, hcopy, ?_, ?_, ?_⟩
  · -- The copies of one message go to different clients.
    rw [List.Nodup, List.pairwise_map, List.pairwise_filter]
    refine led.once.imp_of_mem ?_
    intro e e' he he' honce hplace hplace'
    have hplace : e.place = p := by simpa using hplace
    have hplace' : e'.place = p := by simpa using hplace'
    exact honce (hplace.trans hplace'.symm) (by rw [hcopy e' he' hplace']; exact hend)
  · -- Places do not go down, so nothing between is from before the barrier.
    intro before first between after hsplit hfirst hlatest e he
    have hordered := led.ordered
    rw [show entriesIn (events ((Queue.new expected isBarrier).history 0 cs)) = _ from hsplit,
      List.append_assoc, List.cons_append] at hordered
    have := (List.pairwise_cons.1 (List.pairwise_append.1 hordered).2.1).1 e
      (List.mem_append_left _ he)
    have := hlatest e he
    omega
  · -- The client is watched from the given moment on, through the calls that follow.
    rintro cs₁ cs₂ log₁ q₁ c rfl run₁ h₁ registered early mid e rest hsplit stays hlater
    obtain ⟨taken₁, led₁⟩ := ledger_of_calls run₁
    have w : Watched isBarrier p c h₁ [] q₁ := by
      refine .start led₁ (by simpa [Queue.isRegistered] using registered) ?_
      rcases early with unseen | ⟨busy, -, latest⟩
      · exact Or.inl unseen
      · exact Or.inr ⟨busy, latest⟩
    refine got_of_later run₁ run w (fun m hm => ?_) hsplit stays hlater
    rw [hb] at hm
    cases hm
    exact ⟨hbarrier, hend⟩

/-- In the rehearsal the client `⟨1⟩` is watched from the first copy of the first barrier on. It has
its own copy before the second barrier, which has the same content, is delivered. -/
theorem barrier_before_later_rehearsal :
    let q₀ := Queue.new 0 fun m => m.kind == .barrier
    let h₁ := events (q₀.history 0 (rehearsal.take 5))
    let mid : List Event :=
      [.call (.request ⟨1⟩), .delivery ⟨⟨1⟩, .barrier [[7]], 0⟩, .call (.request ⟨2⟩)]
    events (q₀.history 0 rehearsal) = h₁ ++ mid ++ .delivery ⟨⟨2⟩, .barrier [[7]], 1⟩ ::
        (events (q₀.history 0 rehearsal)).drop 10 ∧
      ∃ e ∈ entriesIn (h₁ ++ mid), e.client = ⟨1⟩ ∧ e.place = 0 := by
  intro q₀ h₁ mid
  have run : q₀.calls rehearsal = .ok (rehearsalLog, rehearsed) := by cbv
  have run₁ : q₀.calls (rehearsal.take 5) = .ok (rehearsalLog.take 5,
      { messages := [.barrier [[7]]], clients := [⟨2⟩, ⟨1⟩], seen := [⟨2⟩, ⟨1⟩]
        barrier := some ⟨.barrier [[7]], [⟨2⟩], []⟩ }) := by cbv
  have split : events (q₀.history 0 rehearsal) = h₁ ++ mid ++ .delivery ⟨⟨2⟩, .barrier [[7]], 1⟩ ::
      (events (q₀.history 0 rehearsal)).drop 10 := by cbv
  have hentries : entriesIn h₁ = [⟨⟨2⟩, .barrier [[7]], 0⟩] := by cbv
  obtain ⟨-, -, -, -, -, watched⟩ := barrier_before_later run (p := 0) rfl rfl rfl
  refine ⟨split, watched (rehearsal.take 5) (rehearsal.drop 5) _ _ ⟨1⟩ rfl run₁ rfl (Or.inr ?_) mid
    _ _ split (by decide) (by decide)⟩
  show _ ∧ (∃ e ∈ entriesIn h₁, e.place = 0) ∧ ∀ e ∈ entriesIn h₁, e.place ≤ 0
  rw [hentries]
  decide

end Fanout

end RecordFarm
