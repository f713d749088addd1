import Mathlib.Data.Finset.Card
import Mathlib.Data.List.Dedup
import RecordFarm.Proofs.Fanout.Ledger
import RecordFarm.Proofs.Fanout.Rounds

/-!
# The end of the stream

The rundown begins when the end of the stream is reached and is the last message; everything sent
before it has been delivered by then (`Ledger.at_end`). From then on the queue does the same for
ever, whatever is asked of it and whether or not the answer is an error (`RunDown`). What that is
depends on the calls only, and so `isDrained` can be read off them: who came and went is told by
`mem_clients_after`, who ever came by `mem_seen_after`.

An end with messages behind it is an error where it is reached, and no message that was sent after
an end is ever delivered (`place_le_of_end`).
-/

namespace RecordFarm

namespace Fanout

/-! ## Ends in the ledger -/

theorem isEnd_of_mem_departures {isBarrier : Message → Bool} {log : List Entry} {e : Entry}
    (he : e ∈ departures isBarrier log) : e.message.isEnd = false := by
  induction log using List.reverseRecOn with
  | nil => cases he
  | append_singleton log last ih =>
    rw [departures_snoc] at he
    split at he
    · exact ih he
    · next counts =>
      rcases List.mem_append.1 he with hold | hnew
      · exact ih hold
      · rw [List.mem_singleton.1 hnew]
        simp only [Bool.or_eq_true, not_or, Bool.not_eq_true] at counts
        exact counts.1

namespace Ledger

variable {isBarrier : Message → Bool} {taken : List Message} {h : List Event} {q : Queue}

/-- No end has left the queue, but for the one that began the rundown. -/
theorem isEnd_of_getElem? (led : Ledger isBarrier taken h q) {k : Nat} {m : Message}
    (hk : k < if q.rundown then taken.length - 1 else taken.length) (hm : taken[k]? = some m) :
    m.isEnd = false := by
  have hmem : m ∈ (departures isBarrier (entriesIn h)).map Entry.message := by
    rw [led.left]
    split at hk
    · next ended =>
      rw [if_pos ended]
      exact List.mem_of_getElem? (by rw [List.getElem?_dropLast, if_pos hk]; exact hm)
    · next running =>
      rw [if_neg running]
      exact List.mem_of_getElem? hm
  obtain ⟨e, he, rfl⟩ := List.mem_map.1 hmem
  exact isEnd_of_mem_departures he

/-- Nothing is delivered from a place after an end. -/
theorem place_le_of_end (led : Ledger isBarrier taken h q) {e : Entry} (he : e ∈ entriesIn h)
    {k : Nat} {m : Message} (hm : (sentIn h)[k]? = some m) (isEnd : m.isEnd = true) :
    e.place ≤ k := by
  have hplace := led.place_lt he
  by_contra hlater
  have hk : k < taken.length := by omega
  rw [led.sent, List.getElem?_append_left hk] at hm
  have notEnd := led.isEnd_of_getElem? (k := k) (by split <;> omega) hm
  rw [isEnd] at notEnd
  cases notEnd

/-- When the end is about to be reached, everything before it has been delivered. -/
theorem at_end (led : Ledger isBarrier taken h q) (running : q.rundown = false) :
    ∀ k m, taken[k]? = some m →
      m.isEnd = false ∧ ∃ e ∈ entriesIn h, e.place = k ∧ e.message = m := by
  intro k m hm
  have hk : k < if q.rundown then taken.length - 1 else taken.length := by
    rw [if_neg (by rw [running]; exact Bool.false_ne_true)]
    exact (List.getElem?_eq_some_iff.1 hm).1
  have notEnd := led.isEnd_of_getElem? hk hm
  obtain ⟨e, he, hplace⟩ := led.delivered_at hk
  obtain ⟨m', hm', -, same, -⟩ := led.contents e he
  rw [hplace, hm] at hm'
  cases hm'
  exact ⟨notEnd, e, he, hplace, (same notEnd).symm⟩

end Ledger

/-- The ledger stays balanced in the middle of a call. -/
theorem ledger_of_rounds {isBarrier : Message → Bool} {h : List Event} {q mid : Queue}
    {es : List Entry} (balanced : ∃ taken, Ledger isBarrier taken h q)
    (rounds : Queue.Rounds (sentIn h).length q es mid) :
    ∃ taken, Ledger isBarrier taken (h ++ es.map .delivery) mid :=
  rounds.ticks.keep (P := fun h q => ∃ taken, Ledger isBarrier taken h q)
    (fun _ _ _ _ ⟨_, led⟩ t => led.tick t) h rfl balanced

/-! ## Who comes and goes -/

def Call.registers? : Call → Option ClientId
  | register id => some id
  | _ => none

namespace Queue

/-- The queue after some calls, whether or not they fail. -/
def after (q : Queue) (cs : List Call) : Queue := cs.foldl (fun q c => (q.call c).2) q

theorem after_snoc (q : Queue) (cs : List Call) (c : Call) :
    q.after (cs ++ [c]) = ((q.after cs).call c).2 :=
  List.foldl_concat ..

theorem after_append (q : Queue) (cs cs' : List Call) :
    q.after (cs ++ cs') = (q.after cs).after cs' :=
  List.foldl_append ..

theorem after_of_calls {q last : Queue} {cs : List Call} {log : List (List Delivery)}
    (run : q.calls cs = .ok (log, last)) : q.after cs = last := by
  induction cs generalizing q log with
  | nil =>
    cases run
    rfl
  | cons c cs ih =>
    obtain ⟨due, mid, rest, now, later, rfl⟩ := calls_cons_ok run
    show ((q.call c).2).after cs = last
    rw [now]
    exact ih later

/-- What a call does to the roster. -/
theorem call_clients (q : Queue) (c : Call) : (q.call c).2.clients = (q.accept c).clients :=
  congrArg Prod.fst (q.call_roster c)

/-- A call is noted when it is taken in; serving changes nothing about who has been seen. -/
theorem call_seen (q : Queue) (c : Call) : (q.call c).2.seen = (q.accept c).seen :=
  congrArg (fun roster => roster.2.1) (q.call_roster c)

theorem call_expected (q : Queue) (c : Call) : (q.call c).2.expected = q.expected := by
  have h := congrArg (fun roster => roster.2.2) (q.call_roster c)
  refine Eq.trans h ?_
  cases c <;> rfl

/-- **Who is registered**: who registered and has not unregistered since. Induction on the calls
from the last one on. -/
theorem mem_clients_after {expected : Nat} {isBarrier : Message → Bool} {cs : List Call}
    {id : ClientId} :
    id ∈ ((new expected isBarrier).after cs).clients ↔
      ∃ before later, cs = before ++ .register id :: later ∧ .unregister id ∉ later := by
  induction cs using List.reverseRecOn with
  | nil =>
    have hnobody : id ∉ ((new expected isBarrier).after []).clients := List.not_mem_nil
    simp [hnobody]
  | append_singleton cs c ih =>
    have hstep : id ∈ ((new expected isBarrier).after (cs ++ [c])).clients ↔
        c = .register id ∨
          id ∈ ((new expected isBarrier).after cs).clients ∧ c ≠ .unregister id := by
      rw [after_snoc, call_clients]
      cases c with
      | send m => simp [accept]
      | request other => simp [accept]
      | register other => simp [accept, register, @eq_comm _ id other]
      | unregister other => simp [accept, @eq_comm _ id other]
    rw [hstep, ih]
    constructor
    · rintro (rfl | ⟨⟨before, later, rfl, stays⟩, notLeaving⟩)
      · exact ⟨cs, [], rfl, List.not_mem_nil⟩
      · refine ⟨before, later ++ [c], by rw [List.append_assoc]; rfl, ?_⟩
        rw [List.mem_append, List.mem_singleton]
        rintro (leaves | rfl)
        · exact stays leaves
        · exact notLeaving rfl
    · rintro ⟨before, later, heq, stays⟩
      rcases List.eq_nil_or_concat later with rfl | ⟨later', last, rfl⟩
      · have hlast := (List.append_inj' heq rfl).2
        exact Or.inl (List.singleton_inj.1 hlast)
      · rw [List.concat_eq_append] at heq stays
        rw [← List.cons_append, ← List.append_assoc] at heq
        obtain ⟨hcs, hlast⟩ := List.append_inj' heq rfl
        obtain rfl := List.singleton_inj.1 hlast
        refine Or.inr ⟨⟨before, later', hcs, fun hmem => stays ?_⟩, ?_⟩
        · exact List.mem_append_left _ hmem
        · rintro rfl
          exact stays (List.mem_append_right _ (List.mem_singleton_self _))

/-- Who ever registered, each once. -/
theorem mem_seen_after (expected : Nat) (isBarrier : Message → Bool) (cs : List Call) :
    (∀ id, id ∈ ((new expected isBarrier).after cs).seen ↔
        id ∈ cs.filterMap Call.registers?) ∧
      ((new expected isBarrier).after cs).seen.Nodup := by
  induction cs using List.reverseRecOn with
  | nil => exact ⟨fun id => Iff.rfl, List.nodup_nil⟩
  | append_singleton cs c ih =>
    obtain ⟨hmem, hnodup⟩ := ih
    rw [after_snoc, call_seen, List.filterMap_append]
    have unchanged := And.intro hmem hnodup
    rw [← List.append_nil (cs.filterMap _)] at unchanged
    cases c with
    | send m => exact unchanged
    | request other => exact unchanged
    | unregister other => exact unchanged
    | register other =>
      refine ⟨fun id => ?_, hnodup.insert⟩
      show id ∈ List.insert other _ ↔ _
      rw [List.mem_insert_iff, hmem, List.mem_append, or_comm]
      simp [Call.registers?]

theorem expected_after (q : Queue) (cs : List Call) : (q.after cs).expected = q.expected := by
  induction cs using List.reverseRecOn with
  | nil => rfl
  | append_singleton cs c ih => rw [after_snoc, call_expected, ih]

/-! ## The rundown -/

structure Over (q : Queue) : Prop where
  rundown : q.rundown = true
  messages : q.messages = []
  waiting : q.waiting = []
  free : q.barrier = none

/-- After the end whoever asks is told so, and the queue stays as it is. -/
theorem Over.request {q : Queue} (past : q.Over) (id : ClientId) :
    q.request id = (.ok [(id, .endOfStream)], q) := by
  have asked : Queue.round { q with waiting := q.waiting ++ [id] }
      = .served [(id, .endOfStream)] q := by
    have same : { q with waiting := [] } = q := by rw [← past.waiting]
    unfold round
    rw [if_pos past.rundown, past.waiting]
    show Round.served [(id, .endOfStream)] { q with waiting := [] } = _
    rw [same]
  have idle : q.round = .idle := (round_idle_iff q).2 (.ended past.rundown past.waiting)
  unfold Queue.request flush
  rw [serve_of_served asked, serve_of_idle idle, List.nil_append]

/-- After the end nothing is taken in any more. -/
theorem Over.send {q : Queue} (past : q.Over) (m : Message) :
    q.send m = (.error (.afterEnd m.kind), q) := by
  unfold Queue.send
  rw [if_pos past.rundown]

/-- After the end unregistering only strikes the client off. -/
theorem Over.unregister {q : Queue} (past : q.Over) (id : ClientId) :
    q.unregister id = (.ok [], q.accept (.unregister id)) := by
  have hwaiting : (q.accept (.unregister id)).waiting = [] := by
    show q.waiting.filter _ = []
    rw [past.waiting, List.filter_nil]
  have idle : (q.accept (.unregister id)).round = .idle :=
    (round_idle_iff _).2 (.ended past.rundown hwaiting)
  exact serve_of_idle idle []

/-- **The rundown is for ever.** Nothing that is asked of the queue ends it. -/
theorem Over.call {q : Queue} (past : q.Over) (c : Call) : (q.call c).2.Over := by
  cases c with
  | send m =>
    show (q.send m).2.Over
    rw [past.send]
    exact past
  | request id =>
    show (q.request id).2.Over
    rw [past.request]
    exact past
  | register id => exact ⟨past.rundown, past.messages, past.waiting, past.free⟩
  | unregister id =>
    show (q.unregister id).2.Over
    rw [past.unregister]
    refine ⟨past.rundown, past.messages, ?_, ?_⟩
    · show q.waiting.filter _ = []
      rw [past.waiting, List.filter_nil]
    · show q.barrier.map _ = none
      rw [past.free, Option.map_none]

/-- What is over stays over, whatever is asked. -/
theorem Over.after {q : Queue} (past : q.Over) (cs : List Call) : (q.after cs).Over := by
  induction cs using List.reverseRecOn with
  | nil => exact past
  | append_singleton cs c ih =>
    rw [after_snoc]
    exact ih.call c

/-- Between calls the rundown has answered everybody. -/
theorem over_of_calls {expected : Nat} {isBarrier : Message → Bool} {cs : List Call}
    {log : List (List Delivery)} {q : Queue}
    (run : (new expected isBarrier).calls cs = .ok (log, q)) (ended : q.rundown = true) :
    q.Over := by
  obtain ⟨taken, led⟩ := ledger_of_calls run
  obtain ⟨hmessages, hbarrier, -⟩ := led.ended ended
  have idle : q.round = .idle := round_of_calls rfl run
  refine ⟨ended, hmessages, ?_, hbarrier⟩
  cases (round_idle_iff q).1 idle with
  | ended _ asking => exact asking
  | held running _ _ _ =>
    rw [ended] at running
    cases running
  | free running _ _ =>
    rw [ended] at running
    cases running

/-- What a queue is and does in the rundown, when these are the calls that have been made. -/
structure RunDown (expected : Nat) (made : List Call) (q : Queue) : Prop where
  rundown : q.rundown = true
  nobodyWaits : q.pendingRequests = 0
  request : ∀ id, q.request id = (.ok [(id, .endOfStream)], q)
  unregister : ∀ id, (q.unregister id).1 = .ok []
  send : ∀ m, q.send m = (.error (.afterEnd m.kind), q)
  /-- Everybody who registered has unregistered since, and enough clients came. -/
  drained : q.isDrained = true ↔
    (∀ before id later, made = before ++ .register id :: later → .unregister id ∈ later) ∧
      expected ≤ (made.filterMap Call.registers?).toFinset.card

/-- Whether the queue is drained is told by the calls. -/
theorem isDrained_after {expected : Nat} {isBarrier : Message → Bool} {made : List Call}
    (ended : ((new expected isBarrier).after made).rundown = true) :
    ((new expected isBarrier).after made).isDrained = true ↔
      (∀ before id later, made = before ++ .register id :: later → .unregister id ∈ later) ∧
        expected ≤ (made.filterMap Call.registers?).toFinset.card := by
  obtain ⟨hseen, hnodup⟩ := mem_seen_after expected isBarrier made
  have hcount : ((new expected isBarrier).after made).seen.length
      = (made.filterMap Call.registers?).toFinset.card := by
    rw [← List.toFinset_card_of_nodup hnodup]
    congr 1
    ext id
    rw [List.mem_toFinset, List.mem_toFinset]
    exact hseen id
  have hexpected : ((new expected isBarrier).after made).expected = expected :=
    expected_after _ made
  have hnobody : ((new expected isBarrier).after made).clients.isEmpty = true ↔
      ∀ before id later, made = before ++ .register id :: later → .unregister id ∈ later := by
    rw [List.isEmpty_iff, List.eq_nil_iff_forall_not_mem]
    simp only [mem_clients_after, not_exists, not_and, not_not]
    exact ⟨fun hall before id later => hall id before later,
      fun hall id before later => hall before id later⟩
  unfold isDrained
  rw [ended, Bool.true_and, Bool.and_eq_true, hnobody, decide_eq_true_eq, hcount, hexpected]

/-- A queue that is over is run down in every respect. -/
theorem Over.runDown {expected : Nat} {isBarrier : Message → Bool} {made : List Call}
    (past : ((new expected isBarrier).after made).Over) :
    RunDown expected made ((new expected isBarrier).after made) where
  rundown := past.rundown
  nobodyWaits := by
    unfold pendingRequests
    rw [past.waiting, past.free]
    rfl
  request := past.request
  unregister := fun id => by rw [past.unregister]
  send := past.send
  drained := isDrained_after past.rundown

/-! ## How it begins -/

/-- In the next call `c` the end of the stream is reached with nothing behind it: everything that
was sent before it has been delivered, and all who ask now are told of it. -/
structure EndsWith (h : List Event) (q : Queue) (c : Call) (es : List Entry) (mid : Queue)
    (earlier : List Message) (m : Message) : Prop where
  rounds : Rounds (sentIn (h ++ [.call c])).length (q.accept c) es mid
  atEnd : mid.AtEnd m []
  sent : sentIn (h ++ [.call c]) = earlier ++ [m]
  delivered : ∀ k m', earlier[k]? = some m' →
    m'.isEnd = false ∧ ∃ e ∈ entriesIn h ++ es, e.place = k ∧ e.message = m'
  result : q.call c = (.ok (es.map Entry.delivery ++ mid.waiting.map fun id => (id, .endOfStream)),
    { mid with messages := [], waiting := [], rundown := true })

/-- What a call comes to is what service after some of its rounds comes to. Registering serves
nobody, but then there is nothing to do. -/
theorem call_of_rounds {sent : Nat} {q mid : Queue} {c : Call} {es : List Entry}
    (idle : q.round = .idle) (running : q.rundown = false)
    (rounds : Rounds sent (q.accept c) es mid) : q.call c = mid.serve (es.map Entry.delivery) := by
  have served := serve_of_rounds rounds []
  rw [List.nil_append] at served
  cases c with
  | send m =>
    simp only [call, Queue.send]
    rw [if_neg (by rw [running]; exact Bool.false_ne_true)]
    exact served
  | request id => exact served
  | register id =>
    have rests := serve_of_idle (round_register idle id) []
    exact rests.symm.trans served
  | unregister id => exact served

/-- The rundown does not begin when a call is taken in. -/
theorem accept_rundown (q : Queue) (c : Call) : (q.accept c).rundown = q.rundown := by
  cases c <;> rfl

end Queue

open Queue in
/-- The rundown begins only so. -/
theorem endsWith_of_rundown {isBarrier : Message → Bool} {h : List Event} {q : Queue} {c : Call}
    (balanced : ∃ taken, Ledger isBarrier taken h q) (idle : q.round = .idle)
    (running : q.rundown = false) (ended : (q.call c).2.rundown = true) :
    ∃ es mid earlier m, q.EndsWith h c es mid earlier m := by
  obtain ⟨taken, led⟩ := balanced
  have accepted := led.call c (fun _ _ => running)
  have started : (q.accept c).rundown = false := by rw [accept_rundown]; exact running
  have served : q.call c = (q.accept c).serve [] := call_of_rounds idle running (@Rounds.none 0 _)
  rw [served] at ended
  obtain ⟨es, mid, m, rounds, atEnd⟩ :=
    rounds_of_rundown (sentIn (h ++ [.call c])).length _ [] started ended
  obtain ⟨taken', led'⟩ := ledger_of_rounds ⟨taken, accepted⟩ rounds
  have hsent := led'.sent
  have hentries : entriesIn (h ++ [.call c] ++ es.map .delivery) = entriesIn h ++ es := by simp
  refine ⟨es, mid, taken', m, rounds, atEnd, ?_, ?_, ?_⟩
  · rw [sentIn_append, sentIn_deliveries, List.append_nil, atEnd.oldest] at hsent
    exact hsent
  · rw [← hentries]
    exact led'.at_end atEnd.running
  · rw [call_of_rounds idle running rounds, serve_of_atEnd atEnd]

open Queue in
/-- **The end of the stream.** In a history in which no call failed nothing is delivered that was
sent after an end. While the queue does not run down, the next call

* begins the rundown only by reaching an end that is the last message and after everything else;
* fails exactly if it reaches an end with messages behind it, and then begins no rundown;
* begins no rundown if anything was sent after an end.

Once the queue runs down, it does so for ever, whatever is called. -/
theorem rundown_at_end {expected : Nat} {isBarrier : Message → Bool} {cs : List Call}
    {log : List (List Delivery)} {q : Queue}
    (run : (Queue.new expected isBarrier).calls cs = .ok (log, q)) :
    let h := events ((Queue.new expected isBarrier).history 0 cs)
    (entriesIn h).map Entry.delivery = log.flatten ∧
    sentIn h = cs.filterMap Call.sent? ∧
    (∀ e ∈ entriesIn h, ∀ k m, (sentIn h)[k]? = some m → m.isEnd = true → e.place ≤ k) ∧
    (q.rundown = false → ∀ c,
      ((q.call c).2.rundown = true → ∃ es mid earlier m, q.EndsWith h c es mid earlier m) ∧
      (∀ es mid m behind, behind ≠ [] → mid.AtEnd m behind →
        Rounds (sentIn (h ++ [.call c])).length (q.accept c) es mid →
        q.call c
          = (.error (.endNotLast behind.length es.length), { mid with messages := behind })) ∧
      (∀ cause, (q.call c).1 = .error cause → (q.call c).2.rundown = false ∧
        ∃ es mid m behind, behind ≠ [] ∧ mid.AtEnd m behind ∧
          Rounds (sentIn (h ++ [.call c])).length (q.accept c) es mid ∧
          cause = .endNotLast behind.length es.length) ∧
      ∀ k m, (sentIn (h ++ [.call c]))[k]? = some m → m.isEnd = true →
        k + 1 < (sentIn (h ++ [.call c])).length → (q.call c).2.rundown = false) ∧
    (q.rundown = true → ∀ more, RunDown expected (cs ++ more) (q.after more)) := by
  intro h
  have balanced := ledger_of_calls run
  have idle : q.round = .idle := round_of_calls rfl run
  have begins := fun c => endsWith_of_rundown (c := c) balanced idle
  refine ⟨entriesIn_history 0 run, sentIn_history .., ?_, ?_, ?_⟩
  · obtain ⟨taken, led⟩ := balanced
    exact fun e he k m => led.place_le_of_end he
  · intro running c
    refine ⟨begins c running, ?_, ?_, ?_⟩
    · intro es mid m behind hbehind atEnd rounds
      have fails : mid.round = .misplacedEnd { mid with messages := behind } := by
        rw [atEnd.round_eq, if_neg (by simpa using hbehind)]
      rw [call_of_rounds idle running rounds, serve_of_misplaced fails, List.length_map]
    · intro cause hcause
      have served : q.call c = (q.accept c).serve [] :=
        call_of_rounds idle running (@Rounds.none 0 _)
      obtain ⟨es, mid, rounds, ⟨-, hserve⟩ | ⟨m, behind, hbehind, atEnd, hserve⟩⟩ :=
        serve_outcome (sentIn (h ++ [.call c])).length (q.accept c) []
      · rw [served, hserve] at hcause
        cases hcause
      · rw [served, hserve] at hcause ⊢
        refine ⟨atEnd.running, es, mid, m, behind, hbehind, atEnd, rounds, ?_⟩
        rw [List.length_nil, Nat.zero_add] at hcause
        exact (Except.error.inj hcause).symm
    · intro k m hm isEnd hk
      rw [Bool.eq_false_iff]
      intro ended
      -- All messages but the last one have been delivered, and an end is not.
      obtain ⟨es, mid, earlier, last, ends⟩ := begins c running ended
      rw [ends.sent, List.length_append, List.length_singleton] at hk
      rw [ends.sent, List.getElem?_append_left (by omega)] at hm
      have notEnd := (ends.delivered k m hm).1
      rw [isEnd] at notEnd
      cases notEnd
  · intro ended more
    have hafter : q.after more = (Queue.new expected isBarrier).after (cs ++ more) := by
      rw [after_append, after_of_calls run]
    have past := (over_of_calls run ended).after more
    rw [hafter] at past ⊢
    exact past.runDown

/-- In the rehearsal the rundown begins with the last request but one and is not over when a client
has left; a message behind the end makes the next request fail. -/
theorem rundown_at_end_rehearsal :
    let q₀ := Queue.new 0 fun m => m.kind == .barrier
    let late : List Call := [.send (.barrier []), .unregister ⟨1⟩]
    (q₀.calls rehearsal = .ok (rehearsalLog, rehearsed) ∧
      Queue.RunDown 0 (rehearsal ++ late) (rehearsed.after late) ∧
      (rehearsed.after late).isDrained = false) ∧
    (∃ log q, q₀.calls (rehearsal.take 9) = .ok (log, q) ∧ q.rundown = false ∧
      ∃ es mid earlier m, q.EndsWith (events (q₀.history 0 (rehearsal.take 9))) (.request ⟨1⟩)
        es mid earlier m) ∧
    ∃ log q, q₀.calls [.send .endOfStream, .send (.barrier [])] = .ok (log, q) ∧
      (q.call (.request ⟨1⟩)).1 = .error (.endNotLast 1 0) ∧
      (q.call (.request ⟨1⟩)).2.rundown = false := by
  intro q₀ late
  have run : q₀.calls rehearsal = .ok (rehearsalLog, rehearsed) := by cbv
  obtain ⟨-, -, -, -, ended⟩ := rundown_at_end run
  refine ⟨⟨run, ended rfl late, by cbv⟩, ?_, ?_⟩
  · have run₁ : q₀.calls (rehearsal.take 9) = .ok (rehearsalLog.take 9,
        { clients := [⟨2⟩, ⟨1⟩], seen := [⟨2⟩, ⟨1⟩], messages := [.endOfStream] }) := by cbv
    obtain ⟨-, -, -, running, -⟩ := rundown_at_end run₁
    exact ⟨_, _, run₁, rfl, (running rfl (.request ⟨1⟩)).1 (by cbv)⟩
  · have run₂ : q₀.calls [.send .endOfStream, .send (.barrier [])]
        = .ok ([[], []], { messages := [.endOfStream, .barrier []] }) := by cbv
    obtain ⟨-, -, -, running, -⟩ := rundown_at_end run₂
    obtain ⟨-, fails, -, behindEnd⟩ := running rfl (.request ⟨1⟩)
    have failed := fails [] _ .endOfStream [.barrier []] (List.cons_ne_nil _ _)
      ⟨rfl, rfl, rfl, rfl, List.cons_ne_nil _ _⟩ (.none _)
    exact ⟨_, _, run₂, congrArg Prod.fst failed, behindEnd 0 .endOfStream (by cbv) rfl (by cbv)⟩

end Fanout

end RecordFarm
