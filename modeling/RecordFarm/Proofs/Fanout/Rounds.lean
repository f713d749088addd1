import RecordFarm.Proofs.Fanout.History

/-!
# How service ends

A call is served in rounds until nothing can be done any more. `Queue.serve_outcome` says how that
ends: in a queue that is idle, or at an end of the stream with messages behind it. The second is
the only way for service to fail, and `Queue.AtEnd` is the situation in which the one or the other
is decided.

Service moves messages and requests. Who is registered, and who ever was, is decided by the calls
alone (`Queue.call_roster`), also by those that fail.
-/

namespace RecordFarm

namespace Fanout

namespace Queue

inductive Rounds (sent : Nat) : Queue → List Entry → Queue → Prop where
  | none (q : Queue) : Rounds sent q [] q
  | round {q mid after : Queue} {due : List Delivery} {more : List Entry}
      (now : q.round = .served due mid) (later : Rounds sent mid more after) :
      Rounds sent q (q.mark sent due ++ more) after

/-- The oldest message is an end of the stream, and nothing keeps it from being reached. -/
structure AtEnd (q : Queue) (m : Message) (behind : List Message) : Prop where
  running : q.rundown = false
  free : q.barrier = none
  oldest : q.messages = m :: behind
  isEnd : m.isEnd = true
  asking : q.waiting ≠ []

/-- Rounds are made of ticks. -/
theorem Rounds.ticks {sent : Nat} {q after : Queue} {es : List Entry} (h : Rounds sent q es after) :
    Ticks sent q es after := by
  induction h with
  | none q => exact .none q
  | round now _ ih => exact (ticks_of_round sent now).append ih

/-- Where the end is first in the queue, a round begins the rundown or finds something behind the
end. -/
theorem AtEnd.round_eq {q : Queue} {m : Message} {behind : List Message} (h : q.AtEnd m behind) :
    q.round = if behind.isEmpty then .served [] { q with messages := behind, rundown := true }
      else .misplacedEnd { q with messages := behind } := by
  obtain ⟨id, waiting, asking⟩ := List.exists_cons_of_ne_nil h.asking
  unfold round
  simp only [h.running, h.free, h.oldest, asking, h.isEnd, Bool.false_eq_true, if_false, if_true]

/-- A round fails only at an end with messages behind it. -/
theorem atEnd_of_misplaced {q after : Queue} (h : q.round = .misplacedEnd after) :
    ∃ m behind, behind ≠ [] ∧ q.AtEnd m behind ∧ after = { q with messages := behind } := by
  unfold round at h
  repeat' split at h
  all_goals simp only [reduceCtorEq, Round.misplacedEnd.injEq] at h
  next ended _ free _ _ m behind id waiting oldest asking isEnd more =>
    refine ⟨m, behind, by simpa using more, ?_, h.symm⟩
    exact ⟨by simpa using ended, free, oldest, isEnd, by rw [asking]; exact List.cons_ne_nil _ _⟩

/-- A round begins the rundown only at an end that is the last message. -/
theorem atEnd_of_rundown {q after : Queue} {due : List Delivery} (h : q.round = .served due after)
    (running : q.rundown = false) (ended : after.rundown = true) : ∃ m, q.AtEnd m [] := by
  unfold round at h
  rw [if_neg (by rw [running]; exact Bool.false_ne_true)] at h
  repeat' split at h
  all_goals simp only [reduceCtorEq, Round.served.injEq] at h
  all_goals obtain ⟨-, rfl⟩ := h
  -- All other rounds leave the rundown as it is.
  all_goals try (rw [running] at ended; cases ended)
  next free _ _ m behind id waiting oldest asking isEnd alone =>
    obtain rfl : behind = [] := by simpa using alone
    exact ⟨m, running, free, oldest, isEnd, by rw [asking]; exact List.cons_ne_nil _ _⟩

/-! ## Service -/

theorem serve_of_idle {q : Queue} (h : q.round = .idle) (due : List Delivery) :
    q.serve due = (.ok due, q) := by
  rw [serve]
  split <;> simp_all

theorem serve_of_served {q after : Queue} {more : List Delivery} (h : q.round = .served more after)
    (due : List Delivery) : q.serve due = after.serve (due ++ more) := by
  rw [serve]
  split <;> simp_all

theorem serve_of_misplaced {q after : Queue} (h : q.round = .misplacedEnd after)
    (due : List Delivery) :
    q.serve due = (.error (.endNotLast after.messages.length due.length), after) := by
  rw [serve]
  split <;> simp_all

theorem map_delivery_mark (q : Queue) (sent : Nat) (due : List Delivery) :
    (q.mark sent due).map Entry.delivery = due := by
  simp [mark, Entry.delivery, Function.comp_def]

/-- Service goes on where some of its rounds have led. -/
theorem serve_of_rounds {sent : Nat} {q mid : Queue} {es : List Entry} (h : Rounds sent q es mid)
    (due : List Delivery) : q.serve due = mid.serve (due ++ es.map Entry.delivery) := by
  induction h generalizing due with
  | none q => rw [List.map_nil, List.append_nil]
  | round now _ ih =>
    rw [serve_of_served now, ih, List.map_append, map_delivery_mark, List.append_assoc]

/-- **How service ends.** Induction on the service itself. -/
theorem serve_outcome (sent : Nat) (q : Queue) (due : List Delivery) :
    ∃ es last, Rounds sent q es last ∧
      ((last.round = .idle ∧ q.serve due = (.ok (due ++ es.map Entry.delivery), last)) ∨
        ∃ m behind, behind ≠ [] ∧ last.AtEnd m behind ∧
          q.serve due = (.error (.endNotLast behind.length (due.length + es.length)),
            { last with messages := behind })) := by
  fun_induction serve q due with
  | case1 q due idle =>
    refine ⟨[], q, .none q, Or.inl ⟨idle, ?_⟩⟩
    rw [List.map_nil, List.append_nil]
  | case2 q due more mid served ih =>
    obtain ⟨es, last, rounds, ⟨idle, hserve⟩ | ⟨m, behind, hbehind, atEnd, hserve⟩⟩ := ih
    · refine ⟨q.mark sent more ++ es, last, .round served rounds, Or.inl ⟨idle, ?_⟩⟩
      rw [hserve, List.map_append, map_delivery_mark, List.append_assoc]
    · refine ⟨q.mark sent more ++ es, last, .round served rounds,
        Or.inr ⟨m, behind, hbehind, atEnd, ?_⟩⟩
      have hmark : (q.mark sent more).length = more.length := by rw [mark, List.length_map]
      rw [hserve, List.length_append, List.length_append, hmark, Nat.add_assoc]
  | case3 q due after misplaced =>
    obtain ⟨m, behind, hbehind, atEnd, rfl⟩ := atEnd_of_misplaced misplaced
    exact ⟨[], q, .none q, Or.inr ⟨m, behind, hbehind, atEnd, rfl⟩⟩

/-- After an end that is the last message everybody who asks is told so, and nothing is left. -/
theorem serve_of_atEnd {q : Queue} {m : Message} (h : q.AtEnd m []) (due : List Delivery) :
    q.serve due = (.ok (due ++ q.waiting.map fun id => (id, .endOfStream)),
      { q with messages := [], waiting := [], rundown := true }) := by
  obtain ⟨id, waiting, asking⟩ := List.exists_cons_of_ne_nil h.asking
  have reached : q.round = .served [] { q with messages := [], rundown := true } := h.round_eq
  have told : Queue.round { q with messages := [], rundown := true }
      = .served (q.waiting.map fun id => (id, .endOfStream))
        { q with messages := [], waiting := [], rundown := true } := by
    unfold round
    rw [if_pos rfl, asking]
  have idle : Queue.round { q with messages := [], waiting := [], rundown := true } = .idle := rfl
  rw [serve_of_served reached, serve_of_served told, serve_of_idle idle, List.append_nil]

/-- Service begins the rundown only at an end that is the last message. Induction on the service
itself. -/
theorem rounds_of_rundown (sent : Nat) (q : Queue) (due : List Delivery)
    (running : q.rundown = false) (ended : (q.serve due).2.rundown = true) :
    ∃ es mid m, Rounds sent q es mid ∧ mid.AtEnd m [] := by
  fun_induction serve q due with
  | case1 q due idle =>
    rw [running] at ended
    cases ended
  | case2 q due more mid served ih =>
    cases later : mid.rundown with
    | true =>
      obtain ⟨m, atEnd⟩ := atEnd_of_rundown served running later
      exact ⟨[], q, m, .none q, atEnd⟩
    | false =>
      obtain ⟨es, last, m, rounds, atEnd⟩ := ih later ended
      exact ⟨_, last, m, .round served rounds, atEnd⟩
  | case3 q due after misplaced =>
    obtain ⟨m, behind, -, -, rfl⟩ := atEnd_of_misplaced misplaced
    have ended : q.rundown = true := ended
    rw [running] at ended
    cases ended

/-! ## Between calls -/

/-- Why nothing can be done: nobody asks in the rundown, the barrier waits for somebody who has not
asked yet, or there is nothing to give or nobody to give it to. -/
inductive Idle (q : Queue) : Prop where
  | ended (past : q.rundown = true) (asking : q.waiting = [])
  | held {b : Barrier} (running : q.rundown = false) (busy : q.barrier = some b)
      (asking : q.waiting = []) (missing : b.isComplete q.clients = false)
  | free (running : q.rundown = false) (hnone : q.barrier = none)
      (nothing : q.messages = [] ∨ q.waiting = [])

/-- A round does nothing if and only if the queue is idle. -/
theorem round_idle_iff (q : Queue) : q.round = .idle ↔ q.Idle := by
  constructor
  · intro idle
    cases past : q.rundown with
    | true =>
      cases asking : q.waiting with
      | nil => exact .ended past asking
      | cons id waiting => simp [round, past, asking] at idle
    | false =>
      cases busy : q.barrier with
      | some b =>
        cases asking : q.waiting with
        | nil =>
          refine .held past busy asking ?_
          simpa [round, past, busy, asking, Barrier.serve] using idle
        | cons id waiting =>
          simp only [round, past, busy, asking, Bool.false_eq_true, if_false] at idle
          split at idle <;> cases idle
      | none =>
        refine .free past busy ?_
        cases oldest : q.messages with
        | nil => exact Or.inl rfl
        | cons m messages =>
          cases asking : q.waiting with
          | nil => exact Or.inr rfl
          | cons id waiting =>
            -- With a message and a client for it, the round does something in every branch.
            simp only [round, past, busy, oldest, asking, Bool.false_eq_true, if_false] at idle
            repeat' split at idle
            all_goals cases idle
  · intro idle
    unfold round
    cases idle with
    | ended past asking => simp only [past, asking, if_true]
    | held running busy asking missing =>
      simp only [running, busy, asking, Barrier.serve, missing, Bool.false_eq_true, if_false]
    | free running hnone nothing =>
      simp only [running, hnone, Bool.false_eq_true, if_false]
      rcases nothing with nothing | nothing
      · rw [nothing]
      · rw [nothing]
        cases q.messages <;> rfl

/-- A queue stays idle when somebody comes: a barrier that waits for clients waits for one more. -/
theorem round_register {q : Queue} (idle : q.round = .idle) (id : ClientId) :
    (q.register id).round = .idle := by
  rw [round_idle_iff] at idle ⊢
  cases idle with
  | ended past asking => exact .ended past asking
  | free running hnone nothing => exact .free running hnone nothing
  | @held b running busy asking missing =>
    refine .held running busy asking ?_
    rw [Bool.eq_false_iff] at missing ⊢
    intro everyone
    refine missing ?_
    unfold Barrier.isComplete at everyone ⊢
    rw [List.all_eq_true] at everyone ⊢
    exact fun other hother => everyone other (List.mem_insert_of_mem hother)

/-- A queue is idle between calls that do not fail. -/
theorem round_of_call_ok {q after : Queue} {c : Call} {due : List Delivery}
    (idle : q.round = .idle) (h : q.call c = (.ok due, after)) : after.round = .idle := by
  have served : ∀ q' : Queue, q'.flush = (.ok due, after) → after.round = .idle := by
    intro q' h'
    obtain ⟨es, last, -, ⟨rests, hserve⟩ | ⟨m, behind, -, -, hserve⟩⟩ := serve_outcome 0 q' []
    · rw [flush, hserve] at h'
      cases h'
      exact rests
    · rw [flush, hserve] at h'
      cases h'
  cases c with
  | send m =>
    simp only [call, send] at h
    split at h
    · cases h
    · exact served _ h
  | request id => exact served _ h
  | register id =>
    cases h
    exact round_register idle id
  | unregister id => exact served _ h

/-- The queue is idle between calls. -/
theorem round_of_calls {q last : Queue} {cs : List Call} {log : List (List Delivery)}
    (idle : q.round = .idle) (run : q.calls cs = .ok (log, last)) : last.round = .idle := by
  induction cs generalizing q log with
  | nil =>
    cases run
    exact idle
  | cons c cs ih =>
    obtain ⟨due, after, rest, now, later, rfl⟩ := calls_cons_ok run
    exact ih (round_of_call_ok idle now) later

/-! ## Who is there -/

def roster (q : Queue) : List ClientId × List ClientId × Nat := (q.clients, q.seen, q.expected)

theorem round_roster {q after : Queue} {due : List Delivery} (h : q.round = .served due after) :
    after.roster = q.roster := by
  unfold round at h
  repeat' split at h
  all_goals simp only [reduceCtorEq, Round.served.injEq] at h
  all_goals obtain ⟨-, rfl⟩ := h
  all_goals rfl

theorem serve_roster (q : Queue) (due : List Delivery) : (q.serve due).2.roster = q.roster := by
  fun_induction serve q due with
  | case1 q due idle => rfl
  | case2 q due more mid served ih => rw [ih, round_roster served]
  | case3 q due after misplaced =>
    obtain ⟨m, behind, -, -, rfl⟩ := atEnd_of_misplaced misplaced
    rfl

/-- Who is registered after a call is decided when it is taken in. -/
theorem call_roster (q : Queue) (c : Call) : (q.call c).2.roster = (q.accept c).roster := by
  cases c with
  | send m =>
    simp only [call, send]
    split
    · rfl
    · exact serve_roster _ _
  | request id => exact serve_roster _ _
  | register id => rfl
  | unregister id => exact serve_roster _ _

end Queue

end Fanout

end RecordFarm
