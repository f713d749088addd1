import RecordFarm.Proofs.Fanout.Ledger

/-!
# Messages are conserved

Whatever calls are made of a fan-out queue, what left it, what ended it and what is still queued
are together the messages sent, in the order of sending. Messages are told apart by their place
in that order: equal messages are not confused.
-/

namespace RecordFarm

namespace Fanout

/-- A message that one client gets: neither a barrier nor an end. -/
def isItem (isBarrier : Message → Bool) (m : Message) : Bool := !isBarrier m && !m.isEnd

/-- All deliveries of items are departures. -/
theorem filter_departures (isBarrier : Message → Bool) (log : List Entry) :
    (departures isBarrier log).filter (fun e => isItem isBarrier e.message)
      = log.filter fun e => isItem isBarrier e.message := by
  induction log using List.reverseRecOn with
  | nil => rfl
  | append_singleton log e ih =>
    rw [departures_snoc, List.filter_append]
    split
    · next dropped =>
      -- Only ends and copies of barriers are dropped.
      have hnot : isItem isBarrier e.message = false := by
        unfold isItem
        cases hend : e.message.isEnd <;> simp_all
      simp [ih, hnot]
    · rw [List.filter_append, ih]

/-- **Conservation and global order.** In a history in which no call failed: take the deliveries,
without the copies of a barrier but its first and without the ends of the rundown. Their
messages, then the end that was sent if the rundown has used it up, then the messages still
queued, are the messages sent. The deliveries taken are of the places 0, 1, 2, … in this order, no
item is delivered at two of them, and every delivery is of the message at its place. -/
theorem departures_append_queued {expected : Nat} {isBarrier : Message → Bool} {cs : List Call}
    {log : List (List Delivery)} {q : Queue}
    (run : (Queue.new expected isBarrier).calls cs = .ok (log, q)) :
    let entries := entriesIn (events ((Queue.new expected isBarrier).history 0 cs))
    let sent := cs.filterMap Call.sent?
    entries.map Entry.delivery = log.flatten ∧
      (q.rundown = false →
        (departures isBarrier entries).map Entry.message ++ q.messages = sent) ∧
      (q.rundown = true → ∃ m, m.isEnd = true ∧
        (departures isBarrier entries).map Entry.message ++ [m] ++ q.messages = sent) ∧
      (departures isBarrier entries).map Entry.place
        = List.range (departures isBarrier entries).length ∧
      ((entries.filter fun e => isItem isBarrier e.message).map Entry.place).Nodup ∧
      ∀ e ∈ entries, ∃ m, sent[e.place]? = some m ∧
        (m = e.message ∨ m.isEnd = true ∧ e.message = .endOfStream) := by
  intro entries sent
  obtain ⟨taken, led⟩ := ledger_of_calls run
  have hsent : sent = taken ++ q.messages := by
    rw [← led.sent, sentIn_history]
  have hleft := led.left
  have hplaces := led.places
  have hlength : (departures isBarrier entries).length
      = if q.rundown then taken.length - 1 else taken.length := by
    have := congrArg List.length hplaces
    simpa using this
  have hrange : (departures isBarrier entries).map Entry.place
      = List.range (departures isBarrier entries).length := by rw [hlength]; exact hplaces
  refine ⟨entriesIn_history 0 run, ?_, ?_, hrange, ?_, ?_⟩
  · intro running
    rw [if_neg (by simp [running])] at hleft
    rw [hleft, hsent]
  · intro ended
    obtain ⟨-, -, before, m, htaken, hend⟩ := led.ended ended
    refine ⟨m, hend, ?_⟩
    rw [if_pos ended, htaken, List.dropLast_concat] at hleft
    rw [hleft, hsent, htaken]
  · -- Items are departures, and departures have different places.
    have hdistinct : ((departures isBarrier entries).map Entry.place).Nodup := by
      rw [hrange]
      exact List.nodup_range
    rw [← filter_departures]
    exact hdistinct.sublist (List.filter_sublist.map _)
  · intro e he
    rw [show sent = sentIn _ from (sentIn_history ..).symm]
    exact led.delivered he

/-- In the rehearsal the two equal barriers left in the order of sending, and the rundown has used
the end up. -/
theorem departures_append_queued_rehearsal :
    (Queue.new 0 fun m => m.kind == .barrier).calls rehearsal = .ok (rehearsalLog, rehearsed) ∧
      ∃ m, m.isEnd = true ∧
        (departures (fun m => m.kind == .barrier) (entriesIn
            (events ((Queue.new 0 fun m => m.kind == .barrier).history 0 rehearsal)))).map
          Entry.message ++ [m] ++ [] = rehearsal.filterMap Call.sent? := by
  have run : (Queue.new 0 fun m => m.kind == .barrier).calls rehearsal
      = .ok (rehearsalLog, rehearsed) := by cbv
  obtain ⟨-, -, ended, -⟩ := departures_append_queued run
  exact ⟨run, ended rfl⟩

end Fanout

end RecordFarm
