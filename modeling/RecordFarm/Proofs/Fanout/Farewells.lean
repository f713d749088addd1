import RecordFarm.Proofs.Fanout.Conservation
import RecordFarm.Proofs.Fanout.Rundown

/-!
# Everything first, and then the ends

A queue that runs down was sent the end of the stream last. What it has delivered by then and since
falls into two parts: everything that was sent before, in order, and then ends only
(`farewell_of_calls`). The places of the ledger tell the parts apart: they never fall, and only what
has the last place is an end.
-/

namespace RecordFarm

namespace Fanout

/-- These items are what was sent before the end of the stream, and the rest are ends. -/
structure Farewell (earlier : List Message) (items farewells : List Delivery) : Prop where
  plain : ∀ m ∈ earlier, m.isEnd = false
  /-- Everything was delivered, one after the other. -/
  whole : earlier.Sublist (items.map Prod.snd)
  /-- Nothing else was. -/
  items : ∀ x ∈ items, x.2 ∈ earlier
  ends : ∀ x ∈ farewells, x.2 = .endOfStream

/-- If what satisfies `p` comes first, a row falls into two parts. -/
theorem eq_filter_append_filter {α : Type} {p : α → Bool} {row : List α}
    (h : row.Pairwise fun x y => p y = true → p x = true) :
    row = row.filter p ++ row.filter fun x => !p x := by
  induction h with
  | nil => rfl
  | @cons x row first _ ih =>
    cases hx : p x with
    | true =>
      rw [List.filter_cons_of_pos hx, List.filter_cons_of_neg (by simp [hx]), List.cons_append,
        ← ih]
    | false =>
      have all : ∀ y ∈ x :: row, p y = false := by
        intro y hy
        rcases List.mem_cons.1 hy with rfl | hy
        · exact hx
        · rw [Bool.eq_false_iff]
          intro hp
          exact absurd (hx.symm.trans (first y hy hp)) Bool.false_ne_true
      rw [List.filter_eq_nil_iff.2 fun y hy => by rw [all y hy]; exact Bool.false_ne_true,
        List.nil_append, List.filter_eq_self.2 fun y hy => by rw [all y hy]; rfl]

namespace Ledger

variable {isBarrier : Message → Bool} {before : List Message} {m : Message} {h : List Event}
  {q : Queue}

/-- In the rundown an end is what was delivered of the last place. -/
theorem isEnd_iff_last (led : Ledger isBarrier (before ++ [m]) h q) (ended : q.rundown = true)
    (isEnd : m.isEnd = true) {e : Entry} (he : e ∈ entriesIn h) :
    e.message.isEnd = true ↔ e.place = before.length := by
  obtain ⟨m', hm', same, -⟩ := led.contents e he
  have hplace := led.place_lt he
  rw [List.length_append, List.length_singleton] at hplace
  constructor
  · intro hend
    by_contra other
    have hk : e.place
        < if q.rundown then (before ++ [m]).length - 1 else (before ++ [m]).length := by
      rw [if_pos ended, List.length_append, List.length_singleton]
      omega
    have notEnd := led.isEnd_of_getElem? hk hm'
    rw [same, hend] at notEnd
    cases notEnd
  · intro last
    rw [last, List.getElem?_concat_length] at hm'
    cases hm'
    exact same.symm.trans isEnd

/-- What was delivered falls into the items and the ends. -/
theorem entries_eq (led : Ledger isBarrier (before ++ [m]) h q) (ended : q.rundown = true)
    (isEnd : m.isEnd = true) :
    entriesIn h = (entriesIn h).filter (fun e => !e.message.isEnd)
      ++ (entriesIn h).filter fun e => e.message.isEnd := by
  have first : (entriesIn h).Pairwise fun e e' =>
      (!e'.message.isEnd) = true → (!e.message.isEnd) = true := by
    refine led.ordered.imp_of_mem fun {e e'} he he' places plain => ?_
    simp only [Bool.not_eq_true', Bool.eq_false_iff, ne_eq, led.isEnd_iff_last ended isEnd he,
      led.isEnd_iff_last ended isEnd he'] at plain ⊢
    have := led.place_lt he'
    rw [List.length_append, List.length_singleton] at this
    omega
  have split := eq_filter_append_filter first
  simp only [Bool.not_not] at split
  exact split

/-- In the rundown a ledger says how deliveries and farewells are parted. -/
theorem farewell (led : Ledger isBarrier (before ++ [m]) h q) (ended : q.rundown = true)
    (isEnd : m.isEnd = true) :
    Farewell before (((entriesIn h).filter fun e => !e.message.isEnd).map Entry.delivery)
      (((entriesIn h).filter fun e => e.message.isEnd).map Entry.delivery) where
  plain := by
    intro m' hm'
    obtain ⟨k, hk⟩ := List.mem_iff_getElem?.1 hm'
    have hlength := (List.getElem?_eq_some_iff.1 hk).1
    refine led.isEnd_of_getElem? (k := k) ?_ (by rw [List.getElem?_append_left hlength]; exact hk)
    rw [if_pos ended, List.length_append, List.length_singleton]
    exact hlength
  whole := by
    -- What has left the queue is what was sent, and no end is among it.
    have left := led.left
    rw [if_pos ended, List.dropLast_concat] at left
    have kept : (departures isBarrier (entriesIn h)).filter (fun e => !e.message.isEnd)
        = departures isBarrier (entriesIn h) :=
      List.filter_eq_self.2 fun e he => by rw [isEnd_of_mem_departures he]; rfl
    rw [List.map_map, ← left, ← kept]
    exact ((departures_sublist isBarrier _).filter _).map Entry.message
  items := by
    intro x hx
    obtain ⟨e, he, rfl⟩ := List.mem_map.1 hx
    obtain ⟨he, plain⟩ := List.mem_filter.1 he
    have notEnd : e.message.isEnd = false := by simpa using plain
    obtain ⟨m', hm', hend, same, -⟩ := led.contents e he
    have hplace := led.place_lt he
    have other := mt (led.isEnd_iff_last ended isEnd he).2
      (by rw [notEnd]; exact Bool.false_ne_true)
    rw [List.length_append, List.length_singleton] at hplace
    rw [List.getElem?_append_left (by omega), same (hend.trans notEnd)] at hm'
    exact List.mem_of_getElem? hm'
  ends := by
    intro x hx
    obtain ⟨e, he, rfl⟩ := List.mem_map.1 hx
    obtain ⟨he, hend⟩ := List.mem_filter.1 he
    obtain ⟨m', -, same, -, plain⟩ := led.contents e he
    exact plain (same.trans hend)

end Ledger

/-- **When a queue runs down, everything was delivered before the ends.** -/
theorem farewell_of_calls {expected : Nat} {isBarrier : Message → Bool} {cs : List Call}
    {log : List (List Delivery)} {q : Queue}
    (run : (Queue.new expected isBarrier).calls cs = .ok (log, q)) (ended : q.rundown = true) :
    ∃ earlier m items farewells, cs.filterMap Call.sent? = earlier ++ [m] ∧ m.isEnd = true ∧
      log.flatten = items ++ farewells ∧ Farewell earlier items farewells := by
  obtain ⟨taken, led⟩ := ledger_of_calls run
  obtain ⟨hmessages, -, earlier, m, rfl, isEnd⟩ := led.ended ended
  refine ⟨earlier, m, _, _, ?_, isEnd, ?_, led.farewell ended isEnd⟩
  · rw [← sentIn_history, led.sent, hmessages, List.append_nil]
  · rw [← entriesIn_history 0 run, ← List.map_append, ← led.entries_eq ended isEnd]

end Fanout

end RecordFarm
