import Mathlib.Data.List.Flatten
import Mathlib.Data.List.Sort
import RecordFarm.Proofs.Fanout.Conservation
import RecordFarm.Proofs.Fanout.Requests
import RecordFarm.Proofs.Fanout.Rundown
import RecordFarm.Proofs.Farm.Dealt
import RecordFarm.Proofs.Wire.Unpacking

/-!
# The shares of the clients

A client hands out the messages that it gets in pieces: records one by one, barriers as they are,
and no ends. Pieces are told apart by the place of their message in the order of sending and their
place in the message. The share of a client is the pieces of what was delivered to it. It comes in
the order of sending (`share_sublist`), and everything but barriers is dealt out to the clients,
each piece to exactly one of them (`dealt_shares`).

The queue fails only when something is sent behind an end (`call_of_endLast`), and every request is
either answered or kept (`count_call`).
-/

namespace RecordFarm

namespace Fanout

/-- One of the messages that a message is handed out as. -/
structure Piece where
  /-- The place of the message in the order of sending. -/
  place : Nat
  /-- The place of the piece in the message. -/
  index : Nat
  message : Message
  deriving DecidableEq, Repr

namespace Piece

def isItem (x : Piece) : Bool := x.message.kind != .barrier

/-- One piece comes before the other: its message was sent before, or both are of the same message,
which is no barrier, and it is further ahead in it. -/
def Before (x y : Piece) : Prop :=
  x.place < y.place ∨ x.place = y.place ∧ x.index < y.index ∧ x.isItem = true ∧ y.isItem = true

def ofMessage (m : Message) (place : Nat) : List Piece :=
  m.unpacked.zipIdx.map fun x => ⟨place, x.2, x.1⟩

theorem map_message_ofMessage (m : Message) (place : Nat) :
    (ofMessage m place).map message = m.unpacked := by
  unfold ofMessage
  rw [List.map_map]
  exact List.zipIdx_map_fst 0 _

theorem ofMessage_isEnd {m : Message} (h : m.isEnd = true) (place : Nat) :
    ofMessage m place = [] := by
  unfold ofMessage
  rw [Message.unpacked_of_isEnd h]
  rfl

theorem place_of_mem {m : Message} {place : Nat} {x : Piece} (h : x ∈ ofMessage m place) :
    x.place = place := by
  obtain ⟨y, -, rfl⟩ := List.mem_map.1 h
  rfl

/-- The pieces of a barrier are barriers, and no others are. -/
theorem isItem_of_mem {m : Message} {place : Nat} {x : Piece} (h : x ∈ ofMessage m place) :
    x.isItem = (m.kind != .barrier) := by
  have hmem : x.message ∈ m.unpacked := by
    rw [← map_message_ofMessage m place]
    exact List.mem_map_of_mem h
  have hkind : x.message.kind = m.kind := by
    unfold Message.unpacked at hmem
    split at hmem
    · next process =>
      obtain ⟨record, -, hrecord⟩ := List.mem_map.1 hmem
      rw [← hrecord, process]
      rfl
    · cases hmem
    · cases hmem
    · cases hmem
    · rw [List.mem_singleton.1 hmem]
  unfold isItem
  rw [hkind]

/-- The pieces of a message come in order. -/
theorem ofMessage_ordered (m : Message) (place : Nat) : (ofMessage m place).Pairwise Before := by
  by_cases barrier : m.kind = .barrier
  · have single : m.unpacked = [m] := by
      unfold Message.unpacked
      rw [barrier]
    unfold ofMessage
    rw [single]
    exact List.pairwise_singleton ..
  · have indices : (ofMessage m place).Pairwise fun x y => x.index < y.index := by
      have rising : (m.unpacked.zipIdx.map Prod.snd).Pairwise (· < ·) := by
        rw [List.zipIdx_map_snd]
        exact List.pairwise_lt_range'
      unfold ofMessage
      rw [List.pairwise_map] at rising ⊢
      exact rising
    refine indices.imp_of_mem fun {x y} hx hy h => Or.inr ⟨?_, h, ?_, ?_⟩
    · rw [place_of_mem hx, place_of_mem hy]
    · rw [isItem_of_mem hx]
      exact bne_iff_ne.2 barrier
    · rw [isItem_of_mem hy]
      exact bne_iff_ne.2 barrier

end Piece

def pieces (sent : List Message) : List Piece :=
  sent.zipIdx.flatMap fun x => Piece.ofMessage x.1 x.2

/-- Messages stand in the order of their places. -/
theorem zipIdx_ordered (sent : List Message) : sent.zipIdx.Pairwise fun x y => x.2 < y.2 := by
  have places : (sent.zipIdx.map Prod.snd).Pairwise (· < ·) := by
    rw [List.zipIdx_map_snd]
    exact List.pairwise_lt_range'
  rwa [List.pairwise_map] at places

/-- No piece comes twice. -/
theorem pieces_ordered (sent : List Message) : (pieces sent).Pairwise Piece.Before := by
  unfold pieces
  rw [List.pairwise_flatMap]
  refine ⟨fun x _ => Piece.ofMessage_ordered x.1 x.2, (zipIdx_ordered sent).imp fun {x y} h => ?_⟩
  intro a ha b hb
  refine Or.inl ?_
  rw [Piece.place_of_mem ha, Piece.place_of_mem hb]
  exact h

def Entry.pieces (e : Entry) : List Piece := Piece.ofMessage e.message e.place

def entriesTo (id : ClientId) (log : List Entry) : List Entry := log.filter fun e => e.client == id

/-- The pieces that were delivered to a client. -/
def share (id : ClientId) (log : List Entry) : List Piece := (entriesTo id log).flatMap Entry.pieces

/-- A share is, piece by piece, what was delivered to its client. -/
theorem map_message_share (id : ClientId) (log : List Entry) :
    (share id log).map Piece.message
      = (entriesTo id log).flatMap fun e => e.message.unpacked := by
  unfold share
  rw [List.map_flatMap]
  exact List.flatMap_congr fun e _ => Piece.map_message_ofMessage e.message e.place

/-! ## In the order of sending -/

namespace Ledger

variable {isBarrier : Message → Bool} {taken : List Message} {h : List Event} {q : Queue}

/-- What one client gets, the ends aside, it gets from rising places. -/
theorem entriesTo_ordered (led : Ledger isBarrier taken h q) (id : ClientId) :
    ((entriesTo id (entriesIn h)).filter fun e => !e.message.isEnd).Pairwise
      fun e e' => e.place < e'.place := by
  have sub : ((entriesTo id (entriesIn h)).filter fun e => !e.message.isEnd).Sublist
      (entriesIn h) := List.filter_sublist.trans List.filter_sublist
  have both := (led.ordered.sublist sub).and (led.once.sublist sub)
  refine both.imp_of_mem fun {e e'} he he' pair => ?_
  obtain ⟨got, notEnd⟩ := List.mem_filter.1 he'
  have hclient : e.client = id := eq_of_beq (List.mem_filter.1 (List.mem_filter.1 he).1).2
  have hclient' : e'.client = id := eq_of_beq (List.mem_filter.1 got).2
  -- At the same place it would be the same message, which nobody gets twice.
  have apart : e.place ≠ e'.place := fun same =>
    pair.2 same (by simpa using notEnd) (hclient.trans hclient'.symm)
  have := pair.1
  omega

/-- **A share comes in the order of sending.** -/
theorem share_sublist (led : Ledger isBarrier taken h q) (id : ClientId) :
    (share id (entriesIn h)).Sublist (pieces taken) := by
  set own := (entriesTo id (entriesIn h)).filter fun e => !e.message.isEnd with hown
  -- The ends bring nothing, and without them the places rise.
  have noEnds : share id (entriesIn h)
      = (own.map fun e => (e.message, e.place)).flatMap fun x => Piece.ofMessage x.1 x.2 := by
    rw [List.flatMap_map, hown]
    unfold share
    induction entriesTo id (entriesIn h) with
    | nil => rfl
    | cons e rest ih =>
      cases hend : e.message.isEnd with
      | true =>
        rw [List.flatMap_cons, List.filter_cons_of_neg (by simp [hend]), ← ih]
        unfold Entry.pieces
        rw [Piece.ofMessage_isEnd hend]
        rfl
      | false =>
        rw [List.flatMap_cons, List.filter_cons_of_pos (by simp [hend]), List.flatMap_cons, ← ih]
        rfl
  have rising : (own.map fun e => (e.message, e.place)).Pairwise fun x y => x.2 < y.2 := by
    rw [List.pairwise_map]
    exact led.entriesTo_ordered id
  have within : (own.map fun e => (e.message, e.place)) ⊆ taken.zipIdx := by
    intro x hx
    obtain ⟨e, he, rfl⟩ := List.mem_map.1 hx
    obtain ⟨got, notEnd⟩ := List.mem_filter.1 he
    obtain ⟨m, hm, hend, same, -⟩ := led.contents e (List.mem_filter.1 got).1
    rw [List.mem_zipIdx_iff_getElem?]
    have hplain : m.isEnd = false := by
      rw [hend]
      simpa using notEnd
    rw [same hplain] at hm
    exact hm
  have distinct : (own.map fun e => (e.message, e.place)).Nodup :=
    rising.imp fun h heq => absurd (congrArg Prod.snd heq) (Nat.ne_of_lt h)
  have antisymm : Std.Antisymm fun x y : Message × Nat => x.2 < y.2 :=
    ⟨fun x y hxy hyx => absurd hxy (Nat.lt_asymm hyx)⟩
  rw [noEnds]
  exact (List.sublist_of_subperm_of_pairwise (List.subperm_of_subset distinct within) rising
    (zipIdx_ordered taken)).flatMap _

end Ledger

/-! ## To one client each -/

/-- Of what was delivered, the items bring the pieces that are items. -/
theorem filter_pieces {isBarrier : Message → Bool}
    (classifier : ∀ m, isBarrier m = (m.kind == .barrier)) (log : List Entry) :
    (log.flatMap Entry.pieces).filter Piece.isItem
      = (log.filter fun e => isItem isBarrier e.message).flatMap Entry.pieces := by
  induction log with
  | nil => rfl
  | cons e log ih =>
    rw [List.flatMap_cons, List.filter_append, ih]
    have all : ∀ x ∈ e.pieces, x.isItem = !isBarrier e.message := by
      intro x hx
      rw [Piece.isItem_of_mem hx, classifier]
      rfl
    by_cases item : isItem isBarrier e.message = true
    · have plain : (!isBarrier e.message) = true := (Bool.and_eq_true _ _ ▸ item).1
      rw [List.filter_cons_of_pos (by exact item), List.flatMap_cons,
        List.filter_eq_self.2 fun x hx => (all x hx).trans plain]
    · rw [List.filter_cons_of_neg (by exact item)]
      cases hend : e.message.isEnd with
      | true =>
        unfold Entry.pieces
        rw [Piece.ofMessage_isEnd hend]
        rfl
      | false =>
        have barrier : (!isBarrier e.message) = false := by
          rw [isItem, hend, Bool.not_false, Bool.and_true, Bool.not_eq_true] at item
          exact item
        rw [List.filter_eq_nil_iff.2 fun x hx => by
          rw [all x hx, barrier]; exact Bool.false_ne_true]
        rfl

namespace Ledger

variable {isBarrier : Message → Bool} {taken : List Message} {h : List Event} {q : Queue}

/-- The departures bring the pieces of what was taken. -/
theorem pieces_departures (led : Ledger isBarrier taken h q) :
    (departures isBarrier (entriesIn h)).flatMap Entry.pieces = pieces taken := by
  have upTo : ∀ left : List Message,
      (departures isBarrier (entriesIn h)).map Entry.message = left →
      (departures isBarrier (entriesIn h)).map Entry.place = List.range left.length →
      (departures isBarrier (entriesIn h)).flatMap Entry.pieces = pieces left := by
    intro left messages places
    have both : (departures isBarrier (entriesIn h)).map (fun e => (e.message, e.place))
        = left.zipIdx := by
      rw [List.zipIdx_eq_zip_range', ← List.range_eq_range', ← places, ← messages, List.zip_map']
    unfold pieces
    rw [← both, List.flatMap_map]
    rfl
  cases ended : q.rundown with
  | false =>
    refine upTo taken ?_ ?_
    · rw [led.left, if_neg (by rw [ended]; exact Bool.false_ne_true)]
    · rw [led.places, if_neg (by rw [ended]; exact Bool.false_ne_true)]
  | true =>
    obtain ⟨-, -, before, m, rfl, isEnd⟩ := led.ended ended
    have hleft := led.left
    have hplaces := led.places
    rw [if_pos ended, List.dropLast_concat] at hleft
    rw [if_pos ended, List.length_append, List.length_singleton, Nat.add_sub_cancel] at hplaces
    rw [upTo before hleft hplaces]
    -- The end that was taken last brings nothing.
    unfold pieces
    rw [List.zipIdx_append, List.flatMap_append, List.zipIdx_singleton, List.flatMap_singleton,
      Piece.ofMessage_isEnd isEnd, List.append_nil]

/-- **Everything but barriers is dealt out to the clients**: each piece is in exactly one of their
shares. -/
theorem dealt_shares (led : Ledger isBarrier taken h q)
    (classifier : ∀ m, isBarrier m = (m.kind == .barrier)) {n : Nat} {ids : Nat → ClientId}
    (distinct : ∀ i < n, ∀ k < n, ids i = ids k → i = k)
    (known : ∀ e ∈ entriesIn h, ∃ i < n, e.client = ids i) :
    Dealt n (fun i => (share (ids i) (entriesIn h)).filter Piece.isItem)
      ((pieces taken).filter Piece.isItem) := by
  have meant : ∀ e ∈ (entriesIn h).filter fun e => isItem isBarrier e.message,
      ∃ i < n, ∀ k < n, (e.client == ids k) = decide (k = i) := by
    intro e he
    obtain ⟨i, hi, hclient⟩ := known e (List.mem_filter.1 he).1
    refine ⟨i, hi, fun k hk => ?_⟩
    rw [hclient, Bool.eq_iff_iff, beq_iff_eq, decide_eq_true_eq]
    exact ⟨fun heq => (distinct i hi k hk heq).symm, fun heq => by rw [heq]⟩
  have nothing : Dealt n (fun _ => ([] : List Piece)) [] := .nothing fun _ _ => rfl
  have dealt := nothing.dealAll Entry.pieces (fun i e => e.client == ids i) _ meant
  rw [List.nil_append, ← filter_departures, ← filter_pieces classifier, led.pieces_departures]
    at dealt
  refine dealt.congr fun i _ => ?_
  rw [List.nil_append, filter_departures, share, filter_pieces classifier, entriesTo,
    List.filter_comm]

/-- An end is delivered only in the rundown. -/
theorem rundown_of_end (led : Ledger isBarrier taken h q) {e : Entry} (he : e ∈ entriesIn h)
    (isEnd : e.message.isEnd = true) : q.rundown = true := by
  by_contra running
  obtain ⟨m, hm, same, -⟩ := led.contents e he
  have hplace := led.place_lt he
  have notEnd := led.isEnd_of_getElem? (k := e.place) (by rw [if_neg running]; exact hplace) hm
  rw [same, isEnd] at notEnd
  cases notEnd

/-- Whatever is delivered was sent, or is an end in the rundown. -/
theorem sent_of_mem (led : Ledger isBarrier taken h q) {e : Entry} (he : e ∈ entriesIn h) :
    e.message.isEnd = true ∧ q.rundown = true ∨
      e.message.isEnd = false ∧ e.message ∈ sentIn h := by
  cases hend : e.message.isEnd with
  | true => exact Or.inl ⟨rfl, led.rundown_of_end he hend⟩
  | false =>
    obtain ⟨m, hm, same | ⟨isEnd, plain⟩⟩ := led.delivered he
    · exact Or.inr ⟨rfl, same ▸ List.mem_of_getElem? hm⟩
    · rw [plain] at hend
      cases hend

end Ledger

/-! ## What a call does to requests -/

/-- Every request that a tick finds is answered by it, or kept. -/
theorem count_tick {q after : Queue} {due : Option Delivery} (t : q.Tick due after)
    (id : ClientId) :
    q.requests.count id = (due.toList.map Prod.fst).count id + after.requests.count id := by
  cases t with
  | first running free oldest asking notEnd =>
    unfold Queue.requests
    rw [asking, free]
    split <;> simp [List.count_cons, Nat.add_comm]
  | copy running busy asking unserved =>
    unfold Queue.requests
    rw [asking, busy]
    simp only [Option.map_some, Option.getD_some, List.count_append, Option.toList_some,
      List.map_cons, List.map_nil, List.count_cons, List.count_nil]
    omega
  | «defer» running busy asking served =>
    unfold Queue.requests
    rw [asking, busy]
    simp [List.count_cons]
  | complete running busy idle everyone =>
    unfold Queue.requests
    rw [idle, busy]
    simp
  | finish running free last asking isEnd => simp [Queue.requests]
  | farewell ended asking =>
    unfold Queue.requests
    rw [asking]
    simp only [List.count_append, Option.toList_some, List.map_cons, List.map_nil, List.count_cons,
      List.count_nil]
    omega

/-- Ticks answer requests: those of a client that are gone are as many as its deliveries. -/
theorem count_ticks {sent : Nat} {q after : Queue} {es : List Entry}
    (ticks : Queue.Ticks sent q es after) (id : ClientId) :
    q.requests.count id = (es.map Entry.client).count id + after.requests.count id := by
  induction ticks with
  | none q => simp
  | @tick q mid after due more now _ ih =>
    have hclients : (q.mark sent due.toList).map Entry.client = due.toList.map Prod.fst := by
      rw [Queue.mark, List.map_map]
      rfl
    rw [count_tick now id, ih, List.map_append, List.count_append, hclients, Nat.add_assoc]

/-- A call other than a request brings no requests. -/
theorem count_accept (q : Queue) (c : Call) (id : ClientId) :
    (q.accept c).requests.count id
      ≤ q.requests.count id + if c = .request id then 1 else 0 := by
  cases c with
  | send m => exact Nat.le_add_right ..
  | register other => exact Nat.le_add_right ..
  | request other =>
    have hrequests : (q.accept (.request other)).requests = q.requests ++ [other] :=
      (List.append_assoc ..).symm
    rw [hrequests, List.count_append, List.count_singleton]
    simp
  | unregister other =>
    have sub : (q.accept (.unregister other)).requests.Sublist q.requests := by
      unfold Queue.requests Queue.accept
      refine List.Sublist.append ?_ List.filter_sublist
      cases q.barrier with
      | none => exact .slnil
      | some b => exact List.filter_sublist
    exact Nat.le_add_right_of_le (sub.count_le id)

/-- **Every request is answered or kept.** -/
theorem count_call {q after : Queue} {c : Call} {due : List Delivery}
    (h : q.call c = (.ok due, after)) (id : ClientId) :
    (q.accept c).requests.count id = (due.map Prod.fst).count id + after.requests.count id := by
  obtain ⟨-, hdue, ticks⟩ := Queue.call_ok 0 h
  rw [count_ticks ticks id, hdue, List.map_map]
  rfl

/-! ## Calls that do not fail -/

def EndLast (sent : List Message) : Prop :=
  ∀ before m later, sent = before ++ m :: later → m.isEnd = true → later = []

namespace Queue

/-- One more call. -/
theorem calls_snoc {q mid after : Queue} {cs : List Call} {log : List (List Delivery)} {c : Call}
    {due : List Delivery} (run : q.calls cs = .ok (log, mid))
    (now : mid.call c = (.ok due, after)) :
    q.calls (cs ++ [c]) = .ok (log ++ [due], after) := by
  induction cs generalizing q log with
  | nil =>
    cases run
    simp [calls, now, Except.map]
  | cons c' cs ih =>
    obtain ⟨due', mid', rest, first, later, rfl⟩ := calls_cons_ok run
    simp [calls, first, ih later, Except.map]

/-- **A queue fails only when something is sent behind an end.** -/
theorem call_of_endLast {expected : Nat} {isBarrier : Message → Bool} {cs : List Call}
    {log : List (List Delivery)} {q : Queue} {c : Call}
    (run : (Queue.new expected isBarrier).calls cs = .ok (log, q))
    (last : EndLast ((cs ++ [c]).filterMap Call.sent?)) :
    ∃ due after, q.call c = (.ok due, after) := by
  obtain ⟨taken, led⟩ := ledger_of_calls run
  have hsent : cs.filterMap Call.sent? = taken ++ q.messages := by rw [← led.sent, sentIn_history]
  have idle : q.round = .idle := round_of_calls rfl run
  cases ended : q.rundown with
  | true =>
    have past : q.Over := over_of_calls run ended
    cases c with
    | send m =>
      obtain ⟨hmessages, -, before, m', rfl, isEnd⟩ := led.ended ended
      have nothing := last before m' [m] (by simp [hsent, hmessages, Call.sent?]) isEnd
      cases nothing
    | request id => exact ⟨_, _, past.request id⟩
    | register id => exact ⟨_, _, rfl⟩
    | unregister id => exact ⟨_, _, past.unregister id⟩
  | false =>
    have served : q.call c = (q.accept c).serve [] := call_of_rounds idle ended (@Rounds.none 0 _)
    have allowed : ∀ m, c = .send m → q.rundown = false := fun _ _ => ended
    obtain ⟨es, mid, rounds, ⟨-, hserve⟩ | ⟨m, behind, hbehind, atEnd, -⟩⟩ :=
      serve_outcome (sentIn (events ((Queue.new expected isBarrier).history 0 cs)
        ++ [.call c])).length (q.accept c) []
    · exact ⟨_, _, served.trans hserve⟩
    · -- Service would have met an end with something behind it.
      obtain ⟨taken', led'⟩ := ledger_of_rounds ⟨taken, led.call c allowed⟩ rounds
      have whole : (cs ++ [c]).filterMap Call.sent? = taken' ++ m :: behind := by
        rw [← atEnd.oldest, ← led'.sent]
        simp [sentIn_history, Call.filterMap_sent_cons]
      exact absurd (last taken' m behind whole atEnd.isEnd) hbehind

end Queue

end Fanout

end RecordFarm
