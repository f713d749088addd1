import Mathlib.Data.List.Induction
import Mathlib.Data.List.Permutation
import RecordFarm.Proofs.Fanout.History

/-!
# The ledger of a fan-out queue

What the history of a queue and its state have to do with each other, as one invariant
(`Ledger`): which messages have been taken from the queue, by which deliveries they left it, at
which places, and who has the barrier in progress. It holds of every history
(`ledger_of_calls`), because taking a call in and every tick keep it (`Ledger.call`,
`Ledger.tick`).
-/

namespace RecordFarm

namespace Fanout

/-- The deliveries by which messages leave the queue: no end of the stream, and of the copies of a
barrier only the first. -/
def departures (isBarrier : Message → Bool) (log : List Entry) : List Entry :=
  log.foldl
    (fun kept e =>
      if e.message.isEnd || (isBarrier e.message && kept.any fun first => first.place == e.place)
      then kept
      else kept ++ [e])
    []

/-- A delivery departs unless it is an end, or a copy of a barrier that has departed. -/
theorem departures_snoc (isBarrier : Message → Bool) (log : List Entry) (e : Entry) :
    departures isBarrier (log ++ [e]) =
      if e.message.isEnd ||
          (isBarrier e.message &&
            (departures isBarrier log).any fun first => first.place == e.place)
      then departures isBarrier log
      else departures isBarrier log ++ [e] := by
  rw [departures, List.foldl_append]
  rfl

/-- What departs was delivered, in the same order. -/
theorem departures_sublist (isBarrier : Message → Bool) (log : List Entry) :
    (departures isBarrier log).Sublist log := by
  induction log using List.reverseRecOn with
  | nil => exact .slnil
  | append_singleton log e ih =>
    rw [departures_snoc]
    split
    · exact ih.trans (List.sublist_append_left ..)
    · exact ih.append (.refl _)

/-- What the history of a queue says about its state, when the messages `taken` are those that are
no longer queued. -/
structure Ledger (isBarrier : Message → Bool) (taken : List Message) (h : List Event) (q : Queue) :
    Prop where
  classifier : q.isBarrier = isBarrier
  sent : sentIn h = taken ++ q.messages
  /-- The end that began the rundown was the last message sent. -/
  ended : q.rundown = true →
    q.messages = [] ∧ q.barrier = none ∧ ∃ before m, taken = before ++ [m] ∧ m.isEnd = true
  /-- The barrier in progress is the message that was taken last. -/
  current : ∀ b, q.barrier = some b →
    isBarrier b.message = true ∧ b.message.isEnd = false ∧ ∃ before, taken = before ++ [b.message]
  /-- Who has the barrier in progress. -/
  served : ∀ b, q.barrier = some b → ∀ id, id ∈ b.served ↔
    ∃ e ∈ entriesIn h, e.client = id ∧ e.place + 1 = taken.length
  left : (departures isBarrier (entriesIn h)).map Entry.message =
    if q.rundown then taken.dropLast else taken
  places : (departures isBarrier (entriesIn h)).map Entry.place =
    List.range (if q.rundown then taken.length - 1 else taken.length)
  /-- A delivery is of the message at its place; the end is delivered as a plain end. -/
  contents : ∀ e ∈ entriesIn h, ∃ m, taken[e.place]? = some m ∧ m.isEnd = e.message.isEnd ∧
    (m.isEnd = false → m = e.message) ∧ (m.isEnd = true → e.message = .endOfStream)
  ordered : (entriesIn h).Pairwise fun e e' => e.place ≤ e'.place
  /-- Nobody gets a message twice. -/
  once : (entriesIn h).Pairwise fun e e' =>
    e.place = e'.place → e'.message.isEnd = false → e.client ≠ e'.client

namespace Ledger

variable {isBarrier : Message → Bool} {taken : List Message} {h : List Event} {q : Queue}

/-- Deliveries are only of messages that were taken. -/
theorem place_lt (led : Ledger isBarrier taken h q) {e : Entry} (he : e ∈ entriesIn h) :
    e.place < taken.length := by
  obtain ⟨m, hm, -⟩ := led.contents e he
  exact (List.getElem?_eq_some_iff.1 hm).1

/-- No barrier is in progress in the rundown. -/
theorem running (led : Ledger isBarrier taken h q) {b : Barrier} (hb : q.barrier = some b) :
    q.rundown = false := by
  cases hr : q.rundown with
  | false => rfl
  | true =>
    rw [(led.ended hr).2.1] at hb
    cases hb

/-- A delivery is of the message that was sent at its place. -/
theorem delivered (led : Ledger isBarrier taken h q) {e : Entry} (he : e ∈ entriesIn h) :
    ∃ m, (sentIn h)[e.place]? = some m ∧
      (m = e.message ∨ m.isEnd = true ∧ e.message = .endOfStream) := by
  obtain ⟨m, hm, -, hsame, hplain⟩ := led.contents e he
  refine ⟨m, ?_, ?_⟩
  · rw [led.sent, List.getElem?_append_left (led.place_lt he)]
    exact hm
  · cases hend : m.isEnd with
    | false => exact Or.inl (hsame hend)
    | true => exact Or.inr ⟨rfl, hplain hend⟩

/-- Something was delivered at every place that a message has left the queue from, other than the
end. -/
theorem delivered_at (led : Ledger isBarrier taken h q) {k : Nat}
    (hk : k < if q.rundown then taken.length - 1 else taken.length) :
    ∃ e ∈ entriesIn h, e.place = k := by
  have hmem : k ∈ (departures isBarrier (entriesIn h)).map Entry.place := by
    rw [led.places, List.mem_range]
    exact hk
  obtain ⟨e, he, hplace⟩ := List.mem_map.1 hmem
  exact ⟨e, (departures_sublist isBarrier _).subset he, hplace⟩

/-- The place at which a queue stands is the number of messages taken, but for the one in progress.
-/
theorem place_eq (led : Ledger isBarrier taken h q) :
    q.place (sentIn h).length =
      taken.length - if q.barrier.isSome || q.rundown then 1 else 0 := by
  unfold Queue.place
  rw [led.sent, List.length_append, Nat.add_sub_cancel]

theorem start (expected : Nat) (isBarrier : Message → Bool) :
    Ledger isBarrier [] [] (.new expected isBarrier) where
  classifier := rfl
  sent := rfl
  ended := by intro hr; cases hr
  current := by intro b hb; cases hb
  served := by intro b hb; cases hb
  left := rfl
  places := rfl
  contents := by intro e he; cases he
  ordered := .nil
  once := .nil

/-- Without a new delivery the ledger stays balanced, when new messages only join the queue and the
barrier in progress stays the same or is retired. -/
theorem carry (led : Ledger isBarrier taken h q) (new : List Message) {h' : List Event}
    {after : Queue} (hentries : entriesIn h' = entriesIn h) (hsent : sentIn h' = sentIn h ++ new)
    (hclassifier : after.isBarrier = q.isBarrier) (hmessages : after.messages = q.messages ++ new)
    (hrundown : after.rundown = q.rundown) (hnew : q.rundown = true → new = [])
    (hbarrier : ∀ b, after.barrier = some b →
      ∃ b', q.barrier = some b' ∧ b.message = b'.message ∧ b.served = b'.served) :
    Ledger isBarrier taken h' after where
  classifier := by rw [hclassifier]; exact led.classifier
  sent := by rw [hsent, hmessages, led.sent, List.append_assoc]
  ended := by
    intro hr
    rw [hrundown] at hr
    obtain ⟨hm, hb, hend⟩ := led.ended hr
    refine ⟨by rw [hmessages, hm, hnew hr]; rfl, ?_, hend⟩
    cases hb' : after.barrier with
    | none => rfl
    | some b =>
      obtain ⟨b', hsome, -⟩ := hbarrier b hb'
      rw [hb] at hsome
      cases hsome
  current := by
    intro b hb
    obtain ⟨b', hsome, hmsg, -⟩ := hbarrier b hb
    rw [hmsg]
    exact led.current b' hsome
  served := by
    intro b hb
    obtain ⟨b', hsome, -, hserved⟩ := hbarrier b hb
    rw [hserved, hentries]
    exact led.served b' hsome
  left := by rw [hentries, hrundown]; exact led.left
  places := by rw [hentries, hrundown]; exact led.places
  contents := by rw [hentries]; exact led.contents
  ordered := by rw [hentries]; exact led.ordered
  once := by rw [hentries]; exact led.once

/-- Taking a call in keeps the ledger. -/
theorem call (led : Ledger isBarrier taken h q) (c : Call)
    (allowed : ∀ m, c = .send m → q.rundown = false) :
    Ledger isBarrier taken (h ++ [.call c]) (q.accept c) := by
  refine led.carry c.sent?.toList (by simp) (by simp) ?_ ?_ ?_ ?_ ?_
  · cases c <;> rfl
  · cases c <;> simp [Queue.accept, Call.sent?, Queue.register]
  · cases c <;> rfl
  · intro ended
    cases c with
    | send m => rw [allowed m rfl] at ended; cases ended
    | request id => rfl
    | register id => rfl
    | unregister id => rfl
  · -- Only unregistering touches the barrier, and it only forgets requests that were put off.
    intro b hb
    cases c with
    | send m => exact ⟨b, hb, rfl, rfl⟩
    | request id => exact ⟨b, hb, rfl, rfl⟩
    | register id => exact ⟨b, hb, rfl, rfl⟩
    | unregister id =>
      obtain ⟨b', hb', rfl⟩ := Option.map_eq_some_iff.1 hb
      exact ⟨b', hb', rfl, rfl⟩

/-- Nothing has left the queue at the place of the next message yet, so its delivery counts. -/
theorem departures_first (led : Ledger isBarrier taken h q) (running : q.rundown = false)
    {m : Message} (notEnd : m.isEnd = false) (id : ClientId) :
    departures isBarrier (entriesIn h ++ [⟨id, m, taken.length⟩])
      = departures isBarrier (entriesIn h) ++ [⟨id, m, taken.length⟩] := by
  have hplaces := led.places
  simp only [running, Bool.false_eq_true, if_false] at hplaces
  rw [departures_snoc, if_neg]
  have hfresh : ∀ e ∈ departures isBarrier (entriesIn h), e.place ≠ taken.length := by
    intro e he hplace
    have hmem : e.place ∈ List.range taken.length := by
      rw [← hplaces]
      exact List.mem_map_of_mem he
    rw [hplace] at hmem
    simp at hmem
  simpa [notEnd] using fun _ => hfresh

/-- The oldest message goes to the oldest request. -/
theorem first (led : Ledger isBarrier taken h q) {m : Message} {messages : List Message}
    {id : ClientId} {waiting : List ClientId} (running : q.rundown = false)
    (oldest : q.messages = m :: messages) (notEnd : m.isEnd = false) :
    Ledger isBarrier (taken ++ [m]) (h ++ [.delivery ⟨id, m, taken.length⟩])
      { q with
        messages, waiting, barrier := if q.isBarrier m then some ⟨m, [id], []⟩ else none } := by
  have hentries : entriesIn (h ++ [.delivery ⟨id, m, taken.length⟩])
      = entriesIn h ++ [⟨id, m, taken.length⟩] := by simp [entriesIn]
  have hsent : sentIn (h ++ [.delivery ⟨id, m, taken.length⟩]) = sentIn h := by simp [sentIn]
  have hleft := led.left
  have hplaces := led.places
  simp only [running, Bool.false_eq_true, if_false] at hleft hplaces
  have hdepart := led.departures_first running notEnd id
  constructor
  case classifier => exact led.classifier
  case sent => rw [hsent, led.sent, oldest]; simp
  case ended => intro hr; rw [running] at hr; cases hr
  case current =>
    intro b hb
    by_cases hm : q.isBarrier m
    · obtain rfl : b = ⟨m, [id], []⟩ := by simpa [hm] using hb.symm
      exact ⟨by rw [← led.classifier]; exact hm, notEnd, taken, rfl⟩
    · simp [hm] at hb
  case served =>
    intro b hb other
    by_cases hm : q.isBarrier m
    · obtain rfl : b = ⟨m, [id], []⟩ := by simpa [hm] using hb.symm
      rw [hentries]
      constructor
      · intro hother
        obtain rfl : other = id := by simpa using hother
        exact ⟨_, List.mem_append_right _ (List.mem_singleton_self _), rfl, by simp⟩
      · rintro ⟨e, he, rfl, hplace⟩
        rcases List.mem_append.1 he with hold | hnew
        · have := led.place_lt hold
          simp only [List.length_append, List.length_singleton] at hplace
          omega
        · rw [List.mem_singleton.1 hnew]
          exact List.mem_singleton_self _
    · simp [hm] at hb
  case left => rw [hentries, hdepart]; simp [running, hleft]
  case places =>
    rw [hentries, hdepart]
    simp [running, hplaces, List.range_succ]
  case contents =>
    intro e he
    rw [hentries] at he
    rcases List.mem_append.1 he with hold | hnew
    · obtain ⟨m', hm', rest⟩ := led.contents e hold
      exact ⟨m', by rw [List.getElem?_append_left (led.place_lt hold)]; exact hm', rest⟩
    · rw [List.mem_singleton.1 hnew]
      exact ⟨m, by simp, rfl, fun _ => rfl, fun hend => by rw [notEnd] at hend; cases hend⟩
  case ordered =>
    rw [hentries, List.pairwise_append]
    refine ⟨led.ordered, List.pairwise_singleton .., ?_⟩
    intro e he e' he'
    rw [List.mem_singleton.1 he']
    exact Nat.le_of_lt (led.place_lt he)
  case once =>
    -- Nobody else got anything at the new place.
    rw [hentries, List.pairwise_append]
    refine ⟨led.once, List.pairwise_singleton .., ?_⟩
    intro e he e' he' hplace
    rw [List.mem_singleton.1 he'] at hplace
    exact absurd hplace (Nat.ne_of_lt (led.place_lt he))

/-- A message that a client is given although it was taken from the queue before: the barrier in
progress, if the client does not have it yet, or a plain end in the rundown. -/
inductive Further (q : Queue) (id : ClientId) : Message → Prop where
  | copy {b : Barrier} (busy : q.barrier = some b) (unserved : id ∉ b.served) :
      Further q id b.message
  | farewell (ended : q.rundown = true) : Further q id .endOfStream

/-- What is given once more was taken last, the end up to what it says. -/
theorem taken_last (led : Ledger isBarrier taken h q) {id : ClientId} {m : Message}
    (further : Further q id m) :
    ∃ before m', taken = before ++ [m'] ∧ m'.isEnd = m.isEnd ∧ (m'.isEnd = false → m' = m) ∧
      (m'.isEnd = true → m = .endOfStream) := by
  cases further with
  | @copy b busy unserved =>
    obtain ⟨-, hend, before, htaken⟩ := led.current b busy
    exact ⟨before, b.message, htaken, rfl, fun _ => rfl, fun h => by rw [hend] at h; cases h⟩
  | farewell ended =>
    obtain ⟨-, -, before, m', htaken, hend⟩ := led.ended ended
    refine ⟨before, m', htaken, by rw [hend]; rfl, ?_, fun _ => rfl⟩
    intro hnot
    rw [hend] at hnot
    cases hnot

/-- What is given once more is no departure: it is an end, or a copy of a barrier that has left the
queue already. -/
theorem departures_further (led : Ledger isBarrier taken h q) {id : ClientId} {m : Message}
    (further : Further q id m) :
    departures isBarrier (entriesIn h ++ [⟨id, m, taken.length - 1⟩])
      = departures isBarrier (entriesIn h) := by
  obtain ⟨before, m', htaken, -⟩ := led.taken_last further
  have hlength : taken.length - 1 + 1 = taken.length := by simp [htaken]
  rw [departures_snoc, if_pos]
  cases further with
  | @copy b busy unserved =>
    obtain ⟨hclass, -, -⟩ := led.current b busy
    have hr := led.running busy
    have hmem : taken.length - 1 ∈ (departures isBarrier (entriesIn h)).map Entry.place := by
      rw [led.places, hr, List.mem_range, if_neg Bool.false_ne_true]
      omega
    obtain ⟨e, he, hplace⟩ := List.mem_map.1 hmem
    have hany : (departures isBarrier (entriesIn h)).any
        (fun first => first.place == taken.length - 1) = true :=
      List.any_eq_true.2 ⟨e, he, by simp [hplace]⟩
    simp [hclass, hany]
  | farewell ended => rfl

/-- A client that is given a message once more did not have it: an earlier delivery to it from this
place would be of the barrier in progress. -/
theorem client_ne_of_further (led : Ledger isBarrier taken h q) {id : ClientId} {m : Message}
    (further : Further q id m) {e : Entry} (he : e ∈ entriesIn h)
    (hplace : e.place = taken.length - 1) (notEnd : m.isEnd = false) : e.client ≠ id := by
  intro hclient
  obtain ⟨before, m', htaken, -⟩ := led.taken_last further
  have hlength : taken.length - 1 + 1 = taken.length := by simp [htaken]
  cases further with
  | @copy b busy unserved =>
    refine unserved ((led.served b busy id).2 ⟨e, he, hclient, ?_⟩)
    rw [hplace]
    exact hlength
  | farewell ended => cases notEnd

/-- A further delivery of the message that was taken last. -/
theorem again (led : Ledger isBarrier taken h q) (after : Queue) (id : ClientId) (m : Message)
    (hclassifier : after.isBarrier = q.isBarrier) (hmessages : after.messages = q.messages)
    (hrundown : after.rundown = q.rundown) (hsome : after.barrier.isSome = q.barrier.isSome)
    (further : Further q id m)
    (hbarrier : ∀ b, after.barrier = some b → ∃ b', q.barrier = some b' ∧
      b.message = b'.message ∧ b.served = id :: b'.served) :
    Ledger isBarrier taken (h ++ [.delivery ⟨id, m, taken.length - 1⟩]) after := by
  have hentries : entriesIn (h ++ [.delivery ⟨id, m, taken.length - 1⟩])
      = entriesIn h ++ [⟨id, m, taken.length - 1⟩] := by simp [entriesIn]
  have hsent : sentIn (h ++ [.delivery ⟨id, m, taken.length - 1⟩]) = sentIn h := by simp [sentIn]
  have hdepart := led.departures_further further
  obtain ⟨before, m', htaken, hend, hsame, hplain⟩ := led.taken_last further
  have hlength : taken.length - 1 + 1 = taken.length := by simp [htaken]
  constructor
  case classifier => rw [hclassifier]; exact led.classifier
  case sent => rw [hsent, hmessages]; exact led.sent
  case ended =>
    intro hr
    rw [hrundown] at hr
    obtain ⟨hm, hb, hend⟩ := led.ended hr
    refine ⟨by rw [hmessages, hm], ?_, hend⟩
    simpa [hb] using hsome
  case current =>
    intro b hb
    obtain ⟨b', hb', hmsg, -⟩ := hbarrier b hb
    rw [hmsg]
    exact led.current b' hb'
  -- The new delivery is at the place of what was taken last, which is the barrier.
  case served =>
    intro b hb other
    obtain ⟨b', hb', -, hserved⟩ := hbarrier b hb
    rw [hserved, hentries, List.mem_cons, led.served b' hb' other]
    constructor
    · rintro (rfl | ⟨e, he, hclient, hplace⟩)
      · exact ⟨_, List.mem_append_right _ (List.mem_singleton_self _), rfl, hlength⟩
      · exact ⟨e, List.mem_append_left _ he, hclient, hplace⟩
    · rintro ⟨e, he, hclient, hplace⟩
      rcases List.mem_append.1 he with hold | hnew
      · exact Or.inr ⟨e, hold, hclient, hplace⟩
      · rw [List.mem_singleton.1 hnew] at hclient
        exact Or.inl hclient.symm
  case left => rw [hentries, hdepart, hrundown]; exact led.left
  case places => rw [hentries, hdepart, hrundown]; exact led.places
  case contents =>
    intro e he
    rw [hentries] at he
    rcases List.mem_append.1 he with hold | hnew
    · exact led.contents e hold
    · rw [List.mem_singleton.1 hnew]
      exact ⟨m', by simp [htaken], hend, hsame, hplain⟩
  case ordered =>
    rw [hentries, List.pairwise_append]
    refine ⟨led.ordered, List.pairwise_singleton .., ?_⟩
    intro e he e' he'
    rw [List.mem_singleton.1 he']
    have := led.place_lt he
    show e.place ≤ taken.length - 1
    omega
  case once =>
    rw [hentries, List.pairwise_append]
    refine ⟨led.once, List.pairwise_singleton .., ?_⟩
    intro e he e' he' hplace hnotEnd
    rw [List.mem_singleton.1 he'] at hplace hnotEnd ⊢
    exact led.client_ne_of_further further he hplace hnotEnd

/-- Reaching the end takes it from the queue and delivers nothing yet. -/
theorem finish (led : Ledger isBarrier taken h q) {m : Message} (running : q.rundown = false)
    (free : q.barrier = none) (last : q.messages = [m]) (isEnd : m.isEnd = true) :
    Ledger isBarrier (taken ++ [m]) h { q with messages := [], rundown := true } where
  classifier := led.classifier
  sent := by rw [led.sent, last]; simp
  ended := fun _ => ⟨rfl, free, taken, m, rfl, isEnd⟩
  current := by intro b hb; rw [free] at hb; cases hb
  served := by intro b hb; rw [free] at hb; cases hb
  left := by
    have := led.left
    simp only [running, Bool.false_eq_true, if_false] at this
    simp [this]
  places := by
    have := led.places
    simp only [running, Bool.false_eq_true, if_false] at this
    simp [this]
  contents := by
    intro e he
    obtain ⟨m', hm', rest⟩ := led.contents e he
    exact ⟨m', by rw [List.getElem?_append_left (led.place_lt he)]; exact hm', rest⟩
  ordered := led.ordered
  once := led.once

/-- **Every tick keeps the ledger.** One case for each tick. -/
theorem tick (led : Ledger isBarrier taken h q) {due : Option Delivery} {after : Queue}
    (t : q.Tick due after) :
    ∃ taken', Ledger isBarrier taken'
      (h ++ (q.mark (sentIn h).length due.toList).map .delivery) after := by
  have hplace := led.place_eq
  cases t with
  | @first m messages id waiting running free oldest asking notEnd =>
    refine ⟨taken ++ [m], ?_⟩
    simp only [free, running, Option.isSome_none, Bool.or_self, Bool.false_eq_true, if_false,
      Nat.sub_zero] at hplace
    simpa [Queue.mark, hplace] using led.first running oldest notEnd
  | @copy b id waiting running busy asking unserved =>
    refine ⟨taken, ?_⟩
    simp only [busy, Option.isSome_some, Bool.true_or, if_true] at hplace
    have := led.again { q with waiting, barrier := some { b with served := id :: b.served } }
      id b.message rfl rfl rfl (by rw [busy]; rfl) (.copy busy unserved)
      (by intro b' hb'; cases hb'; exact ⟨b, busy, rfl, rfl⟩)
    simpa [Queue.mark, hplace] using this
  | @defer b id waiting running busy asking served =>
    refine ⟨taken, led.carry [] (by simp [Queue.mark]) (by simp [Queue.mark]) rfl (by simp) rfl
      (fun _ => rfl) ?_⟩
    intro b' hb'
    cases hb'
    exact ⟨b, busy, rfl, rfl⟩
  | complete running busy idle everyone =>
    refine ⟨taken, led.carry [] (by simp [Queue.mark]) (by simp [Queue.mark]) rfl (by simp) rfl
      (fun _ => rfl) ?_⟩
    intro b' hb'
    cases hb'
  | @finish m running free last asking isEnd =>
    refine ⟨taken ++ [m], ?_⟩
    simpa [Queue.mark] using led.finish running free last isEnd
  | @farewell id waiting ended asking =>
    refine ⟨taken, ?_⟩
    simp only [ended, Bool.or_true, if_true] at hplace
    have hb := (led.ended ended).2.1
    have := led.again { q with waiting } id .endOfStream rfl rfl rfl rfl (.farewell ended)
      (by intro b hb'; rw [hb] at hb'; cases hb')
    simpa [Queue.mark, hplace] using this

end Ledger

/-! ## Every history has a balanced ledger -/

/-- The messages sent in a history are those that its calls send. -/
theorem sentIn_history (sent : Nat) (q : Queue) (cs : List Call) :
    sentIn (events (q.history sent cs)) = cs.filterMap Call.sent? := by
  induction cs generalizing sent q with
  | nil => rfl
  | cons c cs ih =>
    have rest : sentIn (events ((q.call c).2.history (sent + c.sent?.toList.length) cs))
        = cs.filterMap Call.sent? := ih _ _
    rw [events] at rest
    rw [Queue.history, events, List.flatMap_cons, List.cons_append, sentIn_call, sentIn_append,
      sentIn_deliveries, List.nil_append, rest, Call.filterMap_sent_cons]

/-- The deliveries of a history, without their places, are the log. -/
theorem entriesIn_history {q last : Queue} {cs : List Call} {log : List (List Delivery)}
    (sent : Nat) (run : q.calls cs = .ok (log, last)) :
    (entriesIn (events (q.history sent cs))).map Entry.delivery = log.flatten := by
  induction cs generalizing sent q log with
  | nil =>
    simp only [Queue.calls, Except.ok.injEq, Prod.mk.injEq] at run
    obtain ⟨rfl, -⟩ := run
    rfl
  | cons c cs ih =>
    obtain ⟨due, after, rest, now, later, rfl⟩ := Queue.calls_cons_ok run
    obtain ⟨-, hdue, -⟩ := Queue.call_ok (sent + c.sent?.toList.length) now
    have := ih (sent + c.sent?.toList.length) later
    simp only [events] at this
    simp [Queue.history, events, now, this, hdue]

/-- **The ledger of every history is balanced.** -/
theorem ledger_of_calls {expected : Nat} {isBarrier : Message → Bool} {cs : List Call}
    {log : List (List Delivery)} {q : Queue}
    (run : (Queue.new expected isBarrier).calls cs = .ok (log, q)) :
    ∃ taken, Ledger isBarrier taken (events ((Queue.new expected isBarrier).history 0 cs)) q := by
  refine Queue.history_induction (P := fun h q => ∃ taken, Ledger isBarrier taken h q)
    ?_ ?_ run [] ⟨[], .start expected isBarrier⟩
  · rintro h q c ⟨taken, led⟩ allowed
    exact ⟨taken, led.call c allowed⟩
  · rintro h q due after ⟨taken, led⟩ t
    exact led.tick t

end Fanout

end RecordFarm
