import Mathlib.Data.List.Dedup
import Mathlib.Logic.Relation
import RecordFarm.Proofs.Fanin.Collecting
import RecordFarm.Proofs.Service.Membership
import RecordFarm.Proofs.Wire.Unpacking

/-!
# A collector under any traffic

Nobody makes those who push into a collector's pipe behave. They come twice or never, go without
having come, end their streams at any time, and share a name. So a collector is looked at here among
peers that are not modelled at all: whatever they push is in the pipe.

What a collector does depends only on the rows that it has taken from the pipe, its *log*. The log
says what it hands out (`items`), who is a member (`members`), and whether those who were expected
have come and all have gone (`Complete`). `Answers` says what a call takes and how it is answered,
when it is made after some log with some records in the collector's hands.

A step of a collector that is asked for a message comes to a `Turn`, and a turn keeps the books
(`Kept`) and brings the call closer to its answer (`Served`). As long as it can read what it takes,
every call is answered as the log says (`traffic_accounted`).
-/

namespace RecordFarm

namespace Fanin

/-! ## What a log says -/

/-- Frames that a collector can take in. -/
def LegibleRow (row : Frames) : Prop := ∃ m, Message.ofFrames row = .ok m ∧ Legible m

/-- What a row is handed out as. -/
def items (row : Frames) : List Message := (Message.arrived row).unpacked

def comer? (row : Frames) : Option ClientId :=
  match Message.ofFrames row with
  | .error _ => none
  | .ok m => if m.kind = .registration then m.identity.toOption else none

/-- As many different peers as expected have come, and whoever came has gone. -/
def Complete (expected : Nat) (log : List Frames) : Prop :=
  members log = [] ∧ expected ≤ (log.filterMap comer?).dedup.length

instance (expected : Nat) (log : List Frames) : Decidable (Complete expected log) :=
  inferInstanceAs (Decidable (_ ∧ _))

/-- A call that is made after this log, with these records in the collector's hands, takes these
rows and has this answer. -/
inductive Answers (expected : Nat) : List Frames → List Bytes → List Frames → Message → Prop where
  /-- A record is in hand. -/
  | held {log : List Frames} {record : Bytes} {records : List Bytes} :
      Answers expected log (record :: records) [] (.process [record])
  /-- Nothing is left, and nobody is missing. -/
  | ended {log : List Frames} (complete : Complete expected log) :
      Answers expected log [] [] .endOfStream
  /-- A row gives nothing to hand out, so the call goes on. -/
  | silent {log taken : List Frames} {row : Frames} {reply : Message}
      (running : ¬ Complete expected log) (nothing : items row = [])
      (later : Answers expected (log ++ [row]) [] taken reply) :
      Answers expected log [] (row :: taken) reply
  /-- A row gives something to hand out. -/
  | news {log : List Frames} {row : Frames} {reply : Message} {more : List Message}
      (running : ¬ Complete expected log) (something : items row = reply :: more) :
      Answers expected log [] [row] reply

section Log

variable {expected : Nat} {log taken : List Frames} {row : Frames} {m reply : Message}
  {records : List Bytes}

/-- What a row of frames gives to hand out, when it reads as this message. -/
theorem items_of_framed (framed : Message.ofFrames row = .ok m) : items row = m.unpacked := by
  unfold items
  rw [Message.arrived_of_framed framed]

/-- Whom a row of frames announces, when it reads as this message. -/
theorem comer?_of_framed (framed : Message.ofFrames row = .ok m) :
    comer? row = if m.kind = .registration then m.identity.toOption else none := by
  unfold comer?
  rw [framed]

/-- Who is present after a row of frames that reads as this message. -/
theorem enter_of_framed (framed : Message.ofFrames row = .ok m) (present : List ClientId) :
    enter present row =
      match m.kind, m.identity with
      | .registration, .ok id => present.insert id
      | .unregistration, .ok id => present.filter fun other => decide (other ≠ id)
      | _, _ => present := by
  unfold enter
  cases h : Message.ofFrames row with
  | error cause => cases framed.symm.trans h
  | ok m' =>
    obtain rfl := Except.ok.inj (framed.symm.trans h)
    rfl

theorem isEnd_of_items {more : List Message} (something : items row = reply :: more) :
    reply.isEnd = false := by
  refine Message.isEnd_of_mem_unpacked (m := Message.arrived row) ?_
  show reply ∈ items row
  rw [something]
  exact List.mem_cons_self

/-- A row that is handed out as something is no word of coming or going. -/
theorem same_of_items (log : List Frames) {more : List Message}
    (something : items row = reply :: more) (framed : Message.ofFrames row = .ok m) :
    members (log ++ [row]) = members log ∧
      (log ++ [row]).filterMap comer? = log.filterMap comer? := by
  rw [items_of_framed framed] at something
  unfold Message.unpacked at something
  have stays : m.kind ≠ .registration := by
    intro hkind
    rw [hkind] at something
    cases something
  have notLeaving : m.kind ≠ .unregistration := by
    intro hkind
    rw [hkind] at something
    cases something
  have plain : IsData row := by
    intro m' framed'
    obtain rfl := Except.ok.inj (framed.symm.trans framed')
    exact ⟨stays, notLeaving⟩
  have comes := comer?_of_framed framed
  rw [if_neg stays] at comes
  exact ⟨(members_snoc log row).trans (enter_data plain _), by simp [comes]⟩

/-- A call goes on behind a row, with the records of that row in hand. -/
theorem Answers.behind (running : ¬ Complete expected log)
    (hrow : items row = records.map fun record => .process [record])
    (later : Answers expected (log ++ [row]) records taken reply) :
    Answers expected log [] (row :: taken) reply := by
  cases later with
  | held => exact .news running hrow
  | ended complete => exact .silent running hrow (.ended complete)
  | silent running' nothing later => exact .silent running hrow (.silent running' nothing later)
  | news running' something => exact .silent running hrow (.news running' something)

/-- **The stream ends when nothing is left and nobody is missing, and not before.** -/
theorem Answers.isEnd_iff (answers : Answers expected log records taken reply)
    (legible : ∀ row ∈ taken, LegibleRow row) :
    reply.isEnd = true ↔ records = [] ∧ Complete expected (log ++ taken) := by
  induction answers with
  | held => simp [Message.isEnd, Message.process]
  | ended complete => simpa [Message.isEnd, Message.endOfStream, Message.control] using complete
  | @silent log taken row reply running nothing later ih =>
    rw [ih fun row h => legible row (List.mem_cons_of_mem _ h), List.append_assoc]
    rfl
  | @news log row reply more running something =>
    obtain ⟨m, framed, -⟩ := legible row List.mem_cons_self
    -- The row is no word of coming or going, so whoever was missing still is.
    obtain ⟨same, same'⟩ := same_of_items log something framed
    have notEnd : reply.isEnd = false := isEnd_of_items something
    have running' : ¬ Complete expected (log ++ [row]) := by
      unfold Complete
      rwa [same, same']
    simp [notEnd, running']

end Log

/-! ## Turns -/

namespace Collector

/-- What a step of a collector that is asked for a message comes to, when these rows are in its
pipe: the rows that it takes, its state, and the answer if there is one. -/
inductive Turn (s : Collector) :
    List Frames → List Frames → Collector → Option (Except Error Reply) → Prop where
  | hand {queue : List Frames} {record : Bytes} {records : List Bytes}
      (first : s.records = record :: records) :
      Turn s queue [] { s with records } (some (.ok (some (.process [record]))))
  | finish {queue : List Frames} (nothing : s.records = []) (complete : s.isComplete = true) :
      Turn s queue [] s (some (.ok (some .endOfStream)))
  | starve (nothing : s.records = []) (running : s.isComplete = false) : Turn s [] [] s none
  | take {row : Frames} {rest : List Frames} {m : Message} (nothing : s.records = [])
      (running : s.isComplete = false) (framed : Message.ofFrames row = .ok m)
      (legible : Legible m) :
      Turn s (row :: rest) [row] (absorb m s).1 ((absorb m s).2.head?.map fun m => .ok (some m))
  | choke {row : Frames} {rest : List Frames} {cause : Error} (nothing : s.records = [])
      (running : s.isComplete = false) (illegible : ¬ LegibleRow row) :
      Turn s (row :: rest) [row] s (some (.error cause))

/-- A message that is not legible fails the call and changes nothing. -/
theorem takeIn_illegible {m : Message} (illegible : ¬ Legible m) (s : Collector) (net : Network) :
    ∃ cause, takeIn m s net = (.finished (.error cause), s, net) := by
  unfold takeIn
  cases hkind : m.kind with
  | process =>
    cases hrecords : m.records with
    | error cause => exact ⟨_, rfl⟩
    | ok records =>
      refine absurd ⟨fun _ => ⟨records, hrecords⟩, fun h => ?_⟩ illegible
      rw [hkind] at h
      rcases h with h | h <;> cases h
  | registration =>
    cases hid : m.identity with
    | error cause => exact ⟨_, rfl⟩
    | ok id =>
      refine absurd ⟨fun h => ?_, fun _ => ⟨id, hid⟩⟩ illegible
      rw [hkind] at h
      cases h
  | unregistration =>
    cases hid : m.identity with
    | error cause => exact ⟨_, rfl⟩
    | ok id =>
      refine absurd ⟨fun h => ?_, fun _ => ⟨id, hid⟩⟩ illegible
      rw [hkind] at h
      cases h
  | _ =>
    refine absurd ⟨fun h => ?_, fun h => ?_⟩ illegible
    · rw [hkind] at h
      cases h
    · rw [hkind] at h
      rcases h with h | h <;> cases h

/-- **A step of a collector that is asked for a message is a turn**, and takes from its pipe what
the turn takes. -/
theorem next_turn {s : Collector} {net : Network} {socket : PullSocket} {pipe : Pipe}
    (hpull : s.pull = some socket) (hpipe : net.pipes[socket.number]? = some pipe)
    (opened : pipe.isOpen = true) :
    ∃ taken rest answer, pipe.queue = taken ++ rest ∧
      Turn s pipe.queue taken (next s net).2.1 answer ∧
      (next s net).1.answer? = answer ∧
      (next s net).1.pending .next = (if answer.isSome then none else some .next) ∧
      (next s net).2.2.pipes[socket.number]? = some { pipe with queue := rest } ∧
      (taken = [] → (next s net).2.2 = net) := by
  unfold next
  cases hrecords : s.records with
  | cons record records =>
    exact ⟨[], pipe.queue, _, rfl, .hand hrecords, rfl, rfl, hpipe, fun _ => rfl⟩
  | nil =>
  cases hcomplete : s.isComplete with
  | true =>
    exact ⟨[], pipe.queue, _, rfl, .finish hrecords hcomplete, rfl, rfl, hpipe, fun _ => rfl⟩
  | false =>
  obtain ⟨uri, queue, isOpen⟩ := pipe
  obtain rfl : isOpen = true := opened
  simp only [hpull, Bool.false_eq_true, if_false, PullSocket.recv, hpipe, Pipe.recv]
  cases queue with
  | nil => exact ⟨[], [], none, rfl, .starve hrecords hcomplete, rfl, rfl, hpipe, fun _ => rfl⟩
  | cons row rest =>
    have hpipe' := Network.pipe_modifyPipe hpipe fun pipe => { pipe with queue := rest }
    have later {P : Prop} : [row] = [] → P := fun h => absurd h (List.cons_ne_nil _ _)
    -- The row is gone from the pipe whether it can be read or not.
    refine ⟨[row], rest, ?_⟩
    cases framed : Message.ofFrames row with
    | error cause =>
      simp only [framed]
      refine ⟨_, rfl, .choke hrecords hcomplete ?_, rfl, rfl, hpipe', later⟩
      rintro ⟨m, framed', -⟩
      cases framed.symm.trans framed'
    | ok m =>
      by_cases legible : Legible m
      · -- The collector goes on, or hands the message out.
        have turn : Turn s (row :: rest) [row] (absorb m s).1 _ :=
          .take hrecords hcomplete framed legible
        simp only [framed, takeIn_legible legible s hrecords]
        rcases absorb_out m s with hout | hout
        · rw [hout] at turn ⊢
          exact ⟨none, rfl, turn, rfl, rfl, hpipe', later⟩
        · rw [hout] at turn ⊢
          exact ⟨_, rfl, turn, rfl, rfl, hpipe', later⟩
      · obtain ⟨cause, refused⟩ := takeIn_illegible legible s
          (net.modifyPipe socket.number fun pipe => { pipe with queue := rest })
        simp only [framed, refused]
        refine ⟨_, rfl, .choke hrecords hcomplete ?_, rfl, rfl, hpipe', later⟩
        rintro ⟨m', framed', legible'⟩
        obtain rfl := Except.ok.inj (framed.symm.trans framed')
        exact legible legible'

theorem Turn.pull_eq {s s' : Collector} {queue taken : List Frames}
    {answer : Option (Except Error Reply)} (turn : Turn s queue taken s' answer) :
    s'.pull = s.pull := by
  cases turn with
  | take => exact (absorb_pull _ s).1
  | _ => rfl

/-! ## Books -/

/-- What a collector keeps of its log. -/
structure Books (n : Nat) (log : List Frames) (s : Collector) : Prop where
  expected : s.expected = n
  producers : s.producers = members log
  distinct : s.seen.Nodup
  seen : ∀ id, id ∈ s.seen ↔ id ∈ log.filterMap comer?

section Books

variable {n : Nat} {log : List Frames} {s : Collector} {row : Frames} {m : Message}

/-- A collector in step with a log has its stream complete if and only if the log says so. -/
theorem Books.isComplete_iff (books : Books n log s) : s.isComplete = true ↔ Complete n log := by
  have hseen : s.seen.length = (log.filterMap comer?).dedup.length := by
    refine List.Perm.length_eq ?_
    rw [List.perm_ext_iff_of_nodup books.distinct (List.nodup_dedup _)]
    intro id
    rw [books.seen, List.mem_dedup]
  unfold isComplete Complete
  rw [Bool.and_eq_true, List.isEmpty_iff, decide_eq_true_eq, books.expected, books.producers, hseen]

theorem Books.running (books : Books n log s) (running : s.isComplete = false) :
    ¬ Complete n log := by
  rw [← books.isComplete_iff, running]
  exact Bool.false_ne_true

/-- A message that is taken in is entered into the books. One case for each kind that counts. -/
theorem Books.absorb (books : Books n log s) (framed : Message.ofFrames row = .ok m)
    (legible : Legible m) : Books n (log ++ [row]) (absorb m s).1 := by
  obtain ⟨expected, producers, distinct, seen⟩ := books
  have members' := members_snoc log row
  have seen' : ∀ id, id ∈ (log ++ [row]).filterMap comer? ↔
      id ∈ s.seen ∨ comer? row = some id := by
    intro id
    rw [List.filterMap_append, List.mem_append, ← seen]
    simp
  rw [enter_of_framed framed, ← producers] at members'
  rw [comer?_of_framed framed] at seen'
  unfold Collector.absorb
  cases hkind : m.kind with
  | registration =>
    obtain ⟨id, hid⟩ := legible.named (Or.inl hkind)
    simp only [hkind, hid] at members' seen' ⊢
    refine ⟨expected, members'.symm, distinct.insert, fun other => ?_⟩
    rw [seen', List.mem_insert_iff]
    simp [Except.toOption, or_comm, eq_comm]
  | unregistration =>
    obtain ⟨id, hid⟩ := legible.named (Or.inr hkind)
    simp only [hkind, hid] at members' seen' ⊢
    exact ⟨expected, members'.symm, distinct, fun other => by rw [seen']; simp⟩
  | _ =>
    simp only [hkind] at members' seen' ⊢
    exact ⟨expected, members'.symm, distinct, fun other => by rw [seen']; simp⟩

/-- What is handed out for a message, and what is kept of it to be handed out, is the message. -/
theorem absorb_items (nothing : s.records = []) (framed : Message.ofFrames row = .ok m)
    (legible : Legible m) :
    items row = (Collector.absorb m s).2 ++
      (Collector.absorb m s).1.records.map fun record => .process [record] := by
  rw [items_of_framed framed]
  unfold Message.unpacked Collector.absorb
  cases hkind : m.kind with
  | registration =>
    obtain ⟨id, hid⟩ := legible.named (Or.inl hkind)
    simp [hid, nothing]
  | unregistration =>
    obtain ⟨id, hid⟩ := legible.named (Or.inr hkind)
    simp [hid, nothing]
  | _ => simp [nothing]

end Books

/-! ## Calls -/

def Story.turned (s : Story) (server : Collector) (answer : Option (Except Error Reply)) :
    Story where
  server := server
  current := if answer.isSome then none else s.current
  answered := s.answered ++ (answer.map fun result => (.next, result)).toList

/-- What comes of a collector that is not asked: nothing, or a turn of the call that it has. -/
inductive Moves (s : Story) : List Frames → Story → Prop where
  | still : Moves s [] s
  | turn {queue taken : List Frames} {server : Collector} {answer : Option (Except Error Reply)}
      (busy : s.current = some (.next, .next)) (turn : Turn s.server queue taken server answer) :
      Moves s taken (s.turned server answer)

/-- What is true of a collector with this log, as long as the log is legible: no call has failed,
and the log is what was handed out and what is in hand, but for the ends that were handed out. -/
structure Kept (n : Nat) (log : List Frames) (s : Story) : Prop where
  books : Books n log s.server
  answered : ∀ a ∈ s.answered, ∃ reply, a.2 = .ok reply
  account : (handedOut s.answered).filter (fun m => !m.isEnd) ++
    (s.server.records.map fun record => .process [record]) = log.flatMap items

/-- What a call has come to that was made with these records in hand and these answers given: the
rows that it has taken so far, and what can become of it. -/
inductive Served (n : Nat) (log : List Frames) (records : List Bytes)
    (answered : List (SourceCall × Except Error Reply)) : List Frames → Story → Prop where
  /-- Whatever answers the call from here on answers it altogether. -/
  | busy {taken : List Frames} {server : Collector}
      (rest : ∀ later reply, Answers n (log ++ taken) server.records later reply →
        Answers n log records (taken ++ later) reply) :
      Served n log records answered taken ⟨server, some (.next, .next), answered⟩
  | done {taken : List Frames} {reply : Message} {server : Collector}
      (answers : Answers n log records taken reply) :
      Served n log records answered taken
        ⟨server, none, answered ++ [(.next, .ok (some reply))]⟩

section Calls

variable {n : Nat} {log queue taken more : List Frames} {s s' : Story} {server : Collector}
  {answer : Option (Except Error Reply)} {records : List Bytes}
  {answered : List (SourceCall × Except Error Reply)}

/-- The books after a turn that is no failure: what is handed out is on its side of the account. -/
theorem Kept.turned {log' : List Frames} (kept : Kept n log s) (reply? : Option Reply)
    (books : Books n log' server)
    (account : (handedOut s.answered).filter (fun m => !m.isEnd) ++
      (reply?.join.toList.filter (fun m => !m.isEnd) ++
        server.records.map fun record => .process [record]) = log'.flatMap items) :
    Kept n log' (s.turned server (reply?.map .ok)) := by
  refine ⟨books, fun a ha => ?_, ?_⟩
  · rcases List.mem_append.1 ha with hold | hnew
    · exact kept.answered a hold
    · cases reply? with
      | none => cases hnew
      | some reply =>
        rw [List.mem_singleton.1 hnew]
        exact ⟨reply, rfl⟩
  · have hhanded : handedOut (s.turned server (reply?.map .ok)).answered
        = handedOut s.answered ++ reply?.join.toList := by
      cases reply? with
      | none => simp [Story.turned]
      | some reply => exact handedOut_next s.answered reply
    rw [hhanded, List.filter_append, List.append_assoc]
    exact account

/-- **A turn keeps the books**, if what it takes is legible. -/
theorem Kept.turn (kept : Kept n log s) (turn : Turn s.server queue taken server answer)
    (legible : ∀ row ∈ taken, LegibleRow row) :
    Kept n (log ++ taken) (s.turned server answer) := by
  have account := kept.account
  cases turn with
  | @hand queue record records first =>
    rw [List.append_nil]
    refine kept.turned (some (some (.process [record]))) ?_ ?_
    · exact ⟨kept.books.expected, kept.books.producers, kept.books.distinct, kept.books.seen⟩
    · rw [← account, first]
      rfl
  | finish nothing complete =>
    rw [List.append_nil]
    exact kept.turned (some (some .endOfStream)) kept.books account
  | starve nothing running =>
    rw [List.append_nil]
    exact kept.turned none kept.books account
  | @take row rest m nothing running framed readable =>
    have hitems := absorb_items nothing framed readable
    have books' := kept.books.absorb framed readable
    rw [nothing, List.map_nil, List.append_nil] at account
    -- What is handed out for the row, if anything, is no end.
    rcases absorb_out m s.server with hout | hout <;> rw [hout] at hitems ⊢
    · refine kept.turned none books' ?_
      rw [account, List.flatMap_append, List.flatMap_singleton, hitems]
      rfl
    · refine kept.turned (some (some m)) books' ?_
      have notEnd : m.isEnd = false := isEnd_of_items hitems
      rw [account, List.flatMap_append, List.flatMap_singleton, hitems]
      simp [notEnd]
  | choke nothing running illegible =>
    exact absurd (legible _ List.mem_cons_self) illegible

/-- **A turn brings a call closer to its answer**, if what it takes is legible. -/
theorem Served.turn (served : Served n log records answered taken s)
    (busy : s.current = some (.next, .next)) (books : Books n (log ++ taken) s.server)
    (turn : Turn s.server queue more server answer) (legible : ∀ row ∈ more, LegibleRow row) :
    Served n log records answered (taken ++ more) (s.turned server answer) := by
  cases served with
  | done answers => cases busy
  | @busy server' rest =>
  simp only at books turn
  cases turn with
  | @hand queue record records' first => exact .done (rest [] _ (by rw [first]; exact .held))
  | finish nothing complete =>
    exact .done (rest [] _ (by rw [nothing]; exact .ended (books.isComplete_iff.1 complete)))
  | starve nothing running =>
    rw [List.append_nil]
    simp only [Story.turned, Option.map_none, Option.toList_none, List.append_nil]
    exact .busy rest
  | @take row rest' m nothing running framed readable =>
    have hitems := absorb_items nothing framed readable
    have running' := books.running running
    rw [nothing] at rest
    rcases absorb_out m server' with hout | hout <;> rw [hout] at hitems ⊢
    · -- The row is behind the call, which goes on with the records of it.
      simp only [Story.turned, List.head?_nil, Option.map_none, Option.toList_none, List.append_nil]
      refine .busy fun later reply answers => ?_
      rw [← List.append_assoc] at answers
      rw [List.append_assoc]
      exact rest _ _ (.behind running' hitems answers)
    · exact .done (rest [row] m (.news running' hitems))
  | choke nothing running illegible =>
    exact absurd (legible _ List.mem_cons_self) illegible

/-- Moves that consume legible traffic keep the collector in step with all that was consumed. -/
theorem Kept.moves (kept : Kept n log s) (moves : Moves s taken s')
    (legible : ∀ row ∈ taken, LegibleRow row) : Kept n (log ++ taken) s' := by
  cases moves with
  | still => rwa [List.append_nil]
  | turn busy turn => exact kept.turn turn legible

/-- A call is served further by what it takes. -/
theorem Served.moves (served : Served n log records answered taken s)
    (books : Books n (log ++ taken) s.server) (moves : Moves s more s')
    (legible : ∀ row ∈ more, LegibleRow row) :
    Served n log records answered (taken ++ more) s' := by
  cases moves with
  | still => rwa [List.append_nil]
  | turn busy turn => exact served.turn busy books turn legible

end Calls

end Collector

/-! ## Traffic -/

/-- A collector that is asked for messages, and all rows that were pushed into its pipe, oldest
first. -/
structure Traffic where
  collector : Collector.Story
  net : Network
  arrived : List Frames

namespace Traffic

/-- A collector that has bound its address, when nothing was pushed yet. -/
def bound (net : Network) (uri : String) (expected : Nat) : Traffic :=
  let after := Collector.Story.step
    (Collector.Story.ask .connect { server := { uri, expected } }) net
  { collector := after.1, net := after.2, arrived := [] }

def waiting (t : Traffic) : List Frames :=
  match t.collector.server.pull with
  | none => []
  | some socket =>
    match t.net.pipes[socket.number]? with
    | none => []
    | some pipe => pipe.queue

def consumed (t : Traffic) : List Frames := t.arrived.take (t.arrived.length - t.waiting.length)

/-- The records in the collector's hands, as they will be handed out. -/
def held (t : Traffic) : List Message :=
  t.collector.server.records.map fun record => .process [record]

/-- Whether the collector could read what it took. -/
def IsLegible (t : Traffic) : Prop := ∀ row ∈ t.consumed, LegibleRow row

def ask (t : Traffic) : Traffic := { t with collector := t.collector.ask .next }

def collect (t : Traffic) : Traffic :=
  { t with
    collector := (Collector.Story.step t.collector t.net).1
    net := (Collector.Story.step t.collector t.net).2 }

/-- Something happens to a network by which these rows, and no others, come into a pipe. -/
def Push (number : Nat) (rows : List Frames) (net net' : Network) : Prop :=
  ∃ pipe, net.pipes[number]? = some pipe ∧
    net'.pipes[number]? = some { pipe with queue := pipe.queue ++ rows }

/-- The collector takes a step, or anybody else does anything at all. -/
inductive Works : Traffic → Traffic → Prop where
  | collect (t : Traffic) : Works t t.collect
  | others {t : Traffic} {socket : PullSocket} {rows : List Frames} {net : Network}
      (pull : t.collector.server.pull = some socket) (push : Push socket.number rows t.net net) :
      Works t { t with net, arrived := t.arrived ++ rows }

/-- One thing that happens: also, a collector without a call is asked for a message. -/
inductive Step : Traffic → Traffic → Prop where
  | ask {t : Traffic} (idle : t.collector.current = none) : Step t t.ask
  | works {t t' : Traffic} (works : Works t t') : Step t t'

def Serves : Traffic → Traffic → Prop := Relation.ReflTransGen Works

def Runs : Traffic → Traffic → Prop := Relation.ReflTransGen Step

theorem Serves.runs {t t' : Traffic} (serves : Serves t t') : Runs t t' :=
  Relation.ReflTransGen.mono (fun _ _ => .works) _ _ serves

/-- The pipe of a collector that has taken these rows. -/
structure At (socket : PullSocket) (pipe : Pipe) (log : List Frames) (t : Traffic) : Prop where
  pull : t.collector.server.pull = some socket
  piped : t.net.pipes[socket.number]? = some pipe
  opened : pipe.isOpen = true
  arrived : t.arrived = log ++ pipe.queue
  call : ∀ call ∈ t.collector.current, call = (.next, .next)

section Steps

variable {socket : PullSocket} {pipe : Pipe} {log : List Frames} {t t' : Traffic}

theorem At.waiting_eq (here : t.At socket pipe log) : t.waiting = pipe.queue := by
  simp only [waiting, here.pull, here.piped]

theorem At.consumed_eq (here : t.At socket pipe log) : t.consumed = log := by
  unfold consumed
  rw [here.waiting_eq, here.arrived, List.length_append, Nat.add_sub_cancel, List.take_left]

theorem At.ask (here : t.At socket pipe log) : t.ask.At socket pipe log where
  pull := here.pull
  piped := here.piped
  opened := here.opened
  arrived := here.arrived
  call := fun _ h => (Option.mem_some_iff.1 h).symm

/-- **A step of a collector that has a call** is a turn. -/
theorem At.collect (here : t.At socket pipe log)
    (busy : t.collector.current = some (.next, .next)) :
    ∃ taken rest server answer, pipe.queue = taken ++ rest ∧
      Collector.Turn t.collector.server pipe.queue taken server answer ∧
      t.collect.collector = t.collector.turned server answer ∧
      t.collect.At socket { pipe with queue := rest } (log ++ taken) ∧
      (taken = [] → t.collect.net = t.net) := by
  obtain ⟨taken, rest, answer, hqueue, turn, hanswer, hpending, hpipe, still⟩ :=
    Collector.next_turn here.pull here.piped here.opened
  have hstep := Session.step_of_current Collector.source.toService busy t.net
  -- The session puts the answer down, and keeps the call if there is none.
  have hcollector : t.collect.collector
      = t.collector.turned (Collector.next t.collector.server t.net).2.1 answer := by
    refine (congrArg Prod.fst hstep).trans ?_
    show Session.mk _ (((Collector.next t.collector.server t.net).1.pending .next).map _)
      (_ ++ ((Collector.next t.collector.server t.net).1.answer?.map _).toList) = _
    rw [hpending, hanswer]
    unfold Collector.Story.turned
    cases answer with
    | none => rw [busy]; rfl
    | some result => rfl
  have hnet : t.collect.net = (Collector.next t.collector.server t.net).2.2 :=
    congrArg Prod.snd hstep
  refine ⟨taken, rest, _, answer, hqueue, turn, hcollector, ?_, fun h => hnet.trans (still h)⟩
  refine ⟨?_, ?_, here.opened, ?_, ?_⟩
  · rw [hcollector]
    exact turn.pull_eq.trans here.pull
  · rw [hnet]
    exact hpipe
  · show t.arrived = _
    rw [here.arrived, hqueue, List.append_assoc]
  · rw [hcollector]
    intro call hcall
    unfold Collector.Story.turned at hcall
    cases answer with
    | none => exact here.call call hcall
    | some result => cases hcall

/-- A collector that was not asked does nothing. -/
theorem collect_of_idle (idle : t.collector.current = none) : t.collect = t := by
  unfold collect Collector.Story.step
  rw [Session.step_of_idle _ idle]

/-- A collector that works takes some rows in front of the pipe; everybody else puts rows in behind.
-/
theorem At.works (here : t.At socket pipe log) (works : Works t t') :
    ∃ pipe' taken, t'.At socket pipe' (log ++ taken) ∧
      Collector.Moves t.collector taken t'.collector := by
  cases works with
  | collect =>
    cases hcurrent : t.collector.current with
    | none =>
      rw [collect_of_idle hcurrent]
      exact ⟨pipe, [], by rwa [List.append_nil], .still⟩
    | some call =>
      obtain rfl := here.call call hcurrent
      obtain ⟨taken, rest, server, answer, -, turn, hcollector, here', -⟩ := here.collect hcurrent
      rw [hcollector]
      exact ⟨_, taken, here', .turn hcurrent turn⟩
  | @others socket' rows net pull push =>
    obtain rfl := Option.some.inj (here.pull.symm.trans pull)
    obtain ⟨pipe', old, new⟩ := push
    obtain rfl := Option.some.inj (here.piped.symm.trans old)
    refine ⟨_, [], ⟨here.pull, new, here.opened, ?_, here.call⟩, .still⟩
    show t.arrived ++ rows = _
    rw [here.arrived, List.append_nil, List.append_assoc]

end Steps

section Runs

variable {net : Network} {uri : String} {n : Nat} {here there : Traffic} {socket : PullSocket}
  {pipe : Pipe} {log : List Frames}

/-- An address that is bound has an empty pipe, and its collector has consumed nothing. -/
theorem at_bound (free : net.lookup uri = none) (n : Nat) :
    (bound net uri n).At ⟨net.pipes.length, uri, true⟩ { uri } [] ∧
      Collector.Kept n [] (bound net uri n).collector := by
  have hbind : PullSocket.bind net uri = .done ⟨net.pipes.length, uri, true⟩
      { net with
        bound := (uri, .pull net.pipes.length) :: net.bound
        pipes := net.pipes ++ [{ uri }] } := by
    unfold PullSocket.bind Network.isBound
    rw [free]
    rfl
  have hbound : bound net uri n =
      { collector :=
          { server := { uri, expected := n, pull := some ⟨net.pipes.length, uri, true⟩ }
            answered := [(.connect, .ok none)] }
        net :=
          { net with
            bound := (uri, .pull net.pipes.length) :: net.bound
            pipes := net.pipes ++ [{ uri }] }
        arrived := [] } := by
    unfold bound Collector.Story.step Collector.Story.ask Session.step Session.ask
    simp only [Collector.source, Collector.step, id, hbind]
    rfl
  rw [hbound]
  refine ⟨⟨rfl, by simp, rfl, rfl, fun _ h => absurd h (Option.not_mem_none _)⟩,
    ⟨⟨rfl, rfl, .nil, by simp⟩, ?_, rfl⟩⟩
  intro a ha
  rw [List.mem_singleton.1 ha]
  exact ⟨none, rfl⟩

/-- **The books are kept.** Induction on what happened. -/
theorem Runs.kept (free : net.lookup uri = none) (runs : Runs (bound net uri n) here) :
    ∃ socket pipe log, here.At socket pipe log ∧
      ((∀ row ∈ log, LegibleRow row) → Collector.Kept n log here.collector) := by
  induction runs with
  | refl =>
    obtain ⟨at_, kept⟩ := at_bound free n
    exact ⟨_, _, _, at_, fun _ => kept⟩
  | tail _ step ih =>
    obtain ⟨socket, pipe, log, at_, kept⟩ := ih
    cases step with
    | ask idle =>
      refine ⟨socket, pipe, log, at_.ask, fun legible => ?_⟩
      obtain ⟨books, answered, account⟩ := kept legible
      exact ⟨books, answered, account⟩
    | works works =>
      obtain ⟨pipe', taken, at', moves⟩ := at_.works works
      refine ⟨socket, pipe', log ++ taken, at', fun legible => ?_⟩
      exact (kept fun row h => legible row (List.mem_append_left _ h)).moves moves
        fun row h => legible row (List.mem_append_right _ h)

/-- **A call that is made is served.** Induction on what happened since. -/
theorem Serves.served (at_ : here.At socket pipe log)
    (kept : (∀ row ∈ log, LegibleRow row) → Collector.Kept n log here.collector)
    (serves : Serves here.ask there) :
    ∃ pipe' taken, there.At socket pipe' (log ++ taken) ∧
      ((∀ row ∈ log ++ taken, LegibleRow row) →
        Collector.Kept n (log ++ taken) there.collector ∧
        Collector.Served n log here.collector.server.records here.collector.answered taken
          there.collector) := by
  induction serves with
  | refl =>
    refine ⟨pipe, [], by rw [List.append_nil]; exact at_.ask, fun legible => ?_⟩
    rw [List.append_nil] at legible ⊢
    obtain ⟨books, answered, account⟩ := kept legible
    exact ⟨⟨books, answered, account⟩, .busy fun later reply answers => by
      rwa [List.append_nil] at answers⟩
  | tail _ works ih =>
    obtain ⟨pipe', taken, at', served⟩ := ih
    obtain ⟨pipe'', more, at'', moves⟩ := at'.works works
    rw [List.append_assoc] at at''
    refine ⟨pipe'', taken ++ more, at'', fun legible => ?_⟩
    rw [← List.append_assoc] at legible ⊢
    obtain ⟨kept', served'⟩ := served fun row h => legible row (List.mem_append_left _ h)
    have legible' : ∀ row ∈ more, LegibleRow row :=
      fun row h => legible row (List.mem_append_right _ h)
    exact ⟨kept'.moves moves legible', served'.moves kept'.books moves legible'⟩

end Runs

/-! ### Moves -/

inductive Move where
  /-- Somebody pushes a row into the collector's pipe. -/
  | push (row : Frames)
  | collect

def play (t : Traffic) : Move → Traffic
  | .push row =>
    match t.collector.server.pull with
    | none => t
    | some socket =>
      match PushSocket.send ⟨socket.number, socket.uri, false⟩ row t.net with
      | .done _ net => { t with net, arrived := t.arrived ++ [row] }
      | _ => t
  | .collect => t.collect

def played (t : Traffic) (moves : List Move) : Traffic := moves.foldl play t

/-- A message that is pushed is one row more behind those in the pipe. -/
theorem push_of_send {socket : PushSocket} {row : Frames} {net net' : Network}
    (h : socket.send row net = .done () net') : Push socket.number [row] net net' := by
  unfold PushSocket.send at h
  cases hpipe : net.pipes[socket.number]? with
  | none =>
    rw [hpipe] at h
    cases h
  | some pipe =>
    rw [hpipe] at h
    simp only [Pipe.send] at h
    split at h
    · cases h
    · split at h
      · cases h
        exact ⟨pipe, hpipe, Network.pipe_modifyPipe hpipe _⟩
      · cases h

theorem serves_play (t : Traffic) (move : Move) : Serves t (t.play move) := by
  cases move with
  | collect => exact .single (.collect t)
  | push row =>
    simp only [play]
    cases hpull : t.collector.server.pull with
    | none => exact .refl
    | some socket =>
      simp only
      cases hsend : PushSocket.send ⟨socket.number, socket.uri, false⟩ row t.net with
      | blocked => exact .refl
      | failed cause => exact .refl
      | done _ net => exact .single (.others hpull (push_of_send hsend))

theorem serves_played (t : Traffic) (moves : List Move) : Serves t (t.played moves) := by
  induction moves generalizing t with
  | nil => exact .refl
  | cons move moves ih => exact (serves_play t move).trans (ih (t.play move))

theorem Runs.call {t t' : Traffic} (runs : Runs t t') (idle : t'.collector.current = none)
    (moves : List Move) : Runs t (t'.ask.played moves) :=
  (runs.tail (.ask idle)).trans (serves_played t'.ask moves).runs

/-! ### Accounts -/

/-- What is true of a collector that expects so many peers, as long as it can read what it takes. -/
structure Accounted (n : Nat) (here : Traffic) : Prop where
  /-- The rows are taken in the order in which they arrived. -/
  arrived : here.arrived = here.consumed ++ here.waiting
  /-- No call has failed. -/
  answered : ∀ a ∈ here.collector.answered, ∃ reply, a.2 = .ok reply
  /-- What was handed out, but for ends, and what is in hand is what the rows are handed out as. -/
  account : (handedOut here.collector.answered).filter (fun m => !m.isEnd) ++ here.held =
    here.consumed.flatMap items
  /-- A call that is made now takes rows and is answered as the log says, whatever happens in the
  meantime. It is told of the end if nothing is in hand and the log is complete by then. -/
  served : here.collector.current = none → ∀ there, Serves here.ask there → there.IsLegible →
    ∃ taken, there.consumed = here.consumed ++ taken ∧
      (there.collector.current = none → ∃ reply,
        there.collector.answered = here.collector.answered ++ [(.next, .ok (some reply))] ∧
        Answers n here.consumed here.collector.server.records taken reply ∧
        (reply.isEnd = true ↔ here.held = [] ∧ Complete n there.consumed))
  /-- A call that can be answered is answered by the next step, which takes nothing. -/
  answers : here.collector.current ≠ none → here.held ≠ [] ∨ Complete n here.consumed →
    here.collect.collector.current = none ∧ here.collect.consumed = here.consumed
  /-- A call that cannot be answered takes the next row, and waits if there is none. -/
  takes : here.collector.current ≠ none → here.held = [] → ¬ Complete n here.consumed →
    (here.waiting = [] → here.collect = here) ∧
      ∀ row rest, here.waiting = row :: rest → here.collect.consumed = here.consumed ++ [row]

section Accounts

variable {net : Network} {uri : String} {n : Nat} {here there : Traffic} {socket : PullSocket}
  {pipe : Pipe} {log : List Frames}

/-- The only call that a collector is busy with is the one for the next message. -/
theorem At.call_eq (at_ : here.At socket pipe log) (busy : here.collector.current ≠ none) :
    here.collector.current = some (.next, .next) := by
  obtain ⟨call, hcall⟩ := Option.ne_none_iff_exists'.1 busy
  rw [hcall, at_.call call hcall]

/-- With a record in hand, or with the stream complete, the call is answered and nothing is taken.
-/
theorem At.answers (at_ : here.At socket pipe log) (kept : Collector.Kept n log here.collector)
    (busy : here.collector.current ≠ none) (ready : here.held ≠ [] ∨ Complete n log) :
    here.collect.collector.current = none ∧ here.collect.consumed = log := by
  obtain ⟨taken, rest, server, answer, -, turn, hcollector, at', -⟩ :=
    at_.collect (at_.call_eq busy)
  have still : here.collector.server.records = [] →
      here.collector.server.isComplete = false → False := by
    intro nothing running
    rcases ready with something | complete
    · exact something (List.map_eq_nil_iff.2 nothing)
    · exact kept.books.running running complete
  rw [hcollector, at'.consumed_eq]
  generalize pipe.queue = queue at turn
  cases turn with
  | hand first => exact ⟨rfl, List.append_nil _⟩
  | finish nothing complete => exact ⟨rfl, List.append_nil _⟩
  | starve nothing running => exact (still nothing running).elim
  | take nothing running framed legible => exact (still nothing running).elim
  | choke nothing running illegible => exact (still nothing running).elim

/-- With nothing in hand the call waits for the pipe, and takes the row that is first in it. -/
theorem At.takes (at_ : here.At socket pipe log) (kept : Collector.Kept n log here.collector)
    (busy : here.collector.current ≠ none) (nothing : here.held = [])
    (running : ¬ Complete n log) :
    (here.waiting = [] → here.collect = here) ∧
      ∀ row rest, here.waiting = row :: rest → here.collect.consumed = log ++ [row] := by
  obtain ⟨taken, rest, server, answer, -, turn, hcollector, at', still⟩ :=
    at_.collect (at_.call_eq busy)
  have empty : here.collector.server.records = [] := List.map_eq_nil_iff.1 nothing
  rw [at_.waiting_eq, at'.consumed_eq]
  obtain ⟨uri, queue, isOpen⟩ := pipe
  simp only at turn ⊢
  cases turn with
  | hand first => cases empty.symm.trans first
  | finish _ complete => exact absurd (kept.books.isComplete_iff.1 complete) running
  | starve =>
    refine ⟨fun _ => ?_, nofun⟩
    have hcollector' : here.collect.collector = here.collector := by
      rw [hcollector]
      simp [Collector.Story.turned]
    have hnet := still rfl
    show Traffic.mk here.collect.collector here.collect.net here.arrived = here
    rw [hcollector', hnet]
  | take =>
    refine ⟨nofun, fun row rest h => ?_⟩
    rw [(List.cons.inj h).1]
  | choke =>
    refine ⟨nofun, fun row rest h => ?_⟩
    rw [(List.cons.inj h).1]

/-- **All traffic is accounted for**, whoever pushes what into a collector's pipe, and however often
the collector is asked. -/
theorem traffic_accounted (free : net.lookup uri = none) (runs : Runs (bound net uri n) here)
    (legible : here.IsLegible) : here.Accounted n := by
  obtain ⟨socket, pipe, log, at_, kept'⟩ := runs.kept free
  have hlog := at_.consumed_eq
  have kept : Collector.Kept n log here.collector := kept' (by rwa [IsLegible, hlog] at legible)
  refine ⟨?_, kept.answered, ?_, fun _ there serves legible' => ?_, fun busy ready => ?_,
    fun busy nothing running => ?_⟩
  · rw [hlog, at_.waiting_eq]
    exact at_.arrived
  · rw [hlog]
    exact kept.account
  · obtain ⟨pipe', taken, at', served⟩ := serves.served at_ kept'
    have hlog' := at'.consumed_eq
    rw [IsLegible, hlog'] at legible'
    obtain ⟨-, served⟩ := served legible'
    rw [hlog, hlog']
    refine ⟨taken, rfl, fun idle => ?_⟩
    -- Without a call the collector has answered, and `Served` says how.
    generalize there.collector = story at served idle
    cases served with
    | busy rest => cases idle
    | done answers =>
      have ends := answers.isEnd_iff fun row h => legible' row (List.mem_append_right _ h)
      refine ⟨_, rfl, answers, ends.trans ?_⟩
      unfold held
      rw [List.map_eq_nil_iff]
  · rw [hlog] at ready ⊢
    exact at_.answers kept busy ready
  · rw [hlog] at running ⊢
    exact at_.takes kept busy nothing running

/-- A collector that expects one peer, and what strangers push into its pipe: a peer that never came
goes, somebody ends a stream, two come under one name, one of them sends two records, and one goes.
-/
def strangers : Traffic :=
  let row (m : Message) : Frames := Bytes.ofUInt32 m.kind.code :: m.parts
  (bound { limits := { capacity := 8, connectTimeout := 5000, linger := 1000 } } "in" 1).played <|
    [.unregistration ⟨7⟩, .endOfStream, .registration ⟨7⟩, .registration ⟨7⟩,
      .process [[4, 0, 0, 0], [5, 0, 0, 0, 7]], .unregistration ⟨7⟩].map fun m => .push (row m)

def asked : Traffic :=
  ((strangers.ask.played (.replicate 6 .collect)).ask.played [.collect]).ask.played
    [.collect, .collect]

/-- Both peers count once, so the collector ends its stream when one of them has gone. -/
theorem traffic_accounted_strangers :
    handedOut asked.collector.answered =
        [.process [[4, 0, 0, 0]], .process [[5, 0, 0, 0, 7]], .endOfStream] ∧
      asked.waiting = [] ∧ asked.Accounted 1 := by
  have legible : asked.IsLegible := by
    have hrows : asked.consumed.map Message.ofFrames =
        [.ok (.unregistration ⟨7⟩), .ok .endOfStream, .ok (.registration ⟨7⟩),
          .ok (.registration ⟨7⟩), .ok (.process [[4, 0, 0, 0], [5, 0, 0, 0, 7]]),
          .ok (.unregistration ⟨7⟩)] := by decide +kernel
    intro row hrow
    have hmem := List.mem_map_of_mem (f := Message.ofFrames) hrow
    rw [hrows] at hmem
    simp only [List.mem_cons, List.not_mem_nil, or_false] at hmem
    rcases hmem with framed | framed | framed | framed | framed | framed
    · exact ⟨_, framed, (Word.unregistration _).legible⟩
    · exact ⟨_, framed, nofun, fun h => by rcases h with h | h <;> cases h⟩
    · exact ⟨_, framed, (Word.registration _).legible⟩
    · exact ⟨_, framed, (Word.registration _).legible⟩
    · exact ⟨_, framed, fun _ => ⟨_, rfl⟩, fun h => by rcases h with h | h <;> cases h⟩
    · exact ⟨_, framed, (Word.unregistration _).legible⟩
  have runs : Runs (bound _ "in" 1) asked :=
    (((serves_played _ _).runs.call (by decide +kernel) _).call (by decide +kernel) _).call
      (by decide +kernel) _
  exact ⟨by decide +kernel, by decide +kernel, traffic_accounted rfl runs legible⟩

end Accounts

end Traffic

end Fanin

end RecordFarm
