import RecordFarm.Proofs.Fanout.Heeding

/-!
# How a dispenser runs down

The call in which the end of the stream is reached makes its own deliveries (`Preparing`) and then
goes on to serve the peers by itself. It takes what they say until the queue is drained or one of
them asks to exit, and nothing behind that (`Standing`): it answers each request with the end, lets
peers come and go, and ignores the rest. What it cannot read makes it fail. Everything else on the
network may change between its steps, as long as nobody else takes what has arrived for it
(`Serves`).

Left alone, the call gets from its own deliveries to the rundown (`Preparing.settles`) and through
it (`Tending.proceeds`), and stops for a reason only (`Stuck`): it is answered, nobody speaks, or a
mailbox is full. -/

namespace RecordFarm

namespace Fanout

namespace Dispenser

variable {s : Dispenser} {d : Diary} {net : Network} {router : RouterSocket}

/-! ## One call -/

/-- A dispenser that serves a call, and writes down what it sends. -/
abbrev Serving := Session SinkCall (Dispenser × Diary) Task Reply

def begins (s : Dispenser) (call : SinkCall) : Serving where
  server := (s, {})
  current := some (call, .begin call)

/-- **What a step makes of a call**, and what the diary says of it. -/
theorem serving_step (call : SinkCall) (task : Task) (s : Dispenser) (d : Diary) (net : Network) :
    ∃ d' asked gone, d.Adds d' asked gone ∧
      (∃ result, d'.deeds.getLast? = some ⟨task, s, net, result⟩) ∧
      Does s net task (step task s net) asked gone ∧
      Session.step diary.toService ⟨(s, d), some (call, task), []⟩ net =
        (⟨((step task s net).2.1, d'),
          ((step task s net).1.pending task).map fun rest => (call, rest),
          ((step task s net).1.answer?.map fun result => (call, result)).toList⟩,
          (step task s net).2.2) := by
  obtain ⟨d', asked, gone, adds, last, does, same⟩ := diary_step task s d net
  exact ⟨d', asked, gone, adds, last, does,
    Session.step_eq diary.toService (s := ⟨(s, d), some (call, task), []⟩) rfl same⟩

/-- What a step makes of a call that has no delivery to make. -/
theorem serving_step_of_quiet (call : SinkCall) {task : Task} (d : Diary)
    {progress : Progress Task Reply} {s' : Dispenser} {net' : Network}
    (quiet : ∀ result, Deed.gone? ⟨task, s, net, result⟩ = none)
    (h : step task s net = (progress, s', net')) :
    ∃ d', d'.gone = d.gone ∧ Session.step diary.toService ⟨(s, d), some (call, task), []⟩ net =
      (⟨(s', d'), (progress.pending task).map fun rest => (call, rest),
        (progress.answer?.map fun result => (call, result)).toList⟩, net') := by
  have adds := d.adds_note (posted_step task s net)
  rw [quiet] at adds
  refine ⟨_, adds.gone_of_none, ?_⟩
  have same : diary.step task (s, d) net
      = (progress, (s', d.note ⟨task, s, net, step task s net⟩), net') := by
    simp only [diary, h]
  exact Session.step_eq diary.toService (s := ⟨(s, d), some (call, task), []⟩) rfl same

/-- How a call can stand, what the network is like then, and what has come to the router numbered
`n` for it, waiting ones included that had come before. Others may do anything between two steps but
take what has come. -/
inductive Serves (n : Nat) (first : Serving) (start : Network) :
    Serving → Network → List (ClientId × Frames) → Prop where
  | begin {came : List (ClientId × Frames)} (there : heard n start = some came) :
      Serves n first start first start came
  | step {x : Serving} {net : Network} {came : List (ClientId × Frames)}
      (before : Serves n first start x net came) :
      Serves n first start (x.step diary.toService net).1 (x.step diary.toService net).2 came
  | others {x : Serving} {net net' : Network} {came more : List (ClientId × Frames)}
      (before : Serves n first start x net came)
      (kept : ∀ waiting, heard n net = some waiting → heard n net' = some (waiting ++ more)) :
      Serves n first start x net' (came ++ more)

/-- What a dispenser has done since it began to run down with the queue `q`, when it has read these
messages, these deliveries are due and `own` had been done with before: the messages before were not
enough, the queue has heeded them, and who asked has been told the end. -/
structure Tended (q : Queue) (own : List (Delivery × Bool)) (ms : List Message)
    (due : List Delivery) (server : Dispenser × Diary) : Prop where
  early : ∀ k < ms.length, satisfied q (ms.take k) = false
  queue : server.1.queue = ms.foldl heed q
  sent : ∃ ends, server.2.gone = own ++ ends ∧ ends.map Prod.fst ++ due = ms.flatMap farewells

def Read (taken : List (ClientId × Frames)) (ms : List Message) : Prop :=
  taken.map (fun request => understood request.2) = ms.map Except.ok

/-- How a call stands in which the dispenser has begun to run down, when it has taken these frames
since. -/
inductive Standing (q : Queue) (own : List (Delivery × Bool)) (call : SinkCall) (x : Serving)
    (taken : List (ClientId × Frames)) : Prop where
  /-- It is still at it. -/
  | serving {ms : List Message} {due : List Delivery} (read : Read taken ms)
      (tended : Tended q own ms due x.server) (noExit : ms.any asksToExit = false)
      (held : x.server.1.heldExit = none) (current : x.current = some (call, .deliver due true))
      (answered : x.answered = [])
  /-- The queue is drained. -/
  | drained {ms : List Message} (read : Read taken ms) (tended : Tended q own ms [] x.server)
      (noExit : ms.any asksToExit = false) (enough : satisfied q ms = true)
      (held : x.server.1.heldExit = none) (drained : x.server.1.queue.isDrained = true)
      (current : x.current = none) (answered : x.answered = [(call, .ok none)])
  /-- The last message asked to exit, and is held. -/
  | exited {ms : List Message} {m : Message} (read : Read taken (ms ++ [m]))
      (tended : Tended q own (ms ++ [m]) [] x.server) (noExit : ms.any asksToExit = false)
      (exit : asksToExit m = true) (enough : satisfied q (ms ++ [m]) = true)
      (held : x.server.1.heldExit = some m) (current : x.current = none)
      (answered : x.answered = [(call, .ok none)])
  /-- The last frames could not be read. -/
  | failed {ms : List Message} {before : List (ClientId × Frames)} {bad : ClientId × Frames}
      {cause : Violation} (split : taken = before ++ [bad]) (read : Read before ms)
      (unreadable : understood bad.2 = .error cause) (tended : Tended q own ms [] x.server)
      (unsatisfied : satisfied q ms = false) (held : x.server.1.heldExit = none)
      (current : x.current = none) (answered : x.answered = [(call, .error (.violation cause))])

/-- A dispenser that has begun to run down when it was done with its own deliveries: only ends had
no peer to take them. -/
structure Running (router : RouterSocket) (due : List Delivery) (own : List (Delivery × Bool))
    (s : Dispenser) : Prop where
  bound : s.router = some router
  isOver : s.queue.Over
  ranDown : s.ranDown = true
  mine : own.map Prod.fst = due
  missed : ∀ y ∈ own, y.2 = false → y.1.2.isEnd = true

/-- How a call stands that has begun to run the dispenser down, what waits at the router, and what
has come to it: what was taken and what waits. -/
structure Tending (router : RouterSocket) (q : Queue) (due : List Delivery)
    (own : List (Delivery × Bool)) (call : SinkCall) (x : Serving)
    (waiting came : List (ClientId × Frames)) : Prop where
  running : Running router due own x.server.1
  standing : ∃ taken, came = taken ++ waiting ∧ Standing q own call x taken

/-- How a call stands in which the end of the stream is reached and the rundown has not begun. -/
inductive Preparing (router : RouterSocket) (first : Dispenser) (call : SinkCall)
    (due : List Delivery) (q : Queue) : Serving → Prop where
  | begun : Preparing router first call due q (begins first call)
  /-- What the call itself made due is being delivered. -/
  | owing {s : Dispenser} {d : Diary} {left : List Delivery} (bound : s.router = some router)
      (queue : s.queue = q) (fresh : s.ranDown = false) (held : s.heldExit = none)
      (parted : d.gone.map Prod.fst ++ left = due)
      (missed : ∀ y ∈ d.gone, y.2 = false → y.1.2.isEnd = true) :
      Preparing router first call due q ⟨(s, d), some (call, .deliver left false), []⟩
  /-- One of these deliveries failed: its message does not fit into frames, or it is no end and its
  client had no mailbox then. -/
  | refused {s : Dispenser} {d : Diary} {cause : Error} {x : Delivery} {left : List Delivery}
      {t : Deed} (fresh : s.ranDown = false) (parted : d.gone.map Prod.fst ++ x :: left = due)
      (last : d.deeds.getLast? = some t)
      (why : (∃ cause, x.2.toFramesBatched = .error cause) ∨
        router.mailbox? x.1 t.net = none ∧ x.2.isEnd = false) :
      Preparing router first call due q ⟨(s, d), none, [(call, .error cause)]⟩

/-- How a call stands in which the end of the stream is reached, what waits at the router, and what
has come to it. -/
inductive Stage (router : RouterSocket) (first : Dispenser) (call : SinkCall) (due : List Delivery)
    (q : Queue) (x : Serving) (waiting : List (ClientId × Frames)) :
    List (ClientId × Frames) → Prop where
  /-- Nothing was taken of what has come. -/
  | preparing (preparing : Preparing router first call due q x) :
      Stage router first call due q x waiting waiting
  | tending {own : List (Delivery × Bool)} {came : List (ClientId × Frames)}
      (tending : Tending router q due own call x waiting came) :
      Stage router first call due q x waiting came

/-- Why a call does not go on by itself. -/
inductive Stuck (router : RouterSocket) (call : SinkCall) (x : Serving) (net : Network) : Prop where
  /-- It has been answered. -/
  | answered (current : x.current = none)
  /-- The queue is not drained, and nobody has said anything more. -/
  | silent (current : x.current = some (call, .deliver [] true))
      (owes : x.server.1.queue.isDrained = false) (there : heard router.number net = some [])
  /-- There is no room in the mailbox of the client to whom something is due. -/
  | full {y : Delivery} {left : List Delivery} {runningDown : Bool} {mailbox : Nat}
      (current : x.current = some (call, .deliver (y :: left) runningDown))
      (here : router.mailbox? y.1 net = some mailbox) (full : router.isFull mailbox net = true)

/-- A bound on the steps that a call can make by itself, when so much waits at the router. -/
def load (x : Serving) (waiting : List (ClientId × Frames)) : Nat :=
  2 * waiting.length +
    match x.current with
    | some (_, .deliver due _) => due.length + 1
    | _ => 0

/-- One more request was taken and understood. -/
theorem Read.snoc {taken : List (ClientId × Frames)} {ms : List Message}
    {request : ClientId × Frames} {m : Message} (read : Read taken ms)
    (now : understood request.2 = .ok m) : Read (taken ++ [request]) (ms ++ [m]) := by
  unfold Read at read ⊢
  rw [List.map_append, List.map_append, read, List.map_singleton, now, List.map_singleton]

/-- Nothing has been read yet. -/
theorem Tended.start {q : Queue} {own : List (Delivery × Bool)} (queue : s.queue = q)
    (gone : d.gone = own) : Tended q own [] [] (s, d) where
  early := nofun
  queue := queue
  sent := ⟨[], gone.trans (List.append_nil _).symm, rfl⟩

/-- What else is written down, and what else the dispenser notes, makes no difference. -/
theorem Tended.of_same {q : Queue} {own : List (Delivery × Bool)} {ms : List Message}
    {due : List Delivery} (tended : Tended q own ms due (s, d)) {s' : Dispenser} {d' : Diary}
    (queue : s'.queue = s.queue) (gone : d'.gone = d.gone) : Tended q own ms due (s', d') where
  early := tended.early
  queue := queue.trans tended.queue
  sent := by
    rw [gone]
    exact tended.sent

/-- The next message is heeded by the queue while this is not satisfied, and its farewells fall due.
-/
theorem Tended.snoc {q : Queue} {own : List (Delivery × Bool)} {ms : List Message} {m : Message}
    {s' : Dispenser} (tended : Tended q own ms [] (s, d)) (unsatisfied : satisfied q ms = false)
    (queue : s'.queue = heed s.queue m) : Tended q own (ms ++ [m]) (farewells m) (s', d) where
  early := by
    intro k hk
    rw [List.length_append, List.length_singleton] at hk
    rcases Nat.lt_or_eq_of_le (Nat.le_of_lt_succ hk) with before | rfl
    · rw [List.take_append_of_le_length (Nat.le_of_lt before)]
      exact tended.early k before
    · rw [List.take_left]
      exact unsatisfied
  queue := by rw [queue, tended.queue, List.foldl_append]; rfl
  sent := by
    obtain ⟨ends, past, told⟩ := tended.sent
    refine ⟨ends, past, ?_⟩
    rw [List.append_nil] at told
    rw [told, List.flatMap_append, List.flatMap_singleton]

/-- A request to exit is heard, and held. -/
theorem Tended.snoc_exit {q : Queue} {own : List (Delivery × Bool)} {ms : List Message}
    {m : Message} (tended : Tended q own ms [] (s, d)) (unsatisfied : satisfied q ms = false)
    (exit : asksToExit m = true) :
    Tended q own (ms ++ [m]) [] ({ s with heldExit := some m }, d) := by
  have nothing := ofPeer?_of_asksToExit exit
  have heeded : s.queue = heed s.queue m := by rw [heed, nothing]
  have told : Tended q own (ms ++ [m]) (farewells m) ({ s with heldExit := some m }, d) :=
    tended.snoc unsatisfied heeded
  rwa [farewells, nothing] at told

/-- A farewell that is done with is due no more. -/
theorem Tended.part {q : Queue} {own : List (Delivery × Bool)} {ms : List Message} {x : Delivery}
    {due : List Delivery} {there : Bool} {s' : Dispenser} {d' : Diary}
    (tended : Tended q own ms (x :: due) (s, d)) (adds : d.Adds d' none (some (x, there)))
    (queue : s'.queue = s.queue) : Tended q own ms due (s', d') where
  early := tended.early
  queue := queue.trans tended.queue
  sent := by
    obtain ⟨ends, past, told⟩ := tended.sent
    refine ⟨ends ++ [(x, there)], ?_, ?_⟩
    · show d'.gone = _
      rw [adds.gone, show d.gone = own ++ ends from past, List.append_assoc, Option.toList_some]
    · rw [← told, List.map_append, List.append_assoc]
      rfl

/-- Nothing but an end is due in the rundown. -/
theorem Tended.endOfStream {q : Queue} {own : List (Delivery × Bool)} {ms : List Message}
    {x : Delivery} {due : List Delivery} (tended : Tended q own ms (x :: due) (s, d)) :
    x.2 = .endOfStream := by
  obtain ⟨ends, -, told⟩ := tended.sent
  have mem : x ∈ ms.flatMap farewells := by
    rw [← told]
    exact List.mem_append_right _ List.mem_cons_self
  obtain ⟨m, -, hx⟩ := List.mem_flatMap.1 mem
  unfold farewells at hx
  split at hx
  · rw [List.mem_singleton.1 hx]
  · cases hx

/-- A call of this dispenser in which the end of the stream is reached. -/
structure Ending (router : RouterSocket) (first : Dispenser) (call : SinkCall) (due : List Delivery)
    (q : Queue) : Prop where
  sound : Sound first
  bound : first.router = some router
  running : first.queue.rundown = false
  called : ∃ c, Call.ofSink? call = some c ∧ first.queue.call c = (.ok due, q)
  ended : q.rundown = true

namespace Ending

variable {first : Dispenser} {call : SinkCall} {due : List Delivery} {q : Queue}

theorem isOver (ending : Ending router first call due q) : q.Over := by
  obtain ⟨c, -, called⟩ := ending.called
  have same : (first.queue.call c).2 = q := by rw [called]
  rw [← same]
  exact Queue.over_of_call ending.running (by rw [same]; exact ending.ended)

theorem fresh (ending : Ending router first call due q) : first.ranDown = false := by
  rw [Bool.eq_false_iff]
  intro begun
  have ended := ending.sound.begun begun
  rw [ending.running] at ended
  cases ended

theorem held (ending : Ending router first call due q) : first.heldExit = none := by
  cases held : first.heldExit with
  | none => rfl
  | some m =>
    have begun := ending.sound.held (by rw [held]; nofun)
    rw [ending.fresh] at begun
    cases begun

/-- With its first step the call asks the queue, and what this makes due is to be delivered. -/
theorem step (ending : Ending router first call due q) (net : Network) :
    Dispenser.step (.begin call) first net
      = (.working (.deliver due false), { first with queue := q }, net) := by
  obtain ⟨c, asks, called⟩ := ending.called
  cases call with
  | send m | request id | unregister id =>
    cases asks
    simp only [Queue.call] at called
    simp only [Dispenser.step, called, afterQueue]
  | register id =>
    cases asks
    cases called
    exact absurd (ending.running.symm.trans ending.ended) Bool.false_ne_true
  | _ => cases asks

end Ending

section Stage

variable {first : Dispenser} {call : SinkCall} {due : List Delivery} {q : Queue} {x : Serving}
  {waiting came : List (ClientId × Frames)}

/-! ### Before the rundown -/

/-- When its own deliveries are done with, the call turns to the rundown. -/
theorem Preparing.turn (net : Network) (came : List (ClientId × Frames))
    (ending : Ending router first call due q) (bound : s.router = some router)
    (queue : s.queue = q) (fresh : s.ranDown = false) (held : s.heldExit = none)
    (parted : d.gone.map Prod.fst = due)
    (missed : ∀ y ∈ d.gone, y.2 = false → y.1.2.isEnd = true) :
    let after := Session.step diary.toService ⟨(s, d), some (call, .deliver [] false), []⟩ net
    after.2 = net ∧ Tending router q due d.gone call after.1 came came := by
  intro after
  obtain ⟨d', asked, gone, adds, -, does, same⟩ := serving_step call (.deliver [] false) s d net
  rw [show after = _ from same]
  generalize step (.deliver [] false) s net = stepped at does
  cases does with
  | runsDown ended first =>
    have running : Running router due d.gone { s with ranDown := true } :=
      ⟨bound, queue ▸ ending.isOver, rfl, parted, missed⟩
    have tended : Tended q d.gone [] [] ({ s with ranDown := true }, d') :=
      .start queue adds.gone_of_none
    have read : Read [] [] := rfl
    exact ⟨rfl, running, [], rfl, .serving read tended rfl held rfl rfl⟩
  | ends later =>
    rw [later (queue ▸ ending.ended)] at fresh
    cases fresh

/-- One of its own deliveries is made, or fails, or there is no room for it. -/
theorem Preparing.step_owing (first : Dispenser) (call : SinkCall) (net : Network) {y : Delivery}
    {left : List Delivery} (bound : s.router = some router) (queue : s.queue = q)
    (fresh : s.ranDown = false) (held : s.heldExit = none)
    (parted : d.gone.map Prod.fst ++ y :: left = due)
    (missed : ∀ y ∈ d.gone, y.2 = false → y.1.2.isEnd = true) :
    let before : Serving := ⟨(s, d), some (call, .deliver (y :: left) false), []⟩
    let after := before.step diary.toService net
    heard router.number after.2 = heard router.number net ∧
      Preparing router first call due q after.1 ∧
      (Stuck router call before net ∨ Stuck router call after.1 after.2 ∨
        after.1.current = some (call, .deliver left false)) := by
  intro before after
  obtain ⟨d', asked, gone, adds, ⟨_, last⟩, does, same⟩ :=
    serving_step call (.deliver (y :: left) false) s d net
  have part : ∀ there, d.Adds d' none (some (y, there)) → d'.gone.map Prod.fst ++ left = due := by
    intro there adds
    rw [← parted, adds.gone, List.map_append, List.append_assoc]
    rfl
  have missed' : ∀ there, d.Adds d' none (some (y, there)) → (there = false → y.2.isEnd = true) →
      ∀ y ∈ d'.gone, y.2 = false → y.1.2.isEnd = true := by
    intro there adds isEnd z hz
    rw [adds.gone, Option.toList_some] at hz
    rcases List.mem_append.1 hz with old | new
    · exact missed z old
    · rw [List.mem_singleton.1 new]
      exact isEnd
  rw [show after = _ from same]
  generalize step (.deliver (y :: left) false) s net = stepped at does
  cases does with
  -- Nothing is done while there is no room, and the call would stay as it is.
  | stops bound' here full =>
    cases bound.symm.trans bound'
    refine ⟨rfl, .owing bound queue fresh held ?_ ?_, Or.inl (.full rfl here full)⟩
    · rw [adds.gone_of_none, parted]
    · rwa [adds.gone_of_none]
  | hands bound' framed here lays inbound =>
    exact ⟨inbound _, .owing bound queue fresh held (part true adds) (missed' true adds nofun),
      Or.inr (Or.inr rfl)⟩
  | misses away isEnd =>
    exact ⟨rfl, .owing bound queue fresh held (part false adds) (missed' false adds fun _ => isEnd),
      Or.inr (Or.inr rfl)⟩
  | refuses why =>
    refine ⟨rfl, .refused fresh (by rw [adds.gone_of_none, parted]) last ?_,
      Or.inr (Or.inl (.answered rfl))⟩
    -- The router is bound, so either the message does not fit or its client is away.
    refine why.imp_right fun why => ?_
    rcases why with unbound | ⟨away, notEnd⟩
    · cases bound.symm.trans unbound
    · rw [mailbox?, bound] at away
      exact ⟨away, notEnd⟩

/-! ### In the rundown -/

/-- One peer more is told the end, or there is no room for it. -/
theorem Tending.step_telling {own : List (Delivery × Bool)} {ms : List Message} {y : Delivery}
    {left : List Delivery} {taken : List (ClientId × Frames)}
    (running : Running router due own s) (read : Read taken ms)
    (tended : Tended q own ms (y :: left) (s, d)) (noExit : ms.any asksToExit = false)
    (held : s.heldExit = none) (there : heard router.number net = some waiting) :
    let before : Serving := ⟨(s, d), some (call, .deliver (y :: left) true), []⟩
    let after := before.step diary.toService net
    heard router.number after.2 = some waiting ∧
      Tending router q due own call after.1 waiting (taken ++ waiting) ∧
      (Stuck router call before net ∨ load after.1 waiting < load before waiting) := by
  intro before after
  obtain ⟨d', asked, gone, adds, -, does, same⟩ :=
    serving_step call (.deliver (y :: left) true) s d net
  rw [show after = _ from same]
  generalize step (.deliver (y :: left) true) s net = stepped at does
  cases does with
  | stops bound here full =>
    cases running.bound.symm.trans bound
    have told := tended.of_same rfl adds.gone_of_none
    exact ⟨there, ⟨running, taken, rfl, .serving read told noExit held rfl rfl⟩,
      Or.inl (.full rfl here full)⟩
  | hands bound framed here lays inbound =>
    have told : Tended q own ms left ({ s with delivered := s.delivered + 1 }, d') :=
      tended.part adds rfl
    exact ⟨(inbound _).trans there,
      ⟨⟨running.bound, running.isOver, running.ranDown, running.mine, running.missed⟩, taken, rfl,
        .serving read told noExit held rfl rfl⟩, Or.inr (Nat.lt_succ_self _)⟩
  | misses away isEnd =>
    exact ⟨there, ⟨running, taken, rfl, .serving read (tended.part adds rfl) noExit held rfl rfl⟩,
      Or.inr (Nat.lt_succ_self _)⟩
  | refuses why =>
    -- An end always fits into frames, and nobody has to be there to take it.
    have isEnd : y.2 = .endOfStream := tended.endOfStream
    rw [Refuses, isEnd] at why
    rcases why with ⟨cause, unframed⟩ | unbound | ⟨-, notEnd⟩
    · cases toFramesBatched_endOfStream.symm.trans unframed
    · cases running.bound.symm.trans unbound
    · cases notEnd

/-- The dispenser takes what has waited longest. -/
theorem Tending.step_hearing (call : SinkCall) {own : List (Delivery × Bool)} {ms : List Message}
    {taken rest : List (ClientId × Frames)} {request : ClientId × Frames}
    (running : Running router due own s) (read : Read taken ms)
    (tended : Tended q own ms [] (s, d)) (noExit : ms.any asksToExit = false)
    (held : s.heldExit = none) (owes : s.queue.isDrained = false)
    (unsatisfied : satisfied q ms = false)
    (there : heard router.number net = some (request :: rest)) :
    let before : Serving := ⟨(s, d), some (call, .deliver [] true), []⟩
    let after := before.step diary.toService net
    heard router.number after.2 = some rest ∧
      Tending router q due own call after.1 rest (taken ++ request :: rest) ∧
      load after.1 rest < load before (request :: rest) := by
  intro before after
  have heeds := step_of_request running.isOver owes running.bound there
  have there' := heard_taken there rest
  have past : taken ++ request :: rest = (taken ++ [request]) ++ rest := by
    rw [List.append_assoc]
    rfl
  have less : ∀ n, n ≤ 2 → 2 * rest.length + n < load before (request :: rest) := by
    intro n hn
    show _ < 2 * (rest.length + 1) + 1
    omega
  cases hread : understood request.2 with
  -- What cannot be understood ends the call with an error, but it is taken all the same.
  | error cause =>
    simp only [hread, answer] at heeds
    obtain ⟨d', gone, same⟩ := serving_step_of_quiet call d (fun _ => rfl) heeds
    rw [show after = _ from same]
    have told : Tended q own ms [] (s, d') := tended.of_same rfl gone
    exact ⟨there', ⟨running, _, past, .failed rfl read hread told unsatisfied held rfl rfl⟩,
      less 0 (Nat.zero_le _)⟩
  | ok m =>
    simp only [hread] at heeds
    cases exit : asksToExit m with
    | true =>
      -- The request to exit is held, and the rundown is over.
      have enough : satisfied q (ms ++ [m]) = true := by
        rw [satisfied, List.any_append, List.any_cons, exit, Bool.true_or, Bool.or_true,
          Bool.or_true]
      simp only [exit, if_true, answer] at heeds
      obtain ⟨d', gone, same⟩ := serving_step_of_quiet call d (fun _ => rfl) heeds
      rw [show after = _ from same]
      have told : Tended q own ms [] (s, d') := tended.of_same rfl gone
      exact ⟨there',
        ⟨⟨running.bound, running.isOver, running.ranDown, running.mine, running.missed⟩, _, past,
          .exited (read.snoc hread) (told.snoc_exit unsatisfied exit) noExit exit enough rfl rfl
            rfl⟩,
        less 0 (Nat.zero_le _)⟩
    | false =>
      -- The queue heeds the message, and the ends that are due now come before the next one.
      have noExit' : (ms ++ [m]).any asksToExit = false := by
        rw [List.any_append, noExit, List.any_cons, exit]
        rfl
      simp only [exit, Bool.false_eq_true, if_false] at heeds
      obtain ⟨d', gone, same⟩ := serving_step_of_quiet call d (fun _ => rfl) heeds
      rw [show after = _ from same]
      have told : Tended q own ms [] (s, d') := tended.of_same rfl gone
      exact ⟨there',
        ⟨⟨running.bound, running.isOver.heed m, running.ranDown, running.mine, running.missed⟩, _,
          past, .serving (read.snoc hread) (told.snoc unsatisfied rfl) noExit' held rfl rfl⟩,
        less _ (Nat.succ_le_succ (length_farewells_le m))⟩

/-- The dispenser is done, or takes what has waited longest, or nobody has said anything more. -/
theorem Tending.step_taking {own : List (Delivery × Bool)} {ms : List Message}
    {taken : List (ClientId × Frames)} (running : Running router due own s)
    (read : Read taken ms) (tended : Tended q own ms [] (s, d))
    (noExit : ms.any asksToExit = false) (held : s.heldExit = none)
    (there : heard router.number net = some waiting) :
    let before : Serving := ⟨(s, d), some (call, .deliver [] true), []⟩
    let after := before.step diary.toService net
    ∃ waiting', heard router.number after.2 = some waiting' ∧
      Tending router q due own call after.1 waiting' (taken ++ waiting) ∧
      (Stuck router call before net ∨ load after.1 waiting' < load before waiting) := by
  intro before after
  cases owes : s.queue.isDrained with
  | true =>
    obtain ⟨d', gone, same⟩ := serving_step_of_quiet call d (fun _ => rfl) (step_of_drained owes)
    rw [show after = _ from same]
    have told : Tended q own ms [] (s, d') := tended.of_same rfl gone
    have enough : satisfied q ms = true := by
      rw [satisfied, ← tended.queue, owes]
      rfl
    exact ⟨waiting, there,
      ⟨running, taken, rfl, .drained read told noExit enough held owes rfl rfl⟩,
      Or.inr (Nat.lt_succ_self _)⟩
  | false =>
    have unsatisfied : satisfied q ms = false := by
      rw [satisfied, ← tended.queue, owes, noExit]
      rfl
    cases waiting with
    | nil =>
      obtain ⟨d', gone, same⟩ :=
        serving_step_of_quiet call d (fun _ => rfl) (step_of_nothing owes running.bound there)
      rw [show after = _ from same]
      have told : Tended q own ms [] (s, d') := tended.of_same rfl gone
      exact ⟨[], there, ⟨running, taken, rfl, .serving read told noExit held rfl rfl⟩,
        Or.inl (.silent rfl owes there)⟩
    | cons request rest =>
      obtain ⟨there', tending, less⟩ :=
        Tending.step_hearing call running read tended noExit held owes unsatisfied there
      exact ⟨rest, there', tending, Or.inr less⟩

/-- **A step of a call that has begun to run the dispenser down.** It goes on with that, and there
is less left to do, unless it is stuck. -/
theorem Tending.step {own : List (Delivery × Bool)}
    (tending : Tending router q due own call x waiting came)
    (there : heard router.number net = some waiting) :
    ∃ waiting', heard router.number (x.step diary.toService net).2 = some waiting' ∧
      Tending router q due own call (x.step diary.toService net).1 waiting' came ∧
      (Stuck router call x net ∨
        load (x.step diary.toService net).1 waiting' < load x waiting) := by
  have rests : x.current = none → ∃ waiting', heard router.number (x.step diary.toService net).2
        = some waiting' ∧
      Tending router q due own call (x.step diary.toService net).1 waiting' came ∧
      (Stuck router call x net ∨
        load (x.step diary.toService net).1 waiting' < load x waiting) := by
    intro idle
    rw [Session.step_of_idle _ idle]
    exact ⟨waiting, there, tending, Or.inl (.answered idle)⟩
  obtain ⟨running, taken, rfl, standing⟩ := tending
  cases standing with
  | @serving ms left read tended noExit held current answered =>
    obtain ⟨⟨s, d⟩, pending, answers⟩ := x
    obtain rfl : pending = _ := current
    obtain rfl : answers = [] := answered
    cases left with
    | nil => exact Tending.step_taking running read tended noExit held there
    | cons e left => exact ⟨waiting, Tending.step_telling running read tended noExit held there⟩
  | drained _ _ _ _ _ _ idle _ => exact rests idle
  | exited _ _ _ _ _ _ idle _ => exact rests idle
  | failed _ _ _ _ _ _ idle _ => exact rests idle

def alone (x : Serving) (net : Network) : Nat → Serving × Network
  | 0 => (x, net)
  | count + 1 => alone (x.step diary.toService net).1 (x.step diary.toService net).2 count

/-- **A call that runs the dispenser down goes on until it is stuck**, and soon is. Induction on
what is left to do. -/
theorem Tending.proceeds {own : List (Delivery × Bool)}
    (tending : Tending router q due own call x waiting came)
    (there : heard router.number net = some waiting) :
    ∃ count ≤ load x waiting, ∃ waiting',
      heard router.number (alone x net count).2 = some waiting' ∧
      Tending router q due own call (alone x net count).1 waiting' came ∧
      Stuck router call (alone x net count).1 (alone x net count).2 := by
  induction hload : load x waiting using Nat.strongRecOn generalizing x net waiting with
  | ind n ih =>
    subst hload
    obtain ⟨waiting', there', tending', stuck | less⟩ := tending.step there
    · exact ⟨0, Nat.zero_le _, waiting, there, tending, stuck⟩
    · obtain ⟨count, hcount, goesOn⟩ := ih _ less tending' there' rfl
      exact ⟨count + 1, Nat.lt_of_le_of_lt hcount less, goesOn⟩

/-! ### From one to the other -/

/-- The call is asked, and its own deliveries become due. -/
theorem Preparing.step_begun (ending : Ending router first call due q) (net : Network) :
    ∃ d : Diary, d.gone = [] ∧ (begins first call).step diary.toService net
      = (⟨({ first with queue := q }, d), some (call, .deliver due false), []⟩, net) := by
  obtain ⟨d, gone, same⟩ := serving_step_of_quiet call {} (fun _ => rfl) (ending.step net)
  exact ⟨d, gone, same⟩

/-- **A step keeps to the stages.** -/
theorem Stage.step (ending : Ending router first call due q)
    (stage : Stage router first call due q x waiting came)
    (there : heard router.number net = some waiting) :
    ∃ waiting', heard router.number (x.step diary.toService net).2 = some waiting' ∧
      Stage router first call due q (x.step diary.toService net).1 waiting' came := by
  cases stage with
  | tending tending =>
    obtain ⟨waiting', there', tending', -⟩ := tending.step there
    exact ⟨waiting', there', .tending tending'⟩
  | preparing preparing =>
    cases preparing with
    | begun =>
      obtain ⟨d, gone, same⟩ := Preparing.step_begun ending net
      rw [same]
      exact ⟨_, there, .preparing (.owing ending.bound rfl ending.fresh ending.held
        (by rw [gone]; rfl) (by rw [gone]; nofun))⟩
    | @owing s d left bound queue fresh held parted missed =>
      cases left with
      | nil =>
        rw [List.append_nil] at parted
        obtain ⟨same, tending⟩ :=
          Preparing.turn net _ ending bound queue fresh held parted missed
        exact ⟨_, (congrArg _ same).trans there, .tending tending⟩
      | cons y left =>
        obtain ⟨same, preparing, -⟩ :=
          Preparing.step_owing first call net bound queue fresh held parted missed
        exact ⟨_, same.trans there, .preparing preparing⟩
    | refused fresh parted last why =>
      rw [Session.step_of_idle _ rfl]
      exact ⟨_, there, .preparing (.refused fresh parted last why)⟩

/-- A call in which the end of the stream is reached goes through the stages. -/
theorem Serves.stage (ending : Ending router first call due q) {start : Network}
    (serves : Serves router.number (begins first call) start x net came) :
    ∃ waiting, heard router.number net = some waiting ∧
      Stage router first call due q x waiting came := by
  induction serves with
  | begin there => exact ⟨_, there, .preparing .begun⟩
  | step before ih =>
    obtain ⟨waiting, there, stage⟩ := ih
    exact stage.step ending there
  | @others x net net' came more before kept ih =>
    obtain ⟨waiting, there, stage⟩ := ih
    refine ⟨waiting ++ more, kept waiting there, ?_⟩
    cases stage with
    | preparing preparing => exact .preparing preparing
    | tending tending =>
      obtain ⟨running, taken, rfl, standing⟩ := tending
      exact .tending ⟨running, taken, List.append_assoc .., standing⟩

/-- Everything that such a call hands out is posted. -/
theorem Serves.posted {n : Nat} {s : Dispenser} {start : Network}
    (serves : Serves n (begins s call) start x net came) : x.server.2.Posted := by
  induction serves with
  | begin => exact fun _ h => absurd h List.not_mem_nil
  | others before kept ih => exact ih
  | @step x net came before ih =>
    cases hcurrent : x.current with
    | none =>
      rw [Session.step_of_idle _ hcurrent]
      exact ih
    | some pending =>
      obtain ⟨call, task⟩ := pending
      obtain ⟨d', _, _, adds, -, -, same⟩ := diary_step task x.server.1 x.server.2 net
      rw [Session.step_of_current _ hcurrent,
        show diary.toService.step task x.server net = _ from same]
      exact adds.posted ih

/-- While the call is only preparing, the rundown has not begun. -/
theorem Preparing.ranDown (ending : Ending router first call due q)
    (preparing : Preparing router first call due q x) : x.server.1.ranDown = false := by
  cases preparing with
  | begun => exact ending.fresh
  | owing _ _ fresh => exact fresh
  | refused fresh => exact fresh

/-- What can be said of a call that is left alone for some steps: it has turned to the rundown, or
one of its own deliveries has failed, or has no room. -/
def Settles (router : RouterSocket) (first : Dispenser) (call : SinkCall) (due : List Delivery)
    (q : Queue) (x : Serving) (net : Network) (bound : Nat) : Prop :=
  ∃ count ≤ bound, (alone x net count).1.server.1.ranDown = true ∨
    Preparing router first call due q (alone x net count).1 ∧
      Stuck router call (alone x net count).1 (alone x net count).2

theorem Settles.succ {bound : Nat}
    (settles : Settles router first call due q (x.step diary.toService net).1
      (x.step diary.toService net).2 bound) :
    Settles router first call due q x net (bound + 1) := by
  obtain ⟨count, hcount, settled⟩ := settles
  exact ⟨count + 1, Nat.succ_le_succ hcount, settled⟩

theorem Settles.mono {fewer more : Nat} (settles : Settles router first call due q x net fewer)
    (h : fewer ≤ more) : Settles router first call due q x net more := by
  obtain ⟨count, hcount, settled⟩ := settles
  exact ⟨count, Nat.le_trans hcount h, settled⟩

/-- What is due is delivered one by one, until the rundown begins. Induction on what is due. -/
theorem Preparing.settles_owing (ending : Ending router first call due q) {left : List Delivery}
    (bound : s.router = some router) (queue : s.queue = q) (fresh : s.ranDown = false)
    (held : s.heldExit = none) (parted : d.gone.map Prod.fst ++ left = due)
    (missed : ∀ y ∈ d.gone, y.2 = false → y.1.2.isEnd = true) :
    Settles router first call due q ⟨(s, d), some (call, .deliver left false), []⟩ net
      (left.length + 1) := by
  induction left generalizing s d net with
  | nil =>
    rw [List.append_nil] at parted
    obtain ⟨-, tending⟩ := Preparing.turn net [] ending bound queue fresh held parted missed
    exact ⟨1, Nat.le_refl _, Or.inl tending.running.ranDown⟩
  | cons y left ih =>
    obtain ⟨-, preparing, stuck | stuck | goesOn⟩ :=
      Preparing.step_owing first call net bound queue fresh held parted missed
    · exact ⟨0, Nat.zero_le _, Or.inr ⟨.owing bound queue fresh held parted missed, stuck⟩⟩
    · exact ⟨1, Nat.succ_le_succ (Nat.zero_le _), Or.inr ⟨preparing, stuck⟩⟩
    · refine Settles.succ ?_
      generalize Session.step diary.toService _ net = after at preparing goesOn
      obtain ⟨x, net'⟩ := after
      cases preparing with
      | begun => cases goesOn
      | refused => cases goesOn
      | owing bound queue fresh held parted missed =>
        cases goesOn
        exact ih bound queue fresh held parted missed

/-- **Left alone, a call makes its own deliveries and turns to the rundown**, unless one of them
fails or has to wait for room. -/
theorem Preparing.settles (ending : Ending router first call due q)
    (preparing : Preparing router first call due q x) (net : Network) :
    Settles router first call due q x net (due.length + 2) := by
  cases preparing with
  | begun =>
    refine Settles.succ ?_
    obtain ⟨d, gone, same⟩ := Preparing.step_begun ending net
    rw [same]
    exact Preparing.settles_owing ending ending.bound rfl ending.fresh ending.held
      (by rw [gone]; rfl) (by rw [gone]; nofun)
  | @owing s d left bound queue fresh held parted missed =>
    refine (Preparing.settles_owing ending bound queue fresh held parted missed).mono ?_
    rw [← parted, List.length_append]
    omega
  | refused fresh parted last why =>
    exact ⟨0, Nat.zero_le _, Or.inr ⟨.refused fresh parted last why, .answered rfl⟩⟩

/-- What a call that is left alone can come to. -/
theorem Serves.alone {n : Nat} {begun : Serving} {start : Network}
    (serves : Serves n begun start x net came) (count : Nat) :
    Serves n begun start (alone x net count).1 (alone x net count).2 came := by
  induction count generalizing x net with
  | zero => exact serves
  | succ count ih => exact ih serves.step

end Stage

/-! ## Any use -/

def used (uri : String) (expected : Nat) (isBarrier : Message → Bool) (highWaterMark : Nat)
    (moves : List (Session.Move Network SinkCall)) : Session SinkCall Dispenser Task Reply :=
  Session.after sink.toService { server := .new uri (.new expected isBarrier) highWaterMark } moves

/-- **The rundown takes what it needs, and nothing behind it.** Let a dispenser have been used in
any way, and let the end of the stream be reached in a call of it. At all times of this call,
whatever others do meanwhile:

* Every delivery that is done with is one new row in the mailbox of its client, or an end for
  somebody who has no mailbox, and nothing is put anywhere else (`Diary.Posted`).
* Before the rundown the call makes its own deliveries, and nothing is taken of what comes to the
  router (`Preparing`). Left alone, it begins the rundown after so many steps at most, unless one of
  these deliveries fails, and the call with it, or has to wait for room in a mailbox (`Settles`).
* In the rundown, what has been taken is a beginning of what has come. As long as the call serves,
  no shorter beginning drained the queue or asked to exit, and the call has ended well as soon as
  what was taken did. Every request is answered with an end, unless its peer has no mailbox, and
  nothing else is delivered. What cannot be read makes the call fail (`Standing`).
* Left alone in the rundown, the call goes on until it is answered, or has taken all that has come,
  or there is no room for an end (`Stuck`).
* When it is answered, the dispenser never runs down again. A request to exit that cut the rundown
  short is held until somebody asks for what a peer said, who gets it at once; it is given once. -/
theorem runs_down_exactly (uri : String) (expected : Nat) (isBarrier : Message → Bool)
    (highWaterMark : Nat) (moves : List (Session.Move Network SinkCall)) {router : RouterSocket}
    (bound : (used uri expected isBarrier highWaterMark moves).server.router = some router)
    (running : (used uri expected isBarrier highWaterMark moves).server.queue.rundown = false)
    {call : SinkCall} {c : Call} (asks : Call.ofSink? call = some c) {due : List Delivery}
    {q : Queue}
    (called : (used uri expected isBarrier highWaterMark moves).server.queue.call c = (.ok due, q))
    (ended : q.rundown = true) {x : Serving} {start net : Network}
    {came : List (ClientId × Frames)}
    (serves : Serves router.number
      (begins (used uri expected isBarrier highWaterMark moves).server call) start x net came) :
    let first := (used uri expected isBarrier highWaterMark moves).server
    x.server.2.Posted ∧
    (x.server.1.ranDown = false → heard router.number net = some came ∧
      Preparing router first call due q x ∧
      Settles router first call due q x net (due.length + 2)) ∧
    (x.server.1.ranDown = true → ∃ own waiting, heard router.number net = some waiting ∧
      Tending router q due own call x waiting came ∧
      (∃ count ≤ load x waiting, ∃ waiting',
        heard router.number (alone x net count).2 = some waiting' ∧
        Tending router q due own call (alone x net count).1 waiting' came ∧
        Stuck router call (alone x net count).1 (alone x net count).2) ∧
      (x.current = none → ∀ later,
        let y := Session.after sink.toService { server := x.server.1 } later
        Past x.server.1.heldExit y ∧
        ∀ call m net, Fetches call → y.server.heldExit = some m →
          step (.begin call) y.server net
            = (.finished (.ok (some m)), { y.server with heldExit := none }, net))) := by
  intro first
  have orderly := orderly_after uri expected isBarrier highWaterMark moves
  have ending : Ending router first call due q :=
    ⟨orderly.sound, bound, running, ⟨c, asks, called⟩, ended⟩
  obtain ⟨waiting, there, stage⟩ := serves.stage ending
  refine ⟨serves.posted, fun fresh => ?_, fun begun => ?_⟩
  · cases stage with
    | preparing preparing => exact ⟨there, preparing, preparing.settles ending net⟩
    | tending tending =>
      rw [tending.running.ranDown] at fresh
      cases fresh
  · cases stage with
    | preparing preparing =>
      rw [preparing.ranDown ending] at begun
      cases begun
    | @tending own came tending =>
      -- What was held when the call was answered is all that can be given away later.
      have past : Past x.server.1.heldExit { server := x.server.1 } :=
        ⟨tending.running.ranDown, nofun, nofun, Or.inr ⟨rfl, rfl⟩⟩
      exact ⟨own, waiting, there, tending, tending.proceeds there, fun _ later =>
        ⟨past_after past later, fun call m net fetches held => step_of_held fetches held net⟩⟩

def spoken (said : List Message) : List (ClientId × Frames) :=
  said.map fun m => (⟨1⟩, Bytes.ofUInt32 m.kind.code :: m.parts)

def audience (said : List Message) : Network where
  limits := ⟨4, 0, 0⟩
  routers := [{ uri := "", inbound := spoken said, mailboxes := [[]], peers := [(⟨1⟩, 0)] }]

/-- The client comes, and the stream ends. -/
def prelude : List (Session.Move Network SinkCall) :=
  [.ask .connect, .step { limits := ⟨4, 0, 0⟩ }, .ask (.register ⟨1⟩), .step (audience []),
    .ask (.send .endOfStream), .step (audience []), .step (audience [])]

/-- The client asks for a message, says this, and the dispenser makes so many steps. -/
def curtain (said : List Message) (count : Nat) : Serving × Network :=
  alone (begins (used "" 1 (fun m => m.kind == .barrier) 4 prelude).server (.request ⟨1⟩))
    (audience said) count

/-- The rundown begins with the third step. The client is told the end twice: it asks once more and
leaves, and what it says behind that is not taken. If it asks to exit first, the one who asks next
for what a peer said is told so, and the one after him what has come to the router. -/
theorem runs_down_exactly_rehearsal :
    let leaves : List Message :=
      [.dataRequest ⟨1⟩, .barrier [], .unregistration ⟨1⟩, .dataRequest ⟨1⟩]
    let exits : List Message := [.dataRequest ⟨1⟩, .exitRequest, .unregistration ⟨1⟩]
    let first := (used "" 1 (fun m => m.kind == .barrier) 4 prelude).server
    let q := (first.queue.call (.request ⟨1⟩)).2
    let fresh := curtain leaves 0
    let drained := curtain leaves 9
    let cut := curtain exits 6
    (Settles ⟨0, ""⟩ first (.request ⟨1⟩) [(⟨1⟩, .endOfStream)] q fresh.1 fresh.2 3 ∧
      (curtain leaves 3).1.server.1.ranDown = true) ∧
    (drained.1.answered = [(.request ⟨1⟩, .ok none)] ∧
      drained.1.server.1.queue.isDrained = true ∧
      drained.1.server.2.Posted ∧
      drained.2.mail (.router 0) (.answers 0) = [farewell, farewell] ∧
      ∃ own, Tending ⟨0, ""⟩ q [(⟨1⟩, .endOfStream)] own (.request ⟨1⟩) drained.1
        (spoken [.dataRequest ⟨1⟩]) (spoken leaves)) ∧
    (cut.1.server.1.heldExit = some .exitRequest ∧
      (∀ later, Past (some .exitRequest)
        (Session.after sink.toService { server := cut.1.server.1 } later)) ∧
      (Session.after sink.toService { server := cut.1.server.1 }
        [.ask .poll, .step cut.2, .ask .get, .step cut.2]).answered
        = [(.poll, .ok (some .exitRequest)), (.get, .ok (some (.unregistration ⟨1⟩)))]) := by
  have bound : (used "" 1 (fun m => m.kind == .barrier) 4 prelude).server.router
      = some ⟨0, ""⟩ := by decide +kernel
  have running : (used "" 1 (fun m => m.kind == .barrier) 4 prelude).server.queue.rundown
      = false := by decide +kernel
  have called : (used "" 1 (fun m => m.kind == .barrier) 4 prelude).server.queue.call
      (.request ⟨1⟩) = (.ok [(⟨1⟩, .endOfStream)], _) := Prod.ext (by decide +kernel) rfl
  have serves : ∀ said count, Serves 0 _ (audience said) (curtain said count).1
      (curtain said count).2 (spoken said) := fun said count => (Serves.begin rfl).alone count
  have exactly := fun said count =>
    runs_down_exactly "" 1 _ 4 prelude bound running rfl called (by decide +kernel)
      (serves said count)
  refine ⟨⟨?_, by decide +kernel⟩,
    ⟨by decide +kernel, by decide +kernel, (exactly _ 9).1, by decide +kernel, ?_⟩,
    by decide +kernel, ?_, by decide +kernel⟩
  · have fresh : (curtain [.dataRequest ⟨1⟩, .barrier [], .unregistration ⟨1⟩, .dataRequest ⟨1⟩]
        0).1.server.1.ranDown = false := by decide +kernel
    exact ((exactly _ 0).2.1 fresh).2.2
  · have begun : (curtain [.dataRequest ⟨1⟩, .barrier [], .unregistration ⟨1⟩, .dataRequest ⟨1⟩]
        9).1.server.1.ranDown = true := by decide +kernel
    have left : heard 0 (curtain [.dataRequest ⟨1⟩, .barrier [], .unregistration ⟨1⟩,
        .dataRequest ⟨1⟩] 9).2 = some (spoken [.dataRequest ⟨1⟩]) := by decide +kernel
    obtain ⟨own, waiting, there, tending, -⟩ := (exactly _ 9).2.2 begun
    cases there.symm.trans left
    exact ⟨own, tending⟩
  · have begun : (curtain [.dataRequest ⟨1⟩, .exitRequest, .unregistration ⟨1⟩]
        6).1.server.1.ranDown = true := by decide +kernel
    have answered : (curtain [.dataRequest ⟨1⟩, .exitRequest, .unregistration ⟨1⟩]
        6).1.current = none := by decide +kernel
    have held : (curtain [.dataRequest ⟨1⟩, .exitRequest, .unregistration ⟨1⟩]
        6).1.server.1.heldExit = some .exitRequest := by decide +kernel
    obtain ⟨own, waiting, there, tending, -, past⟩ := (exactly _ 6).2.2 begun
    exact fun later => held ▸ (past answered later).1

end Dispenser

end Fanout

end RecordFarm
