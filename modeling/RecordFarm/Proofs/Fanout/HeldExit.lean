import RecordFarm.Proofs.Fanout.Diary
import RecordFarm.Proofs.Service.Talk

/-!
# The request to exit that cut the rundown short

Whether a dispenser has run down, and whether it holds a request to exit, changes in three steps
only: it turns to the rundown, it meets the request there, and it gives the request away (`Turns`).
So a dispenser runs down at most once, and only when the stream is over (`Sound`). A request that it
holds is what the next one gets who asks for a message of a peer, and nobody else (`Past`). -/

namespace RecordFarm

namespace Fanout

/-! ## How the rundown begins -/

namespace Queue

/-- A queue that runs down while it serves is over: nothing is queued and nobody waits. -/
theorem over_of_serve {q : Queue} (running : q.rundown = false)
    (ended : (q.serve []).2.rundown = true) : (q.serve []).2.Over := by
  obtain ⟨es, mid, m, rounds, atEnd⟩ := rounds_of_rundown 0 q [] running ended
  rw [serve_of_rounds rounds [], serve_of_atEnd atEnd]
  exact ⟨rfl, rfl, rfl, atEnd.free⟩

/-- When the rundown begins, nothing is queued and nobody waits any more. -/
theorem over_of_call {q : Queue} {c : Call} (running : q.rundown = false)
    (ended : (q.call c).2.rundown = true) : (q.call c).2.Over := by
  cases c with
  | send m =>
    simp only [call, Queue.send, running, Bool.false_eq_true, if_false] at ended ⊢
    exact over_of_serve rfl ended
  | request id => exact over_of_serve running ended
  | unregister id => exact over_of_serve running ended
  | register id =>
    have ended : q.rundown = true := ended
    rw [running] at ended
    cases ended

end Queue

namespace Dispenser

/-! ## What a step does to the rundown and to the request -/

/-- What a step does to the rundown and to the request to exit that is held. -/
inductive Turns (s : Dispenser) : Task → Progress Task Reply → Dispenser → Prop where
  /-- Nothing. The call runs the dispenser down afterwards only if it did before. -/
  | plain {task : Task} {progress : Progress Task Reply} {s' : Dispenser}
      (queue : s'.queue = s.queue ∨ ∃ c, s'.queue = (s.queue.call c).2)
      (ranDown : s'.ranDown = s.ranDown) (heldExit : s'.heldExit = s.heldExit)
      (loops : ∀ due, progress.pending task = some (.deliver due true) →
        ∃ due', task = .deliver due' true)
      (fetches : ∀ call, Fetches call → task = .begin call → s.heldExit = none) :
      Turns s task progress s'
  /-- It turns to the rundown. -/
  | enters (ended : s.queue.rundown = true) (first : s.ranDown = false) :
      Turns s (.deliver [] false) (.working (.deliver [] true)) { s with ranDown := true }
  /-- It meets a request to exit in the rundown. -/
  | exits (m : Message) :
      Turns s (.deliver [] true) (.finished (.ok none)) { s with heldExit := some m }
  /-- It gives the request away. -/
  | gives {call : SinkCall} {m : Message} (fetches : Fetches call) (held : s.heldExit = some m) :
      Turns s (.begin call) (.finished (.ok (some m))) { s with heldExit := none }

variable {s : Dispenser}

/-- A step that leaves the rundown and the request alone. -/
theorem Turns.still {task : Task} {progress : Progress Task Reply} {s' : Dispenser}
    (queue : s'.queue = s.queue ∨ ∃ c, s'.queue = (s.queue.call c).2)
    (ranDown : s'.ranDown = s.ranDown) (heldExit : s'.heldExit = s.heldExit)
    (loops : ∀ due, progress.pending task ≠ some (.deliver due true))
    (fetches : ∀ call, Fetches call → task = .begin call → s.heldExit = none) :
    Turns s task progress s' :=
  .plain queue ranDown heldExit (fun due h => absurd h (loops due)) fetches

/-- Nothing is fetched while something is delivered. -/
theorem Turns.delivers {due : List Delivery} {runningDown : Bool}
    {progress : Progress Task Reply} {s' : Dispenser}
    (queue : s'.queue = s.queue ∨ ∃ c, s'.queue = (s.queue.call c).2)
    (ranDown : s'.ranDown = s.ranDown) (heldExit : s'.heldExit = s.heldExit)
    (loops : ∀ due', progress.pending (.deliver due runningDown) = some (.deliver due' true) →
      runningDown = true) : Turns s (.deliver due runningDown) progress s' := by
  refine .plain queue ranDown heldExit (fun due' h => ?_) fun call _ same => by cases same
  rw [loops due' h]
  exact ⟨due, rfl⟩

/-- **How a step of a dispenser turns.** -/
theorem Does.turns {net : Network} {task : Task} {stepped : Stepped} {asked : Option Call}
    {gone : Option (Delivery × Bool)} (does : Does s net task stepped asked gone) :
    Turns s task stepped.1 stepped.2.1 := by
  -- Who asks something else does not ask for what a peer said.
  have apart : ∀ {call : SinkCall}, ¬ Fetches call →
      ∀ other, Fetches other → Task.begin call = .begin other → s.heldExit = none := by
    rintro call noFetch _ fetches ⟨⟩
    exact absurd fetches noFetch
  have asks : ∀ {c due after}, s.queue.call c = (due, after) →
      after = s.queue ∨ ∃ c, after = (s.queue.call c).2 := by
    intro c due after h
    exact Or.inr ⟨c, by rw [h]⟩
  cases does with
  | binds _ noFetch => exact .still (Or.inl rfl) rfl rfl nofun (apart noFetch)
  | waits _ free => exact .still (Or.inl rfl) rfl rfl nofun fun _ _ _ => free
  | hears _ free => exact .still (Or.inl rfl) rfl rfl nofun fun _ _ _ => free
  | gives fetches held => exact .gives fetches held
  | @registers id =>
    exact .still (Or.inr ⟨.register id, rfl⟩) rfl rfl nofun (apart (not_fetches rfl))
  | calls asks' h => exact .still (asks h) rfl rfl nofun (apart (not_fetches asks'))
  | breaks asks' h => exact .still (asks h) rfl rfl nofun (apart (not_fetches asks'))
  | stops | hands | misses =>
    refine .delivers (Or.inl rfl) rfl rfl fun due' h => ?_
    cases h
    rfl
  | refuses | ends => exact .delivers (Or.inl rfl) rfl rfl nofun
  | runsDown ended first => exact .enters ended first
  | exits => exact .exits _
  | drained | awaits | fails | ignores => exact .delivers (Or.inl rfl) rfl rfl fun _ _ => rfl
  | serves _ h | sinks _ h => exact .delivers (asks h) rfl rfl fun _ _ => rfl

/-- What a step turns to. One case for each thing that the dispenser can be in the middle of. -/
theorem turns_step (task : Task) (net : Network) :
    Turns s task (step task s net).1 (step task s net).2.1 := (does_step task s net).turns

/-! ## Dispensers after any use -/

structure Sound (s : Dispenser) : Prop where
  isOver : s.queue.rundown = true → s.queue.Over
  begun : s.ranDown = true → s.queue.rundown = true
  held : s.heldExit ≠ none → s.ranDown = true

/-- What becomes of a sound dispenser in a step, unless it runs down without having begun to. -/
theorem Sound.turn {task : Task} {progress : Progress Task Reply} {s' : Dispenser}
    (sound : Sound s) (loops : ∀ due, task = .deliver due true → s.ranDown = true)
    (turns : Turns s task progress s') :
    Sound s' ∧ ∀ due, progress.pending task = some (.deliver due true) → s'.ranDown = true := by
  cases turns with
  | plain queue ranDown heldExit rests fetches =>
    have isOver : s'.queue.rundown = true → s'.queue.Over := by
      rcases queue with same | ⟨c, called⟩
      · rw [same]
        exact sound.isOver
      · rw [called]
        intro ended
        cases running : s.queue.rundown with
        | true => exact (sound.isOver running).call c
        | false => exact Queue.over_of_call running ended
    have stays : s.queue.rundown = true → s'.queue.rundown = true := by
      intro ended
      rcases queue with same | ⟨c, called⟩
      · rwa [same]
      · rw [called]
        exact ((sound.isOver ended).call c).rundown
    refine ⟨⟨isOver, fun begun => stays (sound.begun ?_), fun held => ?_⟩, fun due h => ?_⟩
    · rwa [← ranDown]
    · rw [ranDown]
      exact sound.held (heldExit ▸ held)
    · obtain ⟨due', rfl⟩ := rests due h
      rw [ranDown]
      exact loops due' rfl
  | enters ended first => exact ⟨⟨sound.isOver, fun _ => ended, fun _ => rfl⟩, fun _ _ => rfl⟩
  | exits m =>
    have begun := loops [] rfl
    exact ⟨⟨sound.isOver, sound.begun, fun _ => begun⟩, nofun⟩
  | gives fetches held => exact ⟨⟨sound.isOver, sound.begun, nofun⟩, nofun⟩

/-- A dispenser in use, which runs down only if it has begun to. -/
structure Orderly (s : Session SinkCall Dispenser Task Reply) : Prop where
  sound : Sound s.server
  loops : ∀ call due, s.current = some (call, .deliver due true) → s.server.ranDown = true

/-- **Every dispenser is orderly**, whatever it is asked and whatever happens around it. -/
theorem orderly_after (uri : String) (expected : Nat) (isBarrier : Message → Bool)
    (highWaterMark : Nat) (moves : List (Session.Move Network SinkCall)) :
    Orderly (Session.after sink.toService
      { server := .new uri (.new expected isBarrier) highWaterMark } moves) := by
  refine Session.after_induction (P := Orderly) sink.toService ?_ ?_ ?_ moves
  · exact ⟨⟨nofun, nofun, fun held => absurd rfl held⟩, nofun⟩
  · rintro s call ⟨sound, -⟩ -
    exact ⟨sound, nofun⟩
  · rintro s call task net ⟨sound, loops⟩ hcurrent
    rw [Session.step_of_current _ hcurrent]
    have begun : ∀ due, task = .deliver due true → s.server.ranDown = true := by
      rintro due rfl
      exact loops call due hcurrent
    obtain ⟨sound', loops'⟩ := sound.turn begun (turns_step task net)
    refine ⟨sound', fun call' due h => loops' due ?_⟩
    obtain ⟨rest, pending, same⟩ := Option.map_eq_some_iff.1 h
    cases same
    exact pending

/-! ## The request that is held -/

inductive Fits (call : SinkCall) : Task → Prop where
  | begin : Fits call (.begin call)
  | deliver {due : List Delivery} {runningDown : Bool} (asks : Call.ofSink? call ≠ none) :
      Fits call (.deliver due runningDown)

theorem Fits.step {call : SinkCall} {task rest : Task} (fits : Fits call task) (net : Network)
    (h : (Dispenser.step task s net).1.pending task = some rest) : Fits call rest := by
  obtain ⟨asked, gone, does⟩ := exists_does task s net
  generalize Dispenser.step task s net = stepped at does h
  cases does with
  | calls asks =>
    cases h
    cases fits
    exact .deliver (by rw [asks]; nofun)
  | waits | awaits | stops =>
    cases h
    exact fits
  | hands | misses | runsDown | ignores | serves =>
    cases h
    obtain _ | asks := fits
    exact .deliver asks
  | binds | hears | gives | registers | breaks | refuses | ends | drained | fails | exits
  | sinks => cases h

/-- The answers to those who asked for what a peer said. -/
def fetched (answered : List (SinkCall × Except Error Reply)) : List (Except Error Reply) :=
  answered.filterMap fun
    | (.poll, result) | (.get, result) => some result
    | _ => none

theorem fetched_snoc_of_fetches {call : SinkCall} (fetches : Fetches call)
    (answered : List (SinkCall × Except Error Reply)) (result : Except Error Reply) :
    fetched (answered ++ [(call, result)]) = fetched answered ++ [result] := by
  unfold fetched
  rw [List.filterMap_append]
  rcases fetches with rfl | rfl <;> rfl

theorem fetched_snoc_of_not {call : SinkCall} (apart : ¬ Fetches call)
    (answered : List (SinkCall × Except Error Reply)) (result : Except Error Reply) :
    fetched (answered ++ [(call, result)]) = fetched answered := by
  unfold fetched
  rw [List.filterMap_append]
  cases call with
  | poll => exact absurd (Or.inl rfl) apart
  | get => exact absurd (Or.inr rfl) apart
  | _ => exact List.append_nil _

/-- Who asks a dispenser that holds a request for what a peer said gets the request, at once and
without anybody's help. -/
theorem step_of_held {call : SinkCall} {m : Message} (fetches : Fetches call)
    (held : s.heldExit = some m) (net : Network) :
    step (.begin call) s net = (.finished (.ok (some m)), { s with heldExit := none }, net) := by
  rcases fetches with rfl | rfl
  · simp only [step, nextMessage, held, answer]
  · simp only [step, nextMessage, held, answer]

/-- A dispenser has run down, and does not go on with it. If it held a request to exit afterwards,
it does so until it is asked for what a peer said; the request is the first answer, and is held no
more. -/
structure Past (held : Option Message) (s : Session SinkCall Dispenser Task Reply) : Prop where
  ranDown : s.server.ranDown = true
  rests : ∀ call due, s.current ≠ some (call, .deliver due true)
  fits : ∀ call task, s.current = some (call, task) → Fits call task
  given : s.server.heldExit = none ∧ (∀ m, held = some m →
      ∃ later, fetched s.answered = .ok (some m) :: later) ∨
    s.server.heldExit = held ∧ fetched s.answered = []

variable {held : Option Message} {x : Session SinkCall Dispenser Task Reply}

/-- A dispenser that is past its rundown may be asked for anything. -/
theorem Past.ask (past : Past held x) (call : SinkCall) :
    Past held (x.ask sink.toService call) where
  ranDown := past.ranDown
  rests := nofun
  fits := by
    rintro call' task ⟨⟩
    exact .begin
  given := past.given

/-- An answer by which no request is given away. -/
theorem Past.given_snoc {call : SinkCall} {task : Task} (past : Past held x) (fits : Fits call task)
    (fetches : ∀ call, Fetches call → task = .begin call → x.server.heldExit = none)
    (progress : Progress Task Reply) :
    x.server.heldExit = none ∧ (∀ m, held = some m → ∃ later,
        fetched (x.answered ++ (progress.answer?.map fun result => (call, result)).toList)
          = .ok (some m) :: later) ∨
      x.server.heldExit = held ∧
        fetched (x.answered ++ (progress.answer?.map fun result => (call, result)).toList)
          = [] := by
  cases progress.answer? with
  | none =>
    rw [Option.map_none, Option.toList_none, List.append_nil]
    exact past.given
  | some result =>
    rw [Option.map_some, Option.toList_some]
    by_cases asked : Fetches call
    · -- The request was given away before, or there was none.
      have hnone : x.server.heldExit = none := by
        cases fits with
        | begin => exact fetches call asked rfl
        | deliver asks => rcases asked with rfl | rfl <;> exact absurd rfl asks
      rw [fetched_snoc_of_fetches asked]
      refine Or.inl ⟨hnone, fun m hm => ?_⟩
      obtain ⟨-, given⟩ | ⟨same, -⟩ := past.given
      · obtain ⟨later, given⟩ := given m hm
        exact ⟨later ++ [result], by rw [given]; rfl⟩
      · rw [hnone, hm] at same
        cases same
    · rw [fetched_snoc_of_not asked]
      exact past.given

/-- A dispenser that is past its rundown stays so. The exit that it holds goes to the first call
that fetches. -/
theorem Past.step {call : SinkCall} {task : Task} (past : Past held x)
    (hcurrent : x.current = some (call, task)) (net : Network) :
    Past held (x.step sink.toService net).1 := by
  rw [Session.step_of_current _ hcurrent]
  have fits := past.fits call task hcurrent
  have rests : ∀ due, task ≠ .deliver due true := by
    rintro due rfl
    exact past.rests call due hcurrent
  have outcome : ∀ (progress : Progress Task Reply) (s' : Dispenser),
      Turns x.server task progress s' →
      (∀ rest, progress.pending task = some rest → Fits call rest) →
      Past held
        { server := s'
          current := (progress.pending task).map fun rest => (call, rest)
          answered := x.answered
            ++ (progress.answer?.map fun result => (call, result)).toList } := by
    intro progress s' turns goesOn
    have fits' : ∀ call' rest, ((progress.pending task).map fun rest => (call, rest))
        = some (call', rest) → Fits call' rest := by
      intro call' rest h
      obtain ⟨rest', pending, same⟩ := Option.map_eq_some_iff.1 h
      cases same
      exact goesOn rest pending
    cases turns with
    | plain queue ranDown heldExit loops fetches =>
      refine ⟨ranDown.trans past.ranDown, fun call' due h => ?_, fits', ?_⟩
      · obtain ⟨rest, pending, same⟩ := Option.map_eq_some_iff.1 h
        cases same
        obtain ⟨due', same⟩ := loops due pending
        exact rests due' same
      · show s'.heldExit = none ∧ _ ∨ s'.heldExit = held ∧ _
        rw [heldExit]
        exact past.given_snoc fits fetches progress
    -- The rundown has been entered before, and is over.
    | enters ended first =>
      rw [past.ranDown] at first
      cases first
    | exits m => exact absurd rfl (rests [])
    -- What is held is given away, to the first who asks for what a peer said.
    | @gives call' m fetches holds =>
      cases fits
      refine ⟨past.ranDown, nofun, nofun, Or.inl ⟨rfl, fun m' asked => ?_⟩⟩
      obtain ⟨hnone, -⟩ | ⟨same, nothing⟩ := past.given
      · rw [holds] at hnone
        cases hnone
      · rw [← same, holds] at asked
        cases asked
        refine ⟨[], ?_⟩
        show fetched (x.answered ++ [(call, .ok (some m))]) = _
        rw [fetched_snoc_of_fetches fetches, nothing]
        rfl
  exact outcome _ _ (turns_step task net) fun rest h => fits.step net h

/-- **Once it has run down, a dispenser does not do so again**, and gives a request that it held
away once, whatever it is asked and whatever happens around it. -/
theorem past_after (past : Past held x) (moves : List (Session.Move Network SinkCall)) :
    Past held (Session.after sink.toService x moves) :=
  Session.after_induction (P := Past held) sink.toService past (fun _ call past _ => past.ask call)
    (fun _ _ _ net past hcurrent => past.step hcurrent net) moves

end Dispenser

end Fanout

end RecordFarm
