import RecordFarm.Proofs.Farm.Lines
import RecordFarm.Proofs.Service.Session
import RecordFarm.Proofs.Wire.Hop
import RecordFarm.Source.Pull

/-!
# What a puller hands out

A puller takes frames from its pipe only when it has no records left. So whatever calls are made of
it, and whatever happens to the network in between, it hands out what it took in its order: all
records of a batch before anything behind them, and the end when the end was the last that it took
(`Puller.Uses.handsOut`). From then on it answers at once and leaves the network alone.

`Puller.Reads` lists what a step of a puller that is asked for a message can come to.
-/

namespace RecordFarm

/-! ## What is taken from a network -/

/-- What was in a pipe before and is gone from its front. -/
def Pipe.drawn (p p' : Pipe) : List Frames := p.queue.take (p.queue.length - p'.queue.length)

@[simp] theorem Pipe.drawn_of_queue {p p' : Pipe} (same : p'.queue = p.queue) :
    p.drawn p' = [] := by
  simp [drawn, same]

namespace Network

def drawn (net net' : Network) : List Frames :=
  (List.zipWith Pipe.drawn net.pipes net'.pipes).flatten

/-- Nothing is taken when nothing happens. -/
@[simp] theorem drawn_self (net : Network) : net.drawn net = [] := by simp [drawn]

/-- What is taken when one pipe changes is what is taken from this one. -/
theorem drawn_modifyPipe (net : Network) (n : Nat) (change : Pipe → Pipe) :
    net.drawn (net.modifyPipe n change)
      = (net.pipes[n]?.map fun p => p.drawn (change p)).getD [] := by
  show (List.zipWith Pipe.drawn net.pipes (net.pipes.modify n change)).flatten = _
  induction net.pipes generalizing n with
  | nil => simp
  | cons p pipes ih =>
    cases n with
    | zero => simp
    | succ n => simpa using ih n

/-- What is received was drawn. -/
theorem drawn_recv {net net' : Network} {socket : PullSocket} {frames : Frames}
    (h : socket.recv net = .done frames net') : net.drawn net' = [frames] := by
  unfold PullSocket.recv at h
  split at h
  · cases h
  · next p hp =>
    unfold Pipe.recv at h
    split at h
    · next frames' rest hqueue =>
      simp only [Attempt.done.injEq] at h
      obtain ⟨rfl, rfl⟩ := h
      rw [drawn_modifyPipe, hp]
      simp [Pipe.drawn, hqueue]
    · split at h <;> cases h

theorem drawn_close (net : Network) (socket : PullSocket) : net.drawn (socket.close net) = [] := by
  unfold PullSocket.close
  split
  · show net.drawn (net.modifyPipe _ _) = []
    rw [drawn_modifyPipe]
    cases net.pipes[socket.number]? <;> simp
  · exact drawn_self net

end Network

def Progress.reply {κ τ α : Type} (call : κ) : Progress τ α → List (κ × Except Error α)
  | .finished result => [(call, result)]
  | _ => []

namespace Puller

/-! ## One step -/

/-- Having nothing left to hand out, the puller takes these frames from its pipe. -/
structure Draws (s : Puller) (net : Network) (frames : Frames) (net' : Network) : Prop where
  empty : s.records = []
  running : s.ended = false
  recv : ∃ pull, s.pull = some pull ∧ pull.recv net = .done frames net'

/-- What a step of a puller that is asked for a message comes to. -/
inductive Reads (s : Puller) (net : Network) : Stepped → Prop where
  | handOut {record : Bytes} {rest : List Bytes} (first : s.records = record :: rest) :
      Reads s net (answer (.ok (some (.process [record]))) { s with records := rest } net)
  | rest (empty : s.records = []) (ended : s.ended = true) :
      Reads s net (answer (.ok (some .endOfStream)) s net)
  | wait (empty : s.records = []) (running : s.ended = false) : Reads s net (.waiting none, s, net)
  | fail (empty : s.records = []) (running : s.ended = false) (cause : Error) :
      Reads s net (answer (.error cause) s net)
  /-- The frames are no message. -/
  | garbled {frames : Frames} {net' : Network} (draws : s.Draws net frames net') {fault : Violation}
      (framed : Message.ofFrames frames = .error fault) (cause : Error) :
      Reads s net (answer (.error cause) s net')
  /-- The message should have records, and has none that can be read. -/
  | spoilt {frames : Frames} {net' : Network} {m : Message} (draws : s.Draws net frames net')
      (framed : Message.ofFrames frames = .ok m) (kind : m.kind = .process) {fault : Violation}
      (content : m.records = .error fault) (cause : Error) :
      Reads s net (answer (.error cause) s net')
  | records {frames : Frames} {net' : Network} {m : Message} {records : List Bytes}
      (draws : s.Draws net frames net') (framed : Message.ofFrames frames = .ok m)
      (kind : m.kind = .process) (content : m.records = .ok records) :
      Reads s net (.working (.begin .next), { s with records := s.records ++ records }, net')
  | endOfStream {frames : Frames} {net' : Network} {m : Message} (draws : s.Draws net frames net')
      (framed : Message.ofFrames frames = .ok m) (kind : m.kind = .endOfStream) :
      Reads s net (.working (.begin .next), { s with ended := true }, net')
  /-- Any other message is handed out as it is. -/
  | other {frames : Frames} {net' : Network} {m : Message} (draws : s.Draws net frames net')
      (framed : Message.ofFrames frames = .ok m) (kind : m.kind ≠ .process)
      (notEnd : m.kind ≠ .endOfStream) : Reads s net (answer (.ok (some m)) s net')

/-- The next message is a record in hand, the end once more, or read from the pipe. -/
theorem reads_next (s : Puller) (net : Network) : Reads s net (next s net) := by
  unfold next
  split
  · next record rest first => exact .handOut first
  · next empty =>
    cases hended : s.ended with
    | true =>
      rw [if_pos rfl]
      exact .rest empty hended
    | false =>
      rw [if_neg Bool.false_ne_true]
      split
      · exact .fail empty hended _
      · next pull hpull =>
        split
        · exact .wait empty hended
        · exact .fail empty hended _
        · next frames net' hrecv =>
          have draws : s.Draws net frames net' := ⟨empty, hended, pull, hpull, hrecv⟩
          split
          · next framed => exact .garbled draws framed _
          · next m framed =>
            unfold takeIn
            split
            · next kind =>
              split
              · next content => exact .spoilt draws framed kind content _
              · next content => exact .records draws framed kind content
            · next kind => exact .endOfStream draws framed kind
            · next kind notEnd => exact .other draws framed kind notEnd

/-! ## A whole use -/

/-- What frames are handed out as: records one by one, the end not at all, and any other message as
it is. -/
def contents (frames : Frames) : List Message :=
  match Message.ofFrames frames with
  | .error _ => []
  | .ok m =>
    match m.kind with
    | .process => m.content.map fun record => .process [record]
    | .endOfStream => []
    | _ => [m]

/-- A use of a puller, and the frames that it took from the pipes. Before each of its steps the
network may have become any other. -/
inductive Uses (uri : String) : Session SourceCall Puller Task Reply → List Frames → Prop where
  | start : Uses uri { server := { uri } } []
  | ask {s : Session SourceCall Puller Task Reply} {taken : List Frames} (before : Uses uri s taken)
      (idle : s.current = none) (call : SourceCall) : Uses uri (s.ask source.toService call) taken
  | step {s : Session SourceCall Puller Task Reply} {taken : List Frames}
      (before : Uses uri s taken) (net : Network) :
      Uses uri (s.step source.toService net).1
        (taken ++ net.drawn (s.step source.toService net).2)

def endAnswer : SourceCall × Except Error Reply := (.next, .ok (some .endOfStream))

/-- The frames that were taken from the pipes are handed out in their order, the end of the stream
last and for ever. -/
structure HandsOut (s : Session SourceCall Puller Task Reply) (taken : List Frames) : Prop where
  /-- What was handed out, and the records that are left, are what was taken. The end is handed out
  when nothing is left and the end was taken last. -/
  order : ∃ told count,
    handedOut s.answered = told ++ List.replicate count .endOfStream ∧
    told ++ s.server.records.map (fun record => .process [record]) = taken.flatMap contents ∧
    (0 < count → s.server.records = [] ∧
      ∃ before last, taken = before ++ [last] ∧ (Message.arrived last).isEnd = true)
  /-- Nothing is taken after the end. -/
  last : ∀ before frames after, taken = before ++ frames :: after →
    (Message.arrived frames).isEnd = true → after = []
  /-- Once the end was handed out, every later answer is the end. -/
  forever : ∀ before after result, s.answered = before ++ endAnswer :: after →
    (.next, result) ∈ after → result = .ok (some .endOfStream)
  /-- Once the end was handed out, the next call is answered in one step, whatever has become of the
  network, and leaves the network as it is. -/
  atOnce : endAnswer ∈ s.answered → ∀ net,
    (s.ask source.toService .next).step source.toService net
      = ({ s with current := none, answered := s.answered ++ [endAnswer] }, net)

/-- Either the end was not taken yet, or it was and nothing after it. -/
inductive Stage : Bool → List Frames → Prop where
  | running {taken : List Frames}
      (hnone : ∀ frames ∈ taken, (Message.arrived frames).isEnd = false) :
      Stage false taken
  | ended {before : List Frames} {last : Frames}
      (hnone : ∀ frames ∈ before, (Message.arrived frames).isEnd = false)
      (isEnd : (Message.arrived last).isEnd = true) : Stage true (before ++ [last])

/-- What is true of a puller between two steps, by the calls that it answered. -/
structure Told (answered : List (SourceCall × Except Error Reply)) (s : Puller)
    (taken : List Frames) : Prop where
  stage : Stage s.ended taken
  order : endAnswer ∉ answered →
    handedOut answered ++ s.records.map (fun record => .process [record]) = taken.flatMap contents
  finished : endAnswer ∈ answered → s.ended = true ∧ s.records = [] ∧
    ∃ count, handedOut answered = taken.flatMap contents ++ List.replicate count .endOfStream
  forever : ∀ before after result, answered = before ++ endAnswer :: after →
    (.next, result) ∈ after → result = .ok (some .endOfStream)

section Told

variable {answered : List (SourceCall × Except Error Reply)} {s s' : Puller} {taken : List Frames}

/-- Before the end is told, everything that was taken is told or in hand. -/
theorem Told.of_notMem (silent : endAnswer ∉ answered) (stage : Stage s.ended taken)
    (order : handedOut answered ++ s.records.map (fun record => .process [record])
      = taken.flatMap contents) : Told answered s taken where
  stage := stage
  order := fun _ => order
  finished := fun spoken => absurd spoken silent
  forever := fun before after result h => by
    rw [h] at silent
    exact absurd (List.mem_append_right _ List.mem_cons_self) silent

theorem Told.congr (told : Told answered s taken) (records : s'.records = s.records)
    (ended : s'.ended = s.ended) : Told answered s' taken where
  stage := by rw [ended]; exact told.stage
  order := by rw [records]; exact told.order
  finished := by rw [records, ended]; exact told.finished
  forever := told.forever

/-- Nothing but the end is answered after the end. -/
theorem forever_snoc {last : SourceCall × Except Error Reply}
    (forever : ∀ before after result, answered = before ++ endAnswer :: after →
      (.next, result) ∈ after → result = .ok (some .endOfStream))
    (fits : endAnswer ∈ answered → ∀ result, last = (.next, result) →
      result = .ok (some .endOfStream)) :
    ∀ before after result, answered ++ [last] = before ++ endAnswer :: after →
      (.next, result) ∈ after → result = .ok (some .endOfStream) := by
  intro before after result h hresult
  rcases List.eq_nil_or_concat' after with rfl | ⟨after', last', rfl⟩
  · cases hresult
  · rw [← List.cons_append, ← List.append_assoc] at h
    obtain ⟨hanswered, hlast⟩ := List.append_inj' h rfl
    obtain rfl := List.singleton_inj.1 hlast
    rcases List.mem_append.1 hresult with hresult | hresult
    · exact forever before after' result hanswered hresult
    · have spoken : endAnswer ∈ answered := by
        rw [hanswered]
        exact List.mem_append_right _ List.mem_cons_self
      exact fits spoken result (List.mem_singleton.1 hresult).symm

/-- Any call but that for the next message may be answered. -/
theorem Told.other (told : Told answered s taken) {call : SourceCall} (other : call ≠ .next)
    (result : Except Error Reply) : Told (answered ++ [(call, result)]) s taken := by
  have mem : endAnswer ∈ answered ++ [(call, result)] ↔ endAnswer ∈ answered := by
    rw [List.mem_append, List.mem_singleton, or_iff_left]
    intro h
    cases h
    exact other rfl
  refine ⟨told.stage, ?_, ?_, forever_snoc told.forever fun _ result' h => ?_⟩
  · rw [mem, handedOut_of_ne _ other]
    exact told.order
  · rw [mem, handedOut_of_ne _ other]
    exact told.finished
  · cases h
    exact absurd rfl other

/-- Who has not met the end has not told it. -/
theorem Told.silent_of_running (told : Told answered s taken) (running : s.ended = false) :
    endAnswer ∉ answered := by
  intro spoken
  rw [(told.finished spoken).1] at running
  cases running

/-- Whatever was taken, if the end of the stream is not answered it was not answered yet. -/
theorem silent_snoc {result : Except Error Reply} (silent : endAnswer ∉ answered)
    (notEnd : result ≠ .ok (some .endOfStream)) : endAnswer ∉ answered ++ [(.next, result)] := by
  rw [List.mem_append, List.mem_singleton, not_or]
  refine ⟨silent, fun h => notEnd ?_⟩
  cases h
  rfl

/-- Until it has met the end, the puller has taken none. -/
theorem Stage.noEnd (stage : Stage s.ended taken) (running : s.ended = false) :
    ∀ frames ∈ taken, (Message.arrived frames).isEnd = false := by
  rw [running] at stage
  obtain hnone | _ := stage
  exact hnone

theorem Stage.snoc (stage : Stage s.ended taken) (running : s.ended = false) {frames : Frames}
    (notEnd : (Message.arrived frames).isEnd = false) : Stage s.ended (taken ++ [frames]) := by
  have before := stage.noEnd running
  rw [running]
  refine .running fun frames' h => ?_
  rcases List.mem_append.1 h with h | h
  · exact before frames' h
  · rw [List.mem_singleton.1 h]
    exact notEnd

/-- What the puller takes from its pipe while it has nothing left is the next to be handed out. -/
theorem Told.draw (told : Told answered s taken) {net net' : Network} {frames : Frames}
    (draws : s.Draws net frames net') {replies : List (SourceCall × Except Error Reply)}
    (silent : endAnswer ∉ replies) (stage : Stage s'.ended (taken ++ [frames]))
    (handed : handedOut (answered ++ replies) ++ s'.records.map (fun record => .process [record])
      = handedOut answered ++ contents frames) :
    Told (answered ++ replies) s' (taken ++ net.drawn net') := by
  obtain ⟨empty, running, pull, -, recv⟩ := draws
  have before := told.silent_of_running running
  have order := told.order before
  rw [empty, List.map_nil, List.append_nil] at order
  rw [Network.drawn_recv recv]
  refine .of_notMem (fun spoken => (List.mem_append.1 spoken).elim before silent) stage ?_
  rw [handed, order, List.flatMap_append, List.flatMap_singleton]

/-- A record in hand is told next. -/
theorem Told.handOut (told : Told answered s taken) {record : Bytes} {rest : List Bytes}
    (first : s.records = record :: rest) :
    Told (answered ++ [(.next, .ok (some (.process [record])))]) { s with records := rest }
      taken := by
  -- With the end told there would be nothing in hand.
  have silent : endAnswer ∉ answered := fun spoken => by
    rw [(told.finished spoken).2.1] at first
    cases first
  have order := told.order silent
  rw [first, List.map_cons] at order
  refine .of_notMem (silent_snoc silent fun h => by cases h) told.stage ?_
  rw [handedOut_next, ← order, List.append_assoc]
  rfl

/-- Once everything is told the end is, each time anew. -/
theorem Told.tellEnd (told : Told answered s taken) (empty : s.records = [])
    (ended : s.ended = true) : Told (answered ++ [endAnswer]) s taken := by
  refine ⟨told.stage, fun silent => absurd (by simp) silent, fun _ => ⟨ended, empty, ?_⟩,
    forever_snoc told.forever fun _ result h => by cases h; rfl⟩
  by_cases spoken : endAnswer ∈ answered
  · obtain ⟨-, -, count, order⟩ := told.finished spoken
    refine ⟨count + 1, ?_⟩
    rw [endAnswer, handedOut_next, order, List.replicate_succ', List.append_assoc]
    rfl
  · have order := told.order spoken
    rw [empty, List.map_nil, List.append_nil] at order
    refine ⟨1, ?_⟩
    rw [endAnswer, handedOut_next, order]
    rfl

/-- A failure tells nothing. -/
theorem Told.fail (told : Told answered s taken) (running : s.ended = false) (cause : Error) :
    Told (answered ++ [(.next, .error cause)]) s taken := by
  have silent := told.silent_of_running running
  refine .of_notMem (silent_snoc silent fun h => by cases h) told.stage ?_
  rw [handedOut_error]
  exact told.order silent

/-- A step for the next message keeps what is true of the puller. The first four kinds of step leave
the pipe alone, the others take what is first in it. -/
theorem Told.reads (told : Told answered s taken) {net : Network} {x : Stepped}
    (reads : Reads s net x) :
    Told (answered ++ x.1.reply .next) x.2.1 (taken ++ net.drawn x.2.2) := by
  cases reads with
  | @handOut record rest first =>
    show Told (answered ++ [(.next, .ok (some (.process [record])))]) _ (taken ++ net.drawn net)
    rw [Network.drawn_self, List.append_nil]
    exact told.handOut first
  | rest empty ended =>
    show Told (answered ++ [endAnswer]) s (taken ++ net.drawn net)
    rw [Network.drawn_self, List.append_nil]
    exact told.tellEnd empty ended
  | wait empty running =>
    show Told (answered ++ []) s (taken ++ net.drawn net)
    rw [Network.drawn_self, List.append_nil, List.append_nil]
    exact told
  | fail empty running cause =>
    show Told (answered ++ [(.next, .error cause)]) s (taken ++ net.drawn net)
    rw [Network.drawn_self, List.append_nil]
    exact told.fail running cause
  -- From here on a message is drawn from the pipe, as no records were left.
  | @garbled frames net' draws fault framed cause =>
    have lost : Message.arrived frames = .ignore := by rw [Message.arrived, framed]
    refine told.draw draws (by simp [endAnswer, answer, Progress.reply])
      (told.stage.snoc draws.running (by rw [lost]; rfl)) ?_
    show handedOut (answered ++ [(.next, .error cause)]) ++ s.records.map _ = _
    rw [handedOut_error, draws.empty, contents, framed]
    rfl
  | @spoilt frames net' m draws framed kind fault content cause =>
    have arrived := Message.arrived_of_framed framed
    refine told.draw draws (by simp [endAnswer, answer, Progress.reply])
      (told.stage.snoc draws.running (by rw [arrived, Message.isEnd, kind]; rfl)) ?_
    show handedOut (answered ++ [(.next, .error cause)]) ++ s.records.map _ = _
    have nothing : m.content = [] := by rw [Message.content, if_pos kind, content]
    rw [handedOut_error, draws.empty, contents, framed]
    simp only [kind, nothing, List.map_nil]
  | @records frames net' m records draws framed kind content =>
    have arrived := Message.arrived_of_framed framed
    refine told.draw draws List.not_mem_nil
      (told.stage.snoc draws.running (by rw [arrived, Message.isEnd, kind]; rfl)) ?_
    show handedOut (answered ++ []) ++ (s.records ++ records).map _ = _
    rw [List.append_nil, draws.empty, contents, framed]
    simp only [kind, Message.content_of_records kind content]
    rfl
  | @endOfStream frames net' m draws framed kind =>
    have arrived := Message.arrived_of_framed framed
    refine told.draw draws List.not_mem_nil
      (.ended (told.stage.noEnd draws.running) (by rw [arrived, Message.isEnd, kind]; rfl)) ?_
    show handedOut (answered ++ []) ++ s.records.map _ = _
    rw [List.append_nil, draws.empty, contents, framed]
    simp only [kind]
    rfl
  | @other frames net' m draws framed kind notEnd =>
    have arrived := Message.arrived_of_framed framed
    -- Any other message is handed to the caller, and leaves no records.
    have running : (Message.arrived frames).isEnd = false := by
      rw [arrived, Message.isEnd, beq_eq_false_iff_ne]
      exact notEnd
    refine told.draw draws ?_ (told.stage.snoc draws.running running) ?_
    · intro spoken
      cases List.mem_singleton.1 spoken
      exact notEnd rfl
    · show handedOut (answered ++ [(.next, .ok (some m))]) ++ s.records.map _ = _
      rw [handedOut_next, draws.empty, contents, framed]
      simp only
      exact List.append_nil _

inductive Left : SourceCall → Task → Prop where
  | begin (call : SourceCall) : Left call (.begin call)
  | connecting (deadline : Nat) : Left .connect (.connecting deadline)

/-- A call that goes on is the same call. -/
theorem Left.step {call : SourceCall} {task rest : Task} (left : Left call task) {s : Puller}
    {net : Network} (h : (step task s net).1 = .working rest) : Left call rest := by
  have closes : (close s net).1 ≠ .working rest := by
    unfold close
    split <;> nofun
  cases left with
  | begin call =>
    cases call with
    | connect =>
      cases h
      exact .connecting _
    | next =>
      have reads := reads_next s net
      simp only [Puller.step] at h
      generalize next s net = x at reads h
      cases reads <;> cases h <;> exact .begin .next
    | disconnect => exact absurd h closes
    | release => exact absurd h closes
    | register id => cases h
    | unregister id => cases h
  | connecting deadline =>
    simp only [Puller.step] at h
    split at h <;> cases h

/-- A step of a call that asks for no message changes neither the records nor the end, and takes
nothing. -/
theorem step_of_ne {call : SourceCall} {task : Task} (left : Left call task) (other : call ≠ .next)
    (s : Puller) (net : Network) :
    (step task s net).2.1.records = s.records ∧ (step task s net).2.1.ended = s.ended ∧
      net.drawn (step task s net).2.2 = [] := by
  have closes : (close s net).2.1.records = s.records ∧ (close s net).2.1.ended = s.ended ∧
      net.drawn (close s net).2.2 = [] := by
    unfold close
    split
    · exact ⟨rfl, rfl, net.drawn_self⟩
    · exact ⟨rfl, rfl, net.drawn_close _⟩
  cases left with
  | begin call =>
    cases call with
    | next => exact absurd rfl other
    | disconnect => exact closes
    | release => exact closes
    | _ => exact ⟨rfl, rfl, net.drawn_self⟩
  | connecting deadline =>
    simp only [step]
    split
    · exact ⟨rfl, rfl, net.drawn_self⟩
    · exact ⟨rfl, rfl, net.drawn_self⟩
    · next pull net' hconnect =>
      -- Connecting only looks the address up.
      have same : net' = net := by
        have h := Attempt.of_orNotBound hconnect
        unfold PullSocket.connect at h
        split at h
        · cases h
        · cases h
          rfl
        · cases h
      exact ⟨rfl, rfl, by rw [same]; exact net.drawn_self⟩

/-- A step of a call keeps what is true of the puller. -/
theorem Told.step (told : Told answered s taken) {call : SourceCall} {task : Task}
    (left : Left call task) (net : Network) :
    Told (answered ++ (Puller.step task s net).1.reply call) (Puller.step task s net).2.1
      (taken ++ net.drawn (Puller.step task s net).2.2) := by
  by_cases hcall : call = .next
  · subst hcall
    cases left
    exact told.reads (reads_next s net)
  · obtain ⟨records, ended, drawn⟩ := step_of_ne left hcall s net
    rw [drawn, List.append_nil]
    refine Told.congr ?_ records ended
    cases (Puller.step task s net).1 with
    | finished result => exact told.other hcall result
    | _ =>
      show Told (answered ++ []) s taken
      rw [List.append_nil]
      exact told

end Told

/-- **What is true of a puller is kept throughout its use.** -/
theorem told_of_uses {uri : String} {s : Session SourceCall Puller Task Reply}
    {taken : List Frames} (uses : Uses uri s taken) :
    Told s.answered s.server taken ∧
      ∀ call task, s.current = some (call, task) → Left call task := by
  induction uses with
  | start => exact ⟨.of_notMem nofun (.running nofun) rfl, nofun⟩
  | ask before idle call ih =>
    refine ⟨ih.1, fun call' task h => ?_⟩
    cases h
    exact .begin call
  | @step s taken before net ih =>
    obtain ⟨told, left⟩ := ih
    obtain ⟨server, current, answered⟩ := s
    cases current with
    | none =>
      refine ⟨?_, nofun⟩
      show Told answered server (taken ++ net.drawn net)
      rw [Network.drawn_self, List.append_nil]
      exact told
    | some now =>
      obtain ⟨call, task⟩ := now
      have here := left call task rfl
      have told' : Told (answered ++ (step task server net).1.reply call)
          (step task server net).2.1 (taken ++ net.drawn (step task server net).2.2) :=
        told.step here net
      have goesOn : ∀ rest, (step task server net).1 = .working rest → Left call rest :=
        fun _ => here.step
      simp only [Session.step, source]
      generalize step task server net = x at told' goesOn
      obtain ⟨progress, server', net'⟩ := x
      cases progress with
      | waiting until? => exact ⟨by simpa [Progress.reply] using told', left⟩
      | working rest =>
        refine ⟨by simpa [Progress.reply] using told', fun call' task' h => ?_⟩
        cases h
        exact goesOn rest rfl
      | finished result => exact ⟨told', nofun⟩
      | panicked => exact ⟨by simpa [Progress.reply] using told', left⟩

/-- Once the end was answered, it is answered in one step. -/
theorem Told.atOnce {s : Session SourceCall Puller Task Reply} {taken : List Frames}
    (told : Told s.answered s.server taken) (spoken : endAnswer ∈ s.answered) (net : Network) :
    (s.ask source.toService .next).step source.toService net
      = ({ s with current := none, answered := s.answered ++ [endAnswer] }, net) := by
  obtain ⟨ended, empty, -⟩ := told.finished spoken
  simp only [Session.step, Session.ask, source, Puller.step, next, empty, ended, if_true]
  rfl

/-- **A puller hands out what it took, in its order**, and the end for ever. -/
theorem Uses.handsOut {uri : String} {s : Session SourceCall Puller Task Reply}
    {taken : List Frames} (uses : Uses uri s taken) : HandsOut s taken := by
  have told := (told_of_uses uses).1
  refine ⟨?_, fun before frames after htaken isEnd => ?_, told.forever, told.atOnce⟩
  · by_cases spoken : endAnswer ∈ s.answered
    · obtain ⟨ended, empty, count, handed⟩ := told.finished spoken
      refine ⟨_, count, handed, by rw [empty]; exact List.append_nil _, fun _ => ⟨empty, ?_⟩⟩
      have stage := told.stage
      rw [ended] at stage
      obtain _ | ⟨-, isEnd⟩ := stage
      exact ⟨_, _, rfl, isEnd⟩
    · exact ⟨_, 0, (List.append_nil _).symm, told.order spoken, nofun⟩
  · have stage := told.stage
    generalize s.server.ended = ended at stage
    cases stage with
    | running hnone =>
      have := hnone frames (by rw [htaken]; simp)
      rw [isEnd] at this
      cases this
    | @ended before' last' hnone isEnd' =>
      rcases List.eq_nil_or_concat' after with rfl | ⟨after', last, rfl⟩
      · rfl
      · rw [← List.cons_append, ← List.append_assoc] at htaken
        have := hnone frames (by rw [(List.append_inj' htaken rfl).1]; simp)
        rw [isEnd] at this
        cases this

end Puller

end RecordFarm
