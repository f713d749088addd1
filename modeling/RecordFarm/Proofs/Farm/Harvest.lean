import RecordFarm.Proofs.Farm.Dealt
import RecordFarm.Proofs.Farm.Roll

/-!
# From the workers to the sink

`Harvest` is what is true of the workers, the pipe and the collector at every moment of a run: what
the processor of a worker made is what the worker pushed and what it is about to push; what all
workers pushed is, shuffled together, what the sink took, what the collector has and what is in the
pipe, in this order; and the collector knows who is there. Every move of a worker and of the
collector keeps it (`Harvest.worker`, `Harvest.gatherer`).
-/

namespace RecordFarm

namespace Farm

variable {π : Type}

def cargo (queue : Mailbox) : List Bytes :=
  queue.flatMap fun frames => (Message.arrived frames).content

/-- What is true of the `n` workers, the pipe and the collector. -/
structure Harvest (P : Processor π) (n : Nat) (ids : Nat → ClientId) (starts : Nat → π)
    (views : Nat → WorkerView π) (cv : GatherView) (p : Pipe) : Prop where
  attached : ∀ i < n, ∀ s, (views i).push = some s →
    cv.pull.map PullSocket.number = some s.number
  unbound : cv.pull = none → p.queue = []
  parcels : ∀ frames ∈ p.queue, ∃ m, Message.ofFrames frames = .ok m ∧ Parcel (Known n ids) m
  made : ∃ pushed : Nat → List Bytes,
    (∀ i < n, P.Ran (starts i) (views i).proc (pushed i ++ (views i).output)) ∧
    Dealt n pushed (cv.collected ++ cv.hand ++ cv.records ++ cargo p.queue)
  roll : Roll n ids (fun i => (views i).stage) cv.seen cv.producers p.queue

namespace Harvest

variable {P : Processor π} {n : Nat} {ids : Nat → ClientId} {starts : Nat → π}
  {views : Nat → WorkerView π} {cv cv' : GatherView} {p p' : Pipe} {i : Nat} {v' : WorkerView π}

/-- A worker changes and says nothing. Its pipe is the collector's, and what its processor made is
what it pushed and what it is about to push. -/
theorem revise (harvest : Harvest P n ids starts views cv p)
    (hpush : i < n → ∀ s, v'.push = some s → cv.pull.map PullSocket.number = some s.number)
    (hran : ∀ pushed, P.Ran (starts i) (views i).proc (pushed ++ (views i).output) →
      P.Ran (starts i) v'.proc (pushed ++ v'.output))
    (hstage : v'.stage = (views i).stage) :
    Harvest P n ids starts (Function.update views i v') cv p where
  attached := by
    intro j hj s hs
    rcases eq_or_ne j i with rfl | hne
    · rw [Function.update_self] at hs
      exact hpush hj s hs
    · rw [Function.update_of_ne hne] at hs
      exact harvest.attached j hj s hs
  unbound := harvest.unbound
  parcels := harvest.parcels
  made := by
    obtain ⟨pushed, ran, dealt⟩ := harvest.made
    refine ⟨pushed, fun j hj => ?_, dealt⟩
    rcases eq_or_ne j i with rfl | hne
    · rw [Function.update_self]
      exact hran _ (ran j hj)
    · rw [Function.update_of_ne hne]
      exact ran j hj
  roll := by
    rw [comp_update WorkerView.stage, hstage, Function.update_eq_self]
    exact harvest.roll

/-- Only some of what matters of a worker matters here. -/
theorem congr (harvest : Harvest P n ids starts views cv p) (hproc : v'.proc = (views i).proc)
    (hpush : v'.push = (views i).push) (hstage : v'.stage = (views i).stage)
    (houtput : v'.output = (views i).output) :
    Harvest P n ids starts (Function.update views i v') cv p := by
  refine harvest.revise (fun hi s hs => ?_) (fun pushed ran => ?_) hstage
  · rw [hpush] at hs
    exact harvest.attached i hi s hs
  · rw [hproc, houtput]
    exact ran

/-- A worker that processes a record has its outputs to push. -/
theorem handle (harvest : Harvest P n ids starts views cv p) {x : Bytes} {outs : List Bytes}
    {state : π} (free : (views i).output = []) (wholeX : Record.isWhole x = true)
    (works : P.process x (views i).proc.1 = (.ok outs, state)) (hand : List Bytes) :
    Harvest P n ids starts
      (Function.update views i
        { views i with proc := (state, (views i).proc.2 ++ [x]), hand, output := outs }) cv p := by
  refine harvest.revise (fun hi => harvest.attached i hi) (fun pushed ran => ?_) rfl
  -- Everything made before was pushed, so the new output comes right after it.
  rw [free, List.append_nil] at ran
  exact ran.snoc wholeX works

theorem attach (harvest : Harvest P n ids starts views cv p) {s : PushSocket}
    (number : cv.pull.map PullSocket.number = some s.number) :
    Harvest P n ids starts (Function.update views i { views i with push := some s }) cv p := by
  refine harvest.revise (fun _ t ht => ?_) (fun _ ran => ran) rfl
  cases ht
  exact number

/-- A worker pushes a part of its output, or says a word of its own. -/
theorem append (harvest : Harvest P n ids starts views cv p) (hi : i < n) {s : PushSocket}
    (own : (views i).push = some s) {frames : Frames} {m : Message}
    (framed : Message.ofFrames frames = .ok m) (parcel : Parcel (Known n ids) m) {stage : Stage}
    {output : List Bytes} (made : m.content ++ output = (views i).output)
    (strange : ∀ j < n, j ≠ i → wordOf (ids j) m = none)
    (speaks : stage.said = (views i).stage.said ++ (wordOf (ids i) m).toList)
    (stays : (views i).stage = .present → stage = .present ∨ wordOf (ids i) m = some false)
    (last : m.kind = .process → stage = .present) :
    Harvest P n ids starts (Function.update views i { views i with stage, output }) cv
      { p with queue := p.queue ++ [frames] } where
  attached := by
    intro j hj t ht
    refine harvest.attached j hj t ?_
    rcases eq_or_ne j i with rfl | hne
    · rwa [Function.update_self] at ht
    · rwa [Function.update_of_ne hne] at ht
  unbound := by
    intro hpull
    have := harvest.attached i hi s own
    rw [hpull] at this
    cases this
  parcels := by
    intro read hread
    rcases List.mem_append.1 hread with hread | hread
    · exact harvest.parcels read hread
    · rw [List.mem_singleton.1 hread]
      exact ⟨m, framed, parcel⟩
  made := by
    obtain ⟨pushed, ran, dealt⟩ := harvest.made
    refine ⟨Function.update pushed i (pushed i ++ m.content), fun j hj => ?_, ?_⟩
    · rcases eq_or_ne j i with rfl | hne
      · rw [Function.update_self, Function.update_self, List.append_assoc, made]
        exact ran j hj
      · rw [Function.update_of_ne hne, Function.update_of_ne hne]
        exact ran j hj
    · -- The records go last into the row, and they are those of this worker.
      have cargo_append : cargo (p.queue ++ [frames]) = cargo p.queue ++ m.content := by
        unfold cargo
        rw [List.flatMap_append, List.flatMap_singleton, Message.arrived_of_framed framed]
      rw [cargo_append, ← List.append_assoc]
      exact dealt.deal hi m.content (Function.update_self ..)
        fun j _ hne => Function.update_of_ne hne ..
  roll := by
    rw [comp_update WorkerView.stage]
    refine harvest.roll.append (fun j hj => ?_) (fun j hj present => ?_) fun hkind => ?_
    · rw [Message.arrived_of_framed framed]
      rcases eq_or_ne j i with rfl | hne
      · rw [Function.update_self]
        exact speaks
      · rw [Function.update_of_ne hne, strange j hj hne]
        exact (List.append_nil _).symm
    · rw [Message.arrived_of_framed framed]
      rcases eq_or_ne j i with rfl | hne
      · rw [Function.update_self]
        exact stays present
      · rw [Function.update_of_ne hne]
        exact Or.inl present
    · rw [Message.arrived_of_framed framed] at hkind
      exact ⟨i, hi, by rw [Function.update_self]; exact last hkind⟩

variable {r r' : Router} {rn : Option Nat}

/-- **Every move of a worker keeps the harvest in order.** -/
theorem worker (harvest : Harvest P n ids starts views cv p)
    (distinct : ∀ i < n, ∀ j < n, ids i = ids j → i = j) (hi : i < n)
    (move : WorkerMove P (ids i) rn (cv.pull.map PullSocket.number) (views i) r p v' r' p') :
    Harvest P n ids starts (Function.update views i v') cv p' := by
  have strange : ∀ j < n, j ≠ i → ids j ≠ ids i := fun j hj hne heq => hne (distinct j hj i hi heq)
  generalize hv : views i = v at move
  cases move with
  | handle hand free wholeX works =>
    subst hv
    exact harvest.handle free wholeX works []
  | attach number =>
    subst hv
    exact harvest.attach number
  | @announce s frames own fresh framed =>
    subst hv
    refine harvest.append hi own framed (.registration ⟨i, hi, rfl⟩) rfl (fun j hj hne => ?_) ?_
      (fun _ => Or.inl rfl) (fun hkind => ?_)
    · rw [wordOf_registration, if_neg (strange j hj hne)]
    · rw [fresh, wordOf_registration, if_pos rfl]
      rfl
    · cases hkind
  | @push s frames m own present framed kind content =>
    subst hv
    have noWord := fun id => wordOf_of_kind id (Or.inl kind)
    refine harvest.append hi own framed (.records kind content) ?_ (fun j _ _ => noWord _) ?_ Or.inl
      (fun _ => present)
    · rw [Message.content_of_records kind content, List.append_nil]
    · rw [noWord]
      exact (List.append_nil _).symm
  | @pushEnd s frames own framed =>
    subst hv
    have noWord := fun id => wordOf_of_kind (m := .endOfStream) id (Or.inr rfl)
    refine harvest.append hi own framed .endOfStream rfl (fun j _ _ => noWord _) ?_ Or.inl
      (fun hkind => ?_)
    · rw [noWord]
      exact (List.append_nil _).symm
    · cases hkind
  | @withdraw s frames own present framed =>
    subst hv
    refine harvest.append hi own framed (.unregistration ⟨i, hi, rfl⟩) rfl (fun j hj hne => ?_) ?_
      (fun _ => Or.inr ?_) (fun hkind => ?_)
    · rw [wordOf_unregistration, if_neg (strange j hj hne)]
    · rw [present, wordOf_unregistration, if_pos rfl]
      rfl
    · rw [wordOf_unregistration, if_pos rfl]
    · cases hkind
  | _ =>
    -- The other moves are between the worker and the distributor.
    subst hv
    exact harvest.congr rfl rfl rfl rfl

/-- The collector takes in what was pushed first. What it has and what is in the pipe is the same as
before, together. -/
theorem pop (harvest : Harvest P n ids starts views cv p) {frames : Frames} {rest : Mailbox}
    (first : p.queue = frames :: rest) (hpull : cv'.pull = cv.pull)
    (same : cv'.collected ++ cv'.hand ++ cv'.records
      = cv.collected ++ cv.hand ++ cv.records ++ (Message.arrived frames).content)
    (roll : Roll n ids (fun i => (views i).stage) cv'.seen cv'.producers rest) :
    Harvest P n ids starts views cv' { p with queue := rest } where
  attached := by
    rw [hpull]
    exact harvest.attached
  unbound := by
    intro hnone
    rw [hpull] at hnone
    have := harvest.unbound hnone
    rw [first] at this
    cases this
  parcels := fun read hread => harvest.parcels read (by
    rw [first]
    exact List.mem_cons_of_mem _ hread)
  made := by
    obtain ⟨pushed, ran, dealt⟩ := harvest.made
    refine ⟨pushed, ran, ?_⟩
    rw [first] at dealt
    rw [same, List.append_assoc]
    exact dealt
  roll := roll

/-- The collector passes on what it has. Nothing is gained or lost. -/
theorem forward (harvest : Harvest P n ids starts views cv p) (hpull : cv'.pull = cv.pull)
    (same : cv'.collected ++ cv'.hand ++ cv'.records = cv.collected ++ cv.hand ++ cv.records)
    (hseen : cv'.seen = cv.seen) (hproducers : cv'.producers = cv.producers) :
    Harvest P n ids starts views cv' p where
  attached := by
    rw [hpull]
    exact harvest.attached
  unbound := by
    rw [hpull]
    exact harvest.unbound
  parcels := harvest.parcels
  made := by
    obtain ⟨pushed, ran, dealt⟩ := harvest.made
    refine ⟨pushed, ran, ?_⟩
    rw [same]
    exact dealt
  roll := by
    rw [hseen, hproducers]
    exact harvest.roll

/-- A word that the collector takes in is the word of a worker. -/
theorem known_registration {known : ClientId → Prop} {id : ClientId}
    (parcel : Parcel known (.registration id)) : known id := by
  generalize hm : Message.registration id = m at parcel
  cases parcel with
  | registration h =>
    rw [Message.registration_inj hm]
    exact h
  | records kind =>
    subst hm
    cases kind
  | endOfStream => cases hm
  | unregistration h => simp [Message.registration, Message.unregistration] at hm

theorem known_unregistration {known : ClientId → Prop} {id : ClientId}
    (parcel : Parcel known (.unregistration id)) : known id := by
  generalize hm : Message.unregistration id = m at parcel
  cases parcel with
  | registration h => simp [Message.registration, Message.unregistration] at hm
  | records kind =>
    subst hm
    cases kind
  | endOfStream => cases hm
  | unregistration h =>
    rw [Message.unregistration_inj hm]
    exact h

/-- **Every move of the collector keeps the harvest in order.** -/
theorem gatherer (harvest : Harvest P n ids starts views cv p)
    (distinct : ∀ i < n, ∀ j < n, ids i = ids j → i = j) {c : String}
    (move : GatherMove c n cv p cv' p') : Harvest P n ids starts views cv' p' := by
  cases move with
  | still => exact harvest
  | bind s free =>
    -- Nothing was pushed before there was a pipe.
    have empty := harvest.unbound free
    have roll := harvest.roll
    obtain ⟨pushed, ran, dealt⟩ := harvest.made
    rw [empty] at roll dealt
    refine ⟨fun j hj t ht => ?_, fun _ => rfl, by simp, ⟨pushed, ran, dealt⟩, roll⟩
    have := harvest.attached j hj t ht
    rw [free] at this
    cases this
  | @takeIn frames rest m records first framed kind content =>
    have roll := harvest.roll
    rw [first] at roll
    refine harvest.pop first rfl ?_ (roll.skip fun j _ => ?_)
    · rw [Message.arrived_of_framed framed, Message.content_of_records kind content,
        ← List.append_assoc]
    · rw [Message.arrived_of_framed framed]
      exact wordOf_of_kind _ (Or.inl kind)
  | @greet frames rest id first framed =>
    obtain ⟨m, hm, parcel⟩ := harvest.parcels frames (by rw [first]; exact List.mem_cons_self)
    rw [framed] at hm
    cases hm
    -- It is the word of a worker, since nobody else has the pipe.
    obtain ⟨i, hi, rfl⟩ := known_registration parcel
    have roll := harvest.roll
    rw [first] at roll
    refine harvest.pop first rfl ?_ (roll.greet distinct hi framed)
    rw [Message.arrived_of_framed framed]
    exact (List.append_nil _).symm
  | @dismiss frames rest id first framed =>
    obtain ⟨m, hm, parcel⟩ := harvest.parcels frames (by rw [first]; exact List.mem_cons_self)
    rw [framed] at hm
    cases hm
    obtain ⟨i, hi, rfl⟩ := known_unregistration parcel
    have roll := harvest.roll
    rw [first] at roll
    refine harvest.pop first rfl ?_ (roll.dismiss distinct hi framed)
    rw [Message.arrived_of_framed framed]
    exact (List.append_nil _).symm
  | @overhear frames rest first framed =>
    have roll := harvest.roll
    rw [first] at roll
    refine harvest.pop first rfl ?_ (roll.skip fun j _ => ?_)
    · rw [Message.arrived_of_framed framed]
      exact (List.append_nil _).symm
    · rw [Message.arrived_of_framed framed]
      exact wordOf_of_kind _ (Or.inr rfl)
  | @fetch x rest first free =>
    refine harvest.forward rfl ?_ rfl rfl
    simp [first, free]
  | @collect x hand =>
    refine harvest.forward rfl ?_ rfl rfl
    simp [hand]
  | finish => exact harvest.forward rfl rfl rfl rfl
  | conclude => exact harvest.forward rfl rfl rfl rfl
  | close =>
    exact ⟨harvest.attached, harvest.unbound, harvest.parcels, harvest.made, harvest.roll⟩

/-- Wherever it got to, the processor of a worker makes whole records. -/
theorem makesWhole (harvest : Harvest P n ids starts views cv p) (hi : i < n)
    (whole : P.IsWhole (starts i)) : P.MakesWhole (views i).proc.1 := by
  obtain ⟨pushed, ran, -⟩ := harvest.made
  exact (ran i hi).makesWhole whole

/-- **In the end the sink has taken everything that was made.** -/
theorem settled (harvest : Harvest P n ids starts views cv p) (producers : cv.producers = [])
    (enough : n ≤ cv.seen.length) (hand : cv.hand = []) (records : cv.records = [])
    (done : ∀ i < n, (views i).stage = .gone ∧ (views i).output = []) :
    ∃ made : Nat → List Bytes,
      (∀ i < n, P.run (views i).proc.2 (starts i) = (.ok (made i), (views i).proc.1)) ∧
      Dealt n made cv.collected := by
  obtain ⟨pushed, ran, dealt⟩ := harvest.made
  have roll := harvest.roll
  rw [producers] at roll
  -- Everybody was seen to come and to leave, so there is no record behind in the pipe.
  have silent := roll.silence enough fun i hi => (done i hi).1
  have empty : cargo p.queue = [] := by
    refine List.flatMap_eq_nil_iff.2 fun frames hframes => ?_
    unfold Message.content
    exact if_neg (silent frames hframes)
  refine ⟨pushed, fun i hi => ?_, ?_⟩
  · have := ran i hi
    rw [(done i hi).2, List.append_nil] at this
    exact this.run
  · rw [hand, records, empty] at dealt
    simpa only [List.append_nil] using dealt

end Harvest

end Farm

end RecordFarm
