import RecordFarm.Proofs.Farm.Erasure
import RecordFarm.Proofs.Farm.Harvest
import RecordFarm.Proofs.Farm.Supply

/-!
# A farm handles every record exactly once

The elements of a farm take their steps in any order. When all of them have ended well, every record
that the source yielded went to one worker, each worker had its records in their order, and the sink
took what the workers made of them, shuffled together, and the end last (`exactly_once`).

At every moment of such a run the accounts of the farm are in order (`Accounts`): `Supply` on the
way to the workers, `Harvest` on the way from them. A step of an element is a move, and every move
keeps the accounts (`accounts_stepAt`).
-/

namespace RecordFarm

namespace Farm

variable {σ τ π κ υ : Type}

def Parts.fresh (_ : Parts σ τ π κ υ) (net : Network) (layout : Layout) (source : σ)
    (processors : List π) (sink : κ) :
    Farm (σ × List Message) (SourceCall × τ) (π × List Bytes) (κ × List Message)
      (SinkCall × υ) :=
  .new net layout (source, []) (processors.map fun start => (start, [])) (sink, [])

/-- The accounts of a farm of `n` workers, with the router `r` at `d` and the pipe `p` at `c`. -/
structure Accounts (parts : Parts σ τ π κ υ) (source : σ) (d c : String) (n : Nat)
    (ids : Nat → ClientId) (starts : Nat → π)
    (f : Farm (σ × List Message) (SourceCall × τ) (π × List Bytes) (κ × List Message)
      (SinkCall × υ))
    (views : Nat → WorkerView π) (dv : DistView) (cv : GatherView) (r : Router) (p : Pipe) :
    Prop where
  lines : Lines f.net d c (dv.socket.map RouterSocket.number) (cv.pull.map PullSocket.number) r p
  source : f.distributor.Reached parts.source source
  distributor : DistAt d (Known n ids) Message.Carries f.distributor dv
  size : f.workers.length = n
  workers : ∀ i worker, f.workers[i]? = some worker → WorkerAt d c (ids i) worker (views i)
  collector : GatherAt parts.sink c n f.collector cv
  supply : Supply n ids views dv r
  harvest : Harvest parts.processor n ids starts views cv p

def InOrder (parts : Parts σ τ π κ υ) (source : σ) (d c : String) (n : Nat)
    (ids : Nat → ClientId) (starts : Nat → π)
    (f : Farm (σ × List Message) (SourceCall × τ) (π × List Bytes) (κ × List Message)
      (SinkCall × υ)) : Prop :=
  ∃ views dv cv r p, Accounts parts source d c n ids starts f views dv cv r p

/-- What happens away from the wires of a farm leaves its accounts in order. -/
theorem InOrder.elsewhere {parts : Parts σ τ π κ υ} {source : σ} {d c : String} {n : Nat}
    {ids : Nat → ClientId} {starts : Nat → π}
    {f : Farm (σ × List Message) (SourceCall × τ) (π × List Bytes) (κ × List Message)
      (SinkCall × υ)}
    (order : InOrder parts source d c n ids starts f) {net : Network} (same : f.net.SameWires net)
    (join : Join) (toAsk : List Place) (asking : Option Asking) :
    InOrder parts source d c n ids starts { f with net, join, toAsk, asking } := by
  obtain ⟨views, dv, cv, r, p, accounts⟩ := order
  exact ⟨views, dv, cv, r, p, accounts.lines.elsewhere same, accounts.source, accounts.distributor,
    accounts.size, accounts.workers, accounts.collector, accounts.supply, accounts.harvest⟩

section Steps

variable {parts : Parts σ τ π κ υ} {source : σ} {d c : String} {n : Nat} {ids : Nat → ClientId}
  {starts : Nat → π}
  {f : Farm (σ × List Message) (SourceCall × τ) (π × List Bytes) (κ × List Message)
    (SinkCall × υ)}

/-- **Every step of an element keeps the accounts**, unless the element fails. -/
theorem accounts_stepAt (stream : parts.source.IsStream source)
    (whole : ∀ i < n, parts.processor.IsWhole (starts i)) (plain : parts.sink.IsPlain) (hdc : d ≠ c)
    (distinct : ∀ i < n, ∀ j < n, ids i = ids j → i = j) (place : Place)
    (order : InOrder parts source d c n ids starts f) :
    (f.stepAt parts.logged place).2.Doomed ∨
      InOrder parts source d c n ids starts (f.stepAt parts.logged place).2 := by
  obtain ⟨views, dv, cv, r, p, accounts⟩ := order
  obtain ⟨lines, reached, distributor, size, workers, collector, supply, harvest⟩ := accounts
  -- The element that takes the step makes a move, and the accounts of the others stay as they are.
  cases place with
  | distributor =>
    have goes := distributor_step stream.feeds hdc distributor reached lines supply.mail.words
    rcases goes with ⟨failed, -⟩ | ⟨dv', r', move, here, lines'⟩
    · exact Or.inl (Or.inl failed)
    · have supply' := supply.distributor distinct move
      exact Or.inr ⟨views, dv', cv, r', p,
        ⟨lines', Element.reached_step reached, here, size, workers, collector, supply', harvest⟩⟩
  | worker i =>
    simp only [stepAt]
    cases hget : f.workers[i]? with
    | none =>
      exact Or.inr ⟨views, dv, cv, r, p,
        ⟨lines, reached, distributor, size, workers, collector, supply, harvest⟩⟩
    | some worker =>
      have hlt : i < f.workers.length := (List.getElem?_eq_some_iff.1 hget).1
      have hi : i < n := by rw [← size]; exact hlt
      have goes := worker_step (harvest.makesWhole hi (whole i hi)) (workers i worker hget) lines
        (fun s hs => (supply.mail.housed i hi s hs).1) (harvest.attached i hi)
        supply.mail.letters
      rcases goes with failed | ⟨v', r', p', move, here, lines'⟩
      · exact Or.inl (Or.inr (Or.inl ⟨_, List.mem_set hlt _, failed⟩))
      · have supply' := supply.worker hi move
        have harvest' := harvest.worker distinct hi move
        refine Or.inr ⟨Function.update views i v', dv, cv, r', p',
          ⟨lines', reached, distributor, ?_, ?_, collector, supply', harvest'⟩⟩
        · rw [List.length_set]
          exact size
        · intro j other hj
          rcases eq_or_ne j i with rfl | hne
          · rw [List.getElem?_set_self hlt] at hj
            cases hj
            rw [Function.update_self]
            exact here
          · rw [List.getElem?_set_ne hne.symm] at hj
            rw [Function.update_of_ne hne]
            exact workers j other hj
  | collector =>
    have goes := gatherer_step plain hdc collector lines harvest.parcels
    rcases goes with failed | ⟨cv', p', move, here, lines'⟩
    · exact Or.inl (Or.inr (Or.inr failed))
    · have harvest' := harvest.gatherer distinct move
      exact Or.inr ⟨views, dv, cv', r, p',
        ⟨lines', reached, distributor, size, workers, here, supply, harvest'⟩⟩

end Steps

/-! ## The start -/

/-- Each worker is given its processor, and no wire is laid. -/
theorem identify_spec (processors : List π) (net : Network) :
    (identify processors net).1.map Prod.snd = processors ∧
      net.SameWires (identify processors net).2 := by
  induction processors generalizing net with
  | nil => exact ⟨rfl, Network.SameWires.refl net⟩
  | cons start rest ih =>
    obtain ⟨hrest, same⟩ := ih net.freshIdentity.2
    exact ⟨congrArg (start :: ·) hrest, same.bound, same.routers, same.pipes⟩

/-- Which identities are given out does not hang on the processors. -/
theorem identify_map {α β : Type} (g : α → β) (processors : List α) (net : Network) :
    identify (processors.map g) net
      = ((identify processors net).1.map (Prod.map id g), (identify processors net).2) := by
  induction processors generalizing net with
  | nil => rfl
  | cons start rest ih =>
    simp only [List.map_cons, identify, ih]
    rfl

def identities (f : Farm σ τ π κ υ) : List ClientId :=
  f.workers.map fun worker => worker.strategy.source.identity

def identityAt (f : Farm σ τ π κ υ) (i : Nat) : ClientId := f.identities[i]?.getD ⟨0⟩

theorem identities_bare (f : Farm (σ × List Message) (SourceCall × τ) (π × List Bytes)
    (κ × List Message) (SinkCall × υ)) : f.bare.identities = f.identities := by
  unfold identities bare
  rw [List.map_map]
  rfl

/-- Workers of different places have different identities. -/
theorem identityAt_inj {f : Farm σ τ π κ υ} (distinct : f.identities.Nodup) :
    ∀ i < f.workers.length, ∀ j < f.workers.length, f.identityAt i = f.identityAt j → i = j := by
  intro i hi j hj h
  -- Both have an identity of their own, so this is a fact about the list of identities.
  have hlength : f.identities.length = f.workers.length := List.length_map _
  have hi' : i < f.identities.length := by omega
  have hj' : j < f.identities.length := by omega
  unfold identityAt at h
  rw [List.getElem?_eq_getElem hi', List.getElem?_eq_getElem hj'] at h
  exact (distinct.getElem_inj_iff).1 h

variable {parts : Parts σ τ π κ υ} {net : Network} {layout : Layout} {source : σ}
  {processors : List π} {sink : κ}

/-- A new farm without its logs is the new farm. -/
theorem bare_fresh : (parts.fresh net layout source processors sink).bare
    = .new net layout source processors sink := by
  simp only [Parts.fresh, Farm.new, bare, identify_map, List.length_map, List.zipIdx_map,
    List.map_map]
  rfl

theorem length_fresh_workers :
    (parts.fresh net layout source processors sink).workers.length = processors.length := by
  have := congrArg List.length
    (identify_spec (processors.map fun start => (start, ([] : List Bytes))) net).1
  simpa [Parts.fresh, Farm.new] using this

/-- A worker of a new farm has its processor, and nothing else. -/
theorem fresh_worker {i : Nat} {worker : Worker (π × List Bytes)}
    (h : (parts.fresh net layout source processors sink).workers[i]? = some worker) :
    ∃ name id start, processors[i]? = some start ∧
      worker = WorkerView.element layout.distributorUri layout.collectorUri id
        { proc := (start, []) } .created none none false name 0 .created {} := by
  have hspec := (identify_spec (processors.map fun start => (start, ([] : List Bytes))) net).1
  simp only [Parts.fresh, Farm.new, List.getElem?_map, List.getElem?_zipIdx] at h
  cases hget : (identify (processors.map fun start => (start, ([] : List Bytes))) net).1[i]? with
  | none =>
    rw [hget] at h
    cases h
  | some x =>
    rw [hget] at h
    cases h
    have hproc := congrArg (·[i]?) hspec
    simp only [List.getElem?_map, hget, Option.map_some] at hproc
    cases hstart : processors[i]? with
    | none =>
      rw [hstart] at hproc
      cases hproc
    | some start =>
      rw [hstart] at hproc
      refine ⟨s!"worker-{0 + i}", x.1, start, rfl, ?_⟩
      have hx : x.2 = (start, []) := Option.some.inj hproc
      rw [← hx]
      rfl

/-- Nothing has been supplied in a new farm. -/
theorem supply_fresh {n : Nat} {ids : Nat → ClientId} {starts : Nat → π} {uri : String}
    {expected : Nat} :
    Supply n ids (fun i => { proc := (starts i, []) }) { queue := { expected } } { uri } where
  mail := by
    constructor
    case housed => exact fun _ _ _ hs => nomatch hs
    case apart => exact fun _ _ _ _ _ _ hs => nomatch hs
    all_goals simp
  flow := by
    constructor
    case calm => exact ⟨rfl, by simp, fun m hm => by simp [hm], fun hr => nomatch hr⟩
    case dealt => exact ⟨[], .nothing fun _ _ => rfl, rfl⟩
    case blank => exact fun _ _ _ hx => nomatch hx
    case ordered => exact fun _ _ => .nil
    case running => exact fun _ _ _ => ⟨rfl, fun _ hx => nomatch hx⟩
    case finished => exact fun _ _ hended => nomatch hended
  waiting := by simp
  due := by simp
  yielded := ⟨by simp, fun hended => nomatch hended⟩

/-- Nothing has been harvested in a new farm. -/
theorem harvest_fresh {P : Processor π} {n : Nat} {ids : Nat → ClientId} {starts : Nat → π}
    {uri : String} :
    Harvest P n ids starts (fun i => { proc := (starts i, []) }) {} { uri } where
  attached := fun _ _ _ hs => nomatch hs
  unbound := fun _ => rfl
  parcels := by simp
  made := ⟨fun _ => [], fun _ _ => ⟨by simp, rfl⟩, .nothing fun _ _ => rfl⟩
  roll := ⟨fun _ _ => rfl, trivial, .nil, by simp⟩

/-- **The accounts of a new farm are in order**, when its addresses are free. -/
theorem inOrder_fresh (hd : net.lookup layout.distributorUri = none)
    (hc : net.lookup layout.collectorUri = none) (start : π) :
    InOrder parts source layout.distributorUri layout.collectorUri processors.length
      (parts.fresh net layout source processors sink).identityAt
      (fun i => processors[i]?.getD start) (parts.fresh net layout source processors sink) := by
  obtain ⟨hspec, same⟩ :=
    identify_spec (processors.map fun start => (start, ([] : List Bytes))) net
  have hlength := congrArg List.length hspec
  rw [List.length_map, List.length_map] at hlength
  refine ⟨fun i => { proc := (processors[i]?.getD start, []) },
    { queue :=
        { expected :=
            (identify (processors.map fun start => (start, ([] : List Bytes))) net).1.length } },
    {}, { uri := layout.distributorUri }, { uri := layout.collectorUri }, ?_⟩
  constructor
  case lines => exact (Lines.unbound hd hc _ _).elsewhere same
  case source => exact .start
  case distributor => exact .mk (.opening (.created _ _))
  case size => exact length_fresh_workers
  case workers =>
    intro i worker h
    have hid : (parts.fresh net layout source processors sink).identityAt i
        = worker.strategy.source.identity := by
      unfold identityAt identities
      rw [List.getElem?_map, h]
      rfl
    obtain ⟨name, id, start', hstart, rfl⟩ := fresh_worker h
    rw [hid, hstart]
    exact .mk (.arriving (.created _))
  case collector =>
    have here : GatherAt parts.sink layout.collectorUri _
        (parts.fresh net layout source processors sink).collector {} :=
      .mk (.gathering (.created _)) rfl
    rwa [hlength] at here
  case supply => exact supply_fresh
  case harvest => exact harvest_fresh

/-! ## The end -/

/-- The records that a worker was given. -/
def share (f : Farm σ τ (π × List Bytes) κ υ) (i : Nat) : List Bytes :=
  (f.workers[i]?.map fun worker => worker.strategy.processor.2).getD []

theorem endedWell_of_bare {f : Farm (σ × List Message) (SourceCall × τ) (π × List Bytes)
    (κ × List Message) (SinkCall × υ)} (well : f.bare.EndedWell) : f.EndedWell := by
  intro place hplace
  have hlength : f.bare.workers.length = f.workers.length := List.length_map _
  obtain ⟨stats, h⟩ := well place (by rw [hlength]; exact hplace)
  refine ⟨stats, ?_⟩
  rw [← h, ended_bare]

theorem EndedWell.distributor {f : Farm σ τ π κ υ} (well : f.EndedWell) :
    f.distributor.outcome? ≠ none := by
  obtain ⟨stats, h⟩ := well .distributor (by simp [places])
  intro hnone
  simp only [ended, hnone] at h
  cases h

theorem EndedWell.collector {f : Farm σ τ π κ υ} (well : f.EndedWell) :
    f.collector.outcome? ≠ none := by
  obtain ⟨stats, h⟩ := well .collector (by simp [places])
  intro hnone
  simp only [ended, hnone] at h
  cases h

theorem EndedWell.worker {f : Farm σ τ π κ υ} (well : f.EndedWell) {i : Nat}
    {worker : Worker π} (hget : f.workers[i]? = some worker) : worker.outcome? ≠ none := by
  have hlt : i < f.workers.length := (List.getElem?_eq_some_iff.1 hget).1
  obtain ⟨stats, h⟩ := well (.worker i) (by simp [places, hlt])
  intro hnone
  simp only [ended, hget, Option.bind_some, hnone] at h
  cases h

/-- What a farm of these processors has done, by its logs: the source yielded records and then the
end, the records were dealt out to the workers, and what the sink took are the records that the
processors of the workers made of their shares, shuffled together, and the end. -/
def HandledOnce (P : Processor π) (processors : List π)
    (f : Farm (σ × List Message) (SourceCall × τ) (π × List Bytes) (κ × List Message)
      (SinkCall × υ)) : Prop :=
  ∃ items last outputs collected,
    f.distributor.strategy.source.2 = items ++ [last] ∧ last.isEnd = true ∧
    (∀ item ∈ items, item.Carries) ∧
    Dealt processors.length f.share (items.flatMap Message.content) ∧
    (∀ i start, processors[i]? = some start →
      ∃ state, P.run (f.share i) start = (.ok (outputs i), state)) ∧
    Dealt processors.length outputs collected ∧
    f.collector.strategy.sink.2
      = collected.map (fun record => .process [record]) ++ [.endOfStream]

/-- What the accounts come to, when all elements have ended well. -/
theorem InOrder.handledOnce {d c : String} {ids : Nat → ClientId} {start : π}
    {f : Farm (σ × List Message) (SourceCall × τ) (π × List Bytes) (κ × List Message)
      (SinkCall × υ)}
    (order : InOrder parts source d c processors.length ids (fun i => processors[i]?.getD start) f)
    (well : f.EndedWell) : HandledOnce parts.processor processors f := by
  obtain ⟨views, dv, cv, r, p, accounts⟩ := order
  obtain ⟨done, hlog⟩ := accounts.distributor.settled well.distributor
  obtain ⟨ended, closed, htaken⟩ := accounts.collector.settled well.collector
  -- Every worker has left, and kept nothing back.
  have workers : ∀ i < processors.length, ∃ worker, f.workers[i]? = some worker ∧
      worker.strategy.processor = (views i).proc ∧ (views i).ended = true ∧
      (views i).stage = .gone ∧ (views i).hand = [] ∧ (views i).records = [] ∧
      (views i).output = [] := by
    intro i hi
    have hlt : i < f.workers.length := by rw [accounts.size]; exact hi
    have hget := List.getElem?_eq_getElem hlt
    have here := accounts.workers i _ hget
    exact ⟨_, hget, here.processor, here.settled (well.worker hget)⟩
  have shares : ∀ i < processors.length, f.share i = (views i).proc.2 := by
    intro i hi
    obtain ⟨worker, hget, hproc, -⟩ := workers i hi
    unfold share
    rw [hget, ← hproc]
    rfl
  -- With nothing left on its way, what was yielded is what was given and what was made is taken.
  obtain ⟨items, last, hitems, hlast, carry⟩ := accounts.supply.yielded.last done.ended
  have supplied := accounts.supply.settled done.rundown done.idle.hand fun i hi => by
    obtain ⟨-, -, -, hended, -, hhand, hrecords, -⟩ := workers i hi
    exact ⟨hended, hhand, hrecords⟩
  obtain ⟨made, hmade, harvested⟩ := accounts.harvest.settled ended.producers ended.seen ended.hand
    ended.records fun i hi => by
      obtain ⟨-, -, -, -, hstage, -, -, houtput⟩ := workers i hi
      exact ⟨hstage, houtput⟩
  refine ⟨items, last, made, cv.collected, hlog.trans hitems, hlast, carry, ?_, ?_, harvested, ?_⟩
  · rw [hitems, List.flatMap_append, List.flatMap_singleton, Message.content_of_isEnd hlast,
      List.append_nil] at supplied
    exact supplied.congr shares
  · intro i start hstart
    have hi : i < processors.length := (List.getElem?_eq_some_iff.1 hstart).1
    refine ⟨(views i).proc.1, ?_⟩
    rw [shares i hi]
    have := hmade i hi
    rwa [hstart] at this
  · rw [htaken, GatherView.log, closed, if_pos rfl]

/-! ## Parts of a small farm -/

def everyOther : Processor Bool where
  process record keep := (.ok (if keep then [record] else []), !keep)

/-- A processor that drops every other record keeps records whole. -/
theorem everyOther_isWhole (start : Bool) : everyOther.IsWhole start := by
  refine Processor.isWhole_of_makesWhole (fun keep record outputs s whole h output houtput => ?_) _
  cases h
  cases keep with
  | false => cases houtput
  | true =>
    rw [List.mem_singleton.1 houtput]
    exact whole

def shelf : Sink Network Unit SinkCall where
  start := id
  step
    | .send _, s, net => (.finished (.ok none), s, net)
    | call, s, net => (.finished call.refused, s, net)
  connector? _ := none
  wantsInput s net := (true, s, net)
  isDrained _ _ := true

theorem shelf_isPlain : shelf.IsPlain where
  apart task s net := by
    cases task <;> exact Network.SameWires.refl net
  silent := by
    have same : ∀ task s, shelf.toService.Serving .poll task s → task = .poll := by
      intro task s now
      induction now with
      | start s => rfl
      | @working task _ _ _ _ _ _ h ih =>
        subst ih
        cases h
      | waiting _ h ih => exact ih
    rintro reply ⟨task, s, net, s', net', now, h⟩
    obtain rfl := same task s now
    cases h
    rfl
  eager _ _ := rfl
  settled _ _ := rfl

/-- The parts of a farm that keeps about half of what it gets. -/
def halving : Parts (List Message) SourceCall Bool Unit SinkCall := ⟨row, everyOther, shelf⟩

def threeRecords : List Message :=
  [.process [[4, 0, 0, 0], [5, 0, 0, 0, 7]], .process [[6, 0, 0, 0, 8, 9]]]

theorem threeRecords_carry : ∀ m ∈ threeRecords, m.Carries := by
  intro m hm
  simp only [threeRecords, List.mem_cons, List.not_mem_nil, or_false] at hm
  rcases hm with rfl | rfl
  · exact ⟨rfl, _, Message.records_process (by decide)⟩
  · exact ⟨rfl, _, Message.records_process (by decide)⟩

/-- A farm of two workers, whose queues hold one row of frames each. -/
def halvingFarm : Farm (List Message) SourceCall Bool Unit SinkCall :=
  .new { limits := { capacity := 1, connectTimeout := 5000, linger := 1000 } } {} threeRecords
    [true, true] ()

def inTurn (rounds : Nat) : List Place := (List.replicate rounds (places 2)).flatten

/-! ## Exactly once -/

/-- **A farm handles every record exactly once.** Take a farm of one worker or more, whose addresses
are free, and any order of steps after which all elements have ended well. The same run with logs
says that the records which the source yielded were dealt out to the workers, and that the sink took
what the workers made of their shares, and the end. -/
theorem exactly_once (stream : parts.source.IsStream source)
    (whole : ∀ start ∈ processors, parts.processor.IsWhole start)
    (plain : parts.sink.IsPlain) (manned : processors ≠ [])
    (hd : net.lookup layout.distributorUri = none) (hc : net.lookup layout.collectorUri = none)
    (hdc : layout.distributorUri ≠ layout.collectorUri)
    (distinct : (Farm.new net layout source processors sink : Farm σ τ π κ υ).identities.Nodup)
    {f : Farm σ τ π κ υ} (runs : Runs parts (.new net layout source processors sink) f)
    (well : f.EndedWell) :
    ∃ g, Runs parts.logged (parts.fresh net layout source processors sink) g ∧ g.bare = f ∧
      HandledOnce parts.processor processors g := by
  -- The run is what is seen of a run with logs, and the accounts are kept along that one.
  rw [← bare_fresh] at runs distinct
  obtain ⟨g, runs', rfl⟩ := runs_logged runs
  have well' := endedWell_of_bare well
  have distinct' := identityAt_inj ((identities_bare _).symm ▸ distinct)
  rw [length_fresh_workers] at distinct'
  have whole' : ∀ i < processors.length,
      parts.processor.IsWhole (processors[i]?.getD (processors.head manned)) := by
    intro i hi
    rw [List.getElem?_eq_getElem hi]
    exact whole _ (List.getElem_mem hi)
  have order := runs_induction
    (P := InOrder parts source layout.distributorUri layout.collectorUri processors.length
      (parts.fresh net layout source processors sink).identityAt
      (fun i => processors[i]?.getD (processors.head manned)))
    (fun f place order => accounts_stepAt stream whole' plain hdc distinct' place order)
    (fun f net join toAsk asking order same => order.elsewhere same join toAsk asking)
    runs' (inOrder_fresh hd hc _) well'
  exact ⟨g, runs', rfl, order.handledOnce well'⟩

/-- After 72 rounds the elements of the farm have ended, and it has handled its records once. -/
theorem exactly_once_rehearsal :
    (halvingFarm.stepsAt halving (inTurn 72)).EndedWell ∧
      ∃ g, Runs halving.logged
          (halving.fresh { limits := { capacity := 1, connectTimeout := 5000, linger := 1000 } } {}
            threeRecords [true, true] ()) g ∧
        g.bare = halvingFarm.stepsAt halving (inTurn 72) ∧
        HandledOnce everyOther [true, true] g := by
  have well : (halvingFarm.stepsAt halving (inTurn 72)).EndedWell := by decide +kernel
  refine ⟨well,
    exactly_once (row_isStream threeRecords_carry) (fun start _ => everyOther_isWhole start)
    shelf_isPlain (by simp) rfl rfl (by decide) (by decide +kernel) ?_ well⟩
  exact runs_stepsAt halving (.none halvingFarm) (inTurn 72)

end Farm

end RecordFarm
