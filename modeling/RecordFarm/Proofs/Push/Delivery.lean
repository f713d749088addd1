import RecordFarm.Proofs.Farm.Erasure
import RecordFarm.Proofs.Farm.ExactlyOnce
import RecordFarm.Proofs.Push.Consuming

/-!
# A stream that is pushed is delivered

A pusher and a pipeline that pulls from it take their steps in any order. When the pipeline has
ended well, its sink took what its processor made of the records of the stream, one message for each
record that anything was made of, in the order of the stream, and then the end (`stream_preserved`).
Nothing is asked of the pusher: it may fail, or give up waiting for its messages to be taken.

At every moment of a run the messages that were pushed are those that were taken and those that are
still in the pipe (`Accounts`).
-/

namespace RecordFarm

namespace Push

variable {σ τ π κ υ : Type}

/-! ## Producer and consumer -/

/-- A pusher and a pipeline that pulls from it, in one network. -/
structure Pair (σ τ π κ υ : Type) where
  net : Network
  producer : Element (Pusher σ) (Pusher.Task τ)
  consumer : Element (Pipeline Puller π κ) (Pipeline.Task Puller.Task υ)

inductive Party where
  | producer
  | consumer
  deriving DecidableEq, Repr

namespace Pair

/-- A pusher and a puller at the same address, before anything has happened. -/
def new (net : Network) (uri producerName consumerName : String) (source : σ) (processor : π)
    (sink : κ) : Pair σ τ π κ υ where
  net := net
  producer := { strategy := { name := producerName, uri, source } }
  consumer := { strategy := { name := consumerName, source := { uri }, processor, sink } }

def stepAt (A : Source Network σ τ) (P : Processor π) (B : Sink Network κ υ)
    (pair : Pair σ τ π κ υ) : Party → Pair σ τ π κ υ
  | .producer =>
    let after := pair.producer.step (Pusher.strategy A) pair.net
    { pair with producer := after.2.1, net := after.2.2 }
  | .consumer =>
    let after := pair.consumer.step (Pipeline.strategy Puller.source P B) pair.net
    { pair with consumer := after.2.1, net := after.2.2 }

def stepsAt (A : Source Network σ τ) (P : Processor π) (B : Sink Network κ υ)
    (pair : Pair σ τ π κ υ) (order : List Party) : Pair σ τ π κ υ :=
  order.foldl (stepAt A P B) pair

/-- One pair comes from another by steps in any order. In between anything may happen in the network
that spares the address. -/
inductive Runs (A : Source Network σ τ) (P : Processor π) (B : Sink Network κ υ) (uri : String) :
    Pair σ τ π κ υ → Pair σ τ π κ υ → Prop where
  | none (pair : Pair σ τ π κ υ) : Runs A P B uri pair pair
  | step {first pair : Pair σ τ π κ υ} (runs : Runs A P B uri first pair) (party : Party) :
      Runs A P B uri first (pair.stepAt A P B party)
  | elsewhere {first pair : Pair σ τ π κ υ} (runs : Runs A P B uri first pair) {net : Network}
      (spares : pair.net.Spares uri net) : Runs A P B uri first { pair with net }

theorem runs_stepsAt {A : Source Network σ τ} {P : Processor π} {B : Sink Network κ υ}
    {uri : String} {first pair : Pair σ τ π κ υ} (runs : Runs A P B uri first pair)
    (order : List Party) : Runs A P B uri first (pair.stepsAt A P B order) := by
  induction order generalizing pair with
  | nil => exact runs
  | cons party order ih => exact ih (runs.step party)

/-! ## Logs -/

def bare (pair : Pair (σ × List Message) (SourceCall × τ) π (κ × List Message) (SinkCall × υ)) :
    Pair σ τ π κ υ where
  net := pair.net
  producer := pair.producer.map (Pusher.Task.map Prod.snd) (Pusher.map Prod.fst)
  consumer := pair.consumer.map (Pipeline.Task.map id Prod.snd) (Pipeline.map id id Prod.fst)

variable {A : Source Network σ τ} {P : Processor π} {B : Sink Network κ υ} {uri : String}

/-- A pair that keeps logs does what it does without them. -/
theorem stepAt_bare
    (pair : Pair (σ × List Message) (SourceCall × τ) π (κ × List Message) (SinkCall × υ))
    (party : Party) :
    pair.bare.stepAt A P B party = (pair.stepAt A.logged P B.logged party).bare := by
  cases party with
  | producer =>
    have hstrategy := Pusher.strategy_shows (Source.logged_shows A)
    have hstep := Element.step_shows hstrategy pair.producer pair.net
    simp only [id_eq] at hstep
    simp only [stepAt, bare, hstep]
    rfl
  | consumer =>
    have hstrategy := Pipeline.strategy_shows (Service.Shows.refl Puller.source.toService)
      (Processor.Projects.refl P) (Sink.logged_shows B)
    have hstep := Element.step_shows hstrategy pair.consumer pair.net
    simp only [id_eq] at hstep
    simp only [stepAt, bare, hstep]
    rfl

/-- **Every run of a pair can keep logs.** -/
theorem runs_logged
    {first : Pair (σ × List Message) (SourceCall × τ) π (κ × List Message) (SinkCall × υ)}
    {pair : Pair σ τ π κ υ} (runs : Runs A P B uri first.bare pair) :
    ∃ logged, Runs A.logged P B.logged uri first logged ∧ logged.bare = pair := by
  generalize hstart : first.bare = start at runs
  -- Induction on the run: the run with logs takes the same steps.
  induction runs with
  | none => exact ⟨first, .none first, hstart⟩
  | step _ party ih =>
    obtain ⟨logged, runs', rfl⟩ := ih
    exact ⟨_, runs'.step party, (stepAt_bare logged party).symm⟩
  | elsewhere _ spares ih =>
    obtain ⟨logged, runs', rfl⟩ := ih
    exact ⟨_, runs'.elsewhere spares, rfl⟩

end Pair

/-! ## Accounts -/

/-- The accounts of a producer and a consumer: what was pushed was taken or is still in the pipe. -/
structure Accounts (A : Source Network σ τ) (P : Processor π) (B : Sink Network κ υ) (uri : String)
    (source : σ) (start : π)
    (pair : Pair (σ × List Message) (SourceCall × τ) π (κ × List Message) (SinkCall × υ))
    (number : Option Nat) (pipe : Pipe) (v : Intake π) (coming : List Message) : Prop where
  chute : Chute pair.net uri number pipe
  reached : Pusher.Reached A source pair.producer.phase.task? pair.producer.strategy
  producer : ProducerAt uri pair.producer number (v.taken ++ coming)
  consumer : ConsumerAt P start B uri number pair.consumer v
  queued : List.Forall₂ Arrives coming pipe.queue

def InOrder (A : Source Network σ τ) (P : Processor π) (B : Sink Network κ υ) (uri : String)
    (source : σ) (start : π)
    (pair : Pair (σ × List Message) (SourceCall × τ) π (κ × List Message) (SinkCall × υ)) : Prop :=
  pair.consumer.phase.Failed ∨
    ∃ number pipe v coming, Accounts A P B uri source start pair number pipe v coming

section Steps

variable {A : Source Network σ τ} {P : Processor π} {B : Sink Network κ υ} {uri : String}
  {source : σ} {start : π}
  {pair : Pair (σ × List Message) (SourceCall × τ) π (κ × List Message) (SinkCall × υ)}

/-- The pipe is bound once, so who is connected stays connected to it. -/
theorem ConsumerAt.renumber {number number' : Option Nat}
    {e : Consumer π κ υ} {v : Intake π} (here : ConsumerAt P start B uri number e v)
    (same : number' = number ∨ number = none) : ConsumerAt P start B uri number' e v := by
  obtain ⟨sound, plugged, does⟩ := here
  refine .mk sound (fun socket h => ?_) does
  obtain ⟨hnumber, hbinder⟩ := plugged socket h
  rcases same with rfl | unbound
  · exact ⟨hnumber, hbinder⟩
  · cases unbound.symm.trans hnumber

/-- **Every step keeps the accounts**, unless the consumer fails. -/
theorem inOrder_stepAt (stream : Streams A uri source) (plain : B.IsPlain) (party : Party)
    (order : InOrder A P B uri source start pair) :
    InOrder A P B uri source start (pair.stepAt A.logged P B.logged party) := by
  rcases order with failed | ⟨number, pipe, v, coming, accounts⟩
  · cases party with
    | producer => exact Or.inl failed
    | consumer => exact Or.inl (Element.failed_step _ _ failed)
  · obtain ⟨chute, reached, producer, consumer, queued⟩ := accounts
    cases party with
    | producer =>
      obtain ⟨number', sent, rows, pipe', here, chute', same, queue, arrive⟩ :=
        producer_step stream producer reached chute
      refine Or.inr ⟨number', pipe', v, coming ++ sent, chute', Pusher.reached_element reached, ?_,
        consumer.renumber same, ?_⟩
      · rw [← List.append_assoc]
        exact here
      · rw [queue]
        exact List.rel_append queued arrive
    | consumer =>
      rcases consumer_step plain consumer chute queued with
        failed | ⟨v', coming', pipe', here, chute', queued', same⟩
      · exact Or.inl failed
      · rw [← same] at producer
        exact Or.inr ⟨number, pipe', v', coming', chute', reached, producer, here, queued'⟩

/-- Producer and consumer have their accounts in order in every run. -/
theorem Pair.Runs.inOrder (stream : Streams A uri source) (plain : B.IsPlain)
    {first : Pair (σ × List Message) (SourceCall × τ) π (κ × List Message) (SinkCall × υ)}
    (runs : Pair.Runs A.logged P B.logged uri first pair)
    (order : InOrder A P B uri source start first) : InOrder A P B uri source start pair := by
  induction runs with
  | none => exact order
  | step _ party ih => exact inOrder_stepAt stream plain party ih
  | elsewhere _ spares ih =>
    rcases ih with failed | ⟨number, pipe, v, coming, accounts⟩
    · exact Or.inl failed
    · exact Or.inr ⟨number, pipe, v, coming,
        { accounts with chute := accounts.chute.spared spares }⟩

end Steps

/-! ## The end -/

/-- What a producer and a consumer have done, by their logs: the source yielded records and then the
end, and the sink took what the processor made of each of the records, unless it was nothing, and
the end. -/
def Delivered (P : Processor π) (start : π)
    (pair : Pair (σ × List Message) (SourceCall × τ) π (κ × List Message) (SinkCall × υ)) : Prop :=
  ∃ items last made,
    pair.producer.strategy.source.2 = items ++ [last] ∧ last.isEnd = true ∧
    (∀ item ∈ items, item.Carries) ∧
    P.each (items.flatMap Message.content) start = (.ok made, pair.consumer.strategy.processor) ∧
    pair.consumer.strategy.sink.2 = passedOn made ++ [.endOfStream]

/-- When the end was taken, everything was. -/
theorem Complete.nil_of_taken {taken coming : List Message} (complete : Complete (taken ++ coming))
    (ended : taken.any Message.isEnd = true) : coming = [] := by
  obtain ⟨items, last, hitems, -, carry⟩ := complete
  rcases List.eq_nil_or_concat' coming with rfl | ⟨before, m, rfl⟩
  · rfl
  · -- The end is the last of all, so it is not among what was taken before another.
    rw [← List.append_assoc] at hitems
    obtain ⟨rfl, -⟩ := List.append_inj' hitems rfl
    obtain ⟨x, hx, isEnd⟩ := List.any_eq_true.1 ended
    rw [notEnd_of_carries (carry x (List.mem_append_left _ hx))] at isEnd
    cases isEnd

/-- What the accounts come to, when the consumer has ended well. -/
theorem Accounts.delivered {A : Source Network σ τ} {P : Processor π} {B : Sink Network κ υ}
    {uri : String} {source : σ} {start : π}
    {pair : Pair (σ × List Message) (SourceCall × τ) π (κ × List Message) (SinkCall × υ)}
    {number : Option Nat} {pipe : Pipe} {v : Intake π} {coming : List Message}
    (accounts : Accounts A P B uri source start pair number pipe v coming)
    (h : pair.consumer.outcome? ≠ none) : Delivered P start pair := by
  obtain ⟨ended, made, log⟩ := accounts.consumer.settled h
  rcases accounts.producer.settled with carry | ⟨hlog, complete⟩
  · -- Nobody pushed an end, but it was taken.
    obtain ⟨x, hx, isEnd⟩ := List.any_eq_true.1 ended
    rw [notEnd_of_carries (carry x (List.mem_append_left _ hx))] at isEnd
    cases isEnd
  · obtain rfl := complete.nil_of_taken ended
    rw [List.append_nil] at hlog complete
    obtain ⟨items, last, hitems, isEnd, carry⟩ := complete
    rw [hitems, List.flatMap_append, List.flatMap_singleton, Message.content_of_isEnd isEnd,
      List.append_nil] at made
    exact ⟨items, last, v.made, hlog.trans hitems, isEnd, carry, made, log⟩

/-- The accounts of a new pair are in order, when its address is free. -/
theorem inOrder_new {A : Source Network σ τ} {P : Processor π} {B : Sink Network κ υ}
    {net : Network} {uri : String} (free : net.lookup uri = none)
    (producerName consumerName : String) (source : σ) (start : π) (sink : κ) :
    InOrder A P B uri source start
      (.new net uri producerName consumerName (source, []) start (sink, [])) := by
  have sound : Intake.Sound P start { proc := start } [] := ⟨rfl, rfl, rfl, rfl⟩
  refine Or.inr ⟨none, { uri }, { proc := start }, [], .unbound free, .start,
    .mk (.producing .created), ?_, .nil⟩
  exact .mk sound (plugged_none _) (.consuming (.created sink ⟨rfl, rfl, rfl, rfl⟩))

/-- A row of records is pushed, and every other one is put on a shelf, over a pipe with room for one
row of frames. -/
def rehearsal : Pair (List Message) SourceCall Bool Unit SinkCall :=
  .new { limits := { capacity := 1, connectTimeout := 5000, linger := 1000 } } "inproc://stream"
    "pusher" "puller" Farm.threeRecords true ()

def inTurn (rounds : Nat) : List Party := (List.replicate rounds [.producer, .consumer]).flatten

/-- **A stream that is pushed is delivered.** Take a source that yields records and then the end,
any processor, and a sink without peers, at an address that is free, and any run after which the
consumer has ended well. The same run with logs says that the sink took what the processor made of
each record of the stream, in order, and then the end. And whatever is asked of a puller, in
whatever networks, it hands out what it took in its order, and once it has handed out the end it
does so for ever and leaves the network alone. -/
theorem stream_preserved {A : Source Network σ τ} {P : Processor π} {B : Sink Network κ υ}
    {net : Network} {uri producerName consumerName : String} {source : σ} {start : π} {sink : κ}
    (stream : Streams A uri source) (plain : B.IsPlain) (free : net.lookup uri = none) :
    (∀ pair stats,
      Pair.Runs A P B uri (.new net uri producerName consumerName source start sink) pair →
      pair.consumer.outcome? = some (.returned (.ok stats)) →
      ∃ logged,
        Pair.Runs A.logged P B.logged uri
          (.new net uri producerName consumerName (source, []) start (sink, [])) logged ∧
        logged.bare = pair ∧ Delivered P start logged) ∧
    ∀ address s taken, Puller.Uses address s taken → Puller.HandsOut s taken := by
  refine ⟨fun pair stats runs ok => ?_, fun address s taken uses => uses.handsOut⟩
  -- The run is what is seen of a run with logs, and the accounts are kept along that one.
  have logs : Pair.Runs A P B uri
      (Pair.new net uri producerName consumerName (source, []) start (sink, [])).bare pair := runs
  obtain ⟨logged, runs', rfl⟩ := Pair.runs_logged logs
  have ok' : logged.consumer.outcome? = some (.returned (.ok stats)) := by
    rw [← ok]
    exact (Element.outcome?_map _).symm
  refine ⟨logged, runs', rfl, ?_⟩
  rcases runs'.inOrder stream plain (inOrder_new free producerName consumerName source start sink)
    with failed | ⟨number, pipe, v, coming, accounts⟩
  · have joined : logged.consumer.outcome?.map (·.join consumerName) = some (.ok stats) := by
      rw [ok']
      rfl
    exact absurd failed (Element.not_failed_of_outcome joined)
  · exact accounts.delivered (by rw [ok']; nofun)

/-- A network in which two records in one batch, and then the end, wait to be pulled. -/
def stocked : Network where
  limits := { capacity := 2, connectTimeout := 5000, linger := 1000 }
  bound := [("inproc://stream", .push 0)]
  pipes := [{
    uri := "inproc://stream"
    queue := [[[2, 0, 0, 0], [2, 0, 0, 0], [4, 0, 0, 0, 5, 0, 0, 0, 7]], [[255, 255, 255, 255]]] }]

/-- The network when the batch was taken and the producer has gone. -/
def forsaken : Network where
  limits := { capacity := 2, connectTimeout := 5000, linger := 1000 }
  pipes := [{ uri := "inproc://stream", queue := [[[255, 255, 255, 255]]], isOpen := false }]

/-- After 35 rounds the consumer has ended well. A puller takes the batch, then the producer goes,
and the end is handed out behind the two records. -/
theorem stream_preserved_rehearsal :
    (∃ stats, (rehearsal.stepsAt Farm.row Farm.everyOther Farm.shelf
        (inTurn 35)).consumer.outcome? = some (.returned (.ok stats)) ∧
      ∃ logged,
        Pair.Runs Farm.row.logged Farm.everyOther Farm.shelf.logged "inproc://stream"
          (.new rehearsal.net "inproc://stream" "pusher" "puller" (Farm.threeRecords, []) true
            ((), [])) logged ∧
        logged.bare = rehearsal.stepsAt Farm.row Farm.everyOther Farm.shelf (inTurn 35) ∧
        Delivered Farm.everyOther true logged) ∧
    ∃ s taken, Puller.Uses "inproc://stream" s taken ∧ Puller.endAnswer ∈ s.answered ∧
      Puller.HandsOut s taken := by
  obtain ⟨delivered, handsOut⟩ :=
    @stream_preserved _ _ _ _ _ Farm.row Farm.everyOther Farm.shelf rehearsal.net "inproc://stream"
      "pusher" "puller" Farm.threeRecords true ()
      (.of_isStream (Farm.row_isStream Farm.threeRecords_carry) _) Farm.shelf_isPlain rfl
  constructor
  · have well : ((rehearsal.stepsAt Farm.row Farm.everyOther Farm.shelf
        (inTurn 35)).consumer.outcome?).any Outcome.isOk = true := by decide +kernel
    obtain ⟨outcome, houtcome, isOk⟩ := (Option.any_eq_true _ _).1 well
    obtain ⟨_ | stats⟩ | _ := outcome
    · cases isOk
    · exact ⟨stats, houtcome, delivered _ stats (Pair.runs_stepsAt (.none rehearsal) _) houtcome⟩
    · cases isOk
  · have fresh : Puller.Uses "inproc://stream" _ _ := .start
    have connected := ((fresh.ask rfl .connect).step stocked).step stocked
    have first := ((connected.ask rfl .next).step stocked).step stocked
    have second := (first.ask rfl .next).step forsaken
    have last := ((second.ask rfl .next).step forsaken).step forsaken
    exact ⟨_, _, last, by decide +kernel, handsOut _ _ _ last⟩

end Push

end RecordFarm
