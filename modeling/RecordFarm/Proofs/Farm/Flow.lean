import RecordFarm.Proofs.Fanout.Calm
import RecordFarm.Proofs.Farm.Dealt

/-!
# The flow of records to the workers

What is on its way to a worker is a stream: of each message it matters whether it is the end, and
which records it carries. The records that the source of a farm yielded are those that were dealt
out, those in the queue and those about to be queued, in this order; and a worker has, of what it
was dealt, what it kept, and the rest is in its stream (`Flow`).

Streams grow when the queue hands something out (`Flow.call`), and shrink when their worker takes
something (`Flow.pass`).
-/

namespace RecordFarm

namespace Farm

open Fanout

/-- What matters of a message on its way: whether it is the end, and its records. -/
def gist (m : Message) : Bool × List Bytes := (m.isEnd, m.content)

theorem gist_blank {m : Message} (h : (gist m).1 = true) : (gist m).2 = [] :=
  Message.content_of_isEnd h

def contents (stream : List (Bool × List Bytes)) : List Bytes := stream.flatMap Prod.snd

@[simp] theorem contents_append (stream stream' : List (Bool × List Bytes)) :
    contents (stream ++ stream') = contents stream ++ contents stream' :=
  List.flatMap_append

def dueTo (id : ClientId) (due : List Delivery) : List (Bool × List Bytes) :=
  (due.filter fun x => x.1 == id).map fun x => gist x.2

theorem mem_dueTo {id : ClientId} {due : List Delivery} {x : Bool × List Bytes}
    (h : x ∈ dueTo id due) : ∃ y ∈ due, x = gist y.2 := by
  obtain ⟨y, hy, rfl⟩ := List.mem_map.1 h
  exact ⟨y, (List.mem_filter.1 hy).1, rfl⟩

def EndsLast (stream : List (Bool × List Bytes)) : Prop :=
  stream.Pairwise fun x y => x.1 = true → y.1 = true

/-- The account of a farm with `n` workers: what each of them kept, whether it got the end, what is
on its way to it; the queue, what is about to be queued, and what the source yielded. -/
structure Flow (n : Nat) (kept : Nat → List Bytes) (ended : Nat → Bool)
    (stream : Nat → List (Bool × List Bytes)) (queue : Queue) (hand log : List Message) :
    Prop where
  calm : Calm queue
  dealt : ∃ assigned, Dealt n (fun i => kept i ++ contents (stream i)) assigned ∧
    assigned ++ queue.messages.flatMap Message.content ++ hand.flatMap Message.content
      = log.flatMap Message.content
  blank : ∀ i < n, ∀ x ∈ stream i, x.1 = true → x.2 = []
  ordered : ∀ i < n, EndsLast (stream i)
  /-- Before the rundown there are no ends. -/
  running : queue.rundown = false → ∀ i < n, ended i = false ∧ ∀ x ∈ stream i, x.1 = false
  /-- Nothing follows the end. -/
  finished : ∀ i < n, ended i = true → ∀ x ∈ stream i, x.1 = true

namespace Flow

variable {n : Nat} {kept kept' : Nat → List Bytes} {ended ended' : Nat → Bool}
  {stream stream' : Nat → List (Bool × List Bytes)} {queue after : Queue}
  {hand hand' log : List Message}

/-- The workers take from their streams. What they have and what is on its way to them is the same
as before, together. -/
theorem pass (flow : Flow n kept ended stream queue hand log)
    (same : ∀ i < n, kept' i ++ contents (stream' i) = kept i ++ contents (stream i))
    (shrunk : ∀ i < n, (stream' i).Sublist (stream i))
    (met : ∀ i < n, ended' i = true → ended i = true ∨
      (∃ x ∈ stream i, x.1 = true) ∧ ∀ x ∈ stream' i, x.1 = true) :
    Flow n kept' ended' stream' queue hand log where
  calm := flow.calm
  dealt := by
    obtain ⟨assigned, dealt, hlog⟩ := flow.dealt
    exact ⟨assigned, dealt.congr same, hlog⟩
  blank := fun i hi x hx => flow.blank i hi x ((shrunk i hi).subset hx)
  ordered := fun i hi => (flow.ordered i hi).sublist (shrunk i hi)
  running := by
    intro hr i hi
    obtain ⟨hended, hstream⟩ := flow.running hr i hi
    refine ⟨?_, fun x hx => hstream x ((shrunk i hi).subset hx)⟩
    rw [Bool.eq_false_iff]
    intro htrue
    -- A worker can only get an end that was on its way, and there was none.
    rcases met i hi htrue with h | ⟨⟨x, hx, hend⟩, -⟩
    · rw [hended] at h
      cases h
    · rw [hstream x hx] at hend
      cases hend
  finished := by
    intro i hi htrue x hx
    rcases met i hi htrue with h | ⟨-, hall⟩
    · exact flow.finished i hi h x ((shrunk i hi).subset hx)
    · exact hall x hx

/-- What is due is dealt to the workers that it is meant for, each delivery to one. -/
theorem dealt_due {ids : Nat → ClientId} {assigned : List Bytes}
    (dealt : Dealt n (fun i => kept i ++ contents (stream i)) assigned)
    (distinct : ∀ i < n, ∀ j < n, ids i = ids j → i = j) {due : List Delivery}
    (known : ∀ x ∈ due, ∃ i < n, x.1 = ids i) :
    Dealt n (fun i => kept i ++ contents (stream i ++ dueTo (ids i) due))
      (assigned ++ due.flatMap fun x => x.2.content) := by
  have meant : ∀ x ∈ due, ∃ i < n, ∀ j < n, (x.1 == ids j) = decide (j = i) := by
    intro x hx
    obtain ⟨i, hi, hid⟩ := known x hx
    refine ⟨i, hi, fun j hj => ?_⟩
    by_cases h : j = i
    · rw [h, hid]
      simp
    · have : ids i ≠ ids j := fun heq => h (distinct i hi j hj heq).symm
      rw [hid]
      simp [h, this]
  refine (dealt.dealAll (fun x : Delivery => x.2.content) (fun i x => x.1 == ids i) due
    meant).congr fun i _ => ?_
  rw [contents_append, ← List.append_assoc]
  congr 1
  unfold dueTo contents
  rw [List.flatMap_map]
  rfl

/-- A call of the queue keeps the content in flow: from the hand to the queue, and on to the
clients. -/
theorem call {ids : Nat → ClientId} {accepted : Queue} {due : List Delivery}
    (flow : Flow n kept ended stream queue hand log)
    (distinct : ∀ i < n, ∀ j < n, ids i = ids j → i = j)
    (served : Served accepted due after) (known : ∀ x ∈ due, ∃ i < n, x.1 = ids i)
    (content : accepted.messages.flatMap Message.content ++ hand'.flatMap Message.content
      = queue.messages.flatMap Message.content ++ hand.flatMap Message.content)
    (rundown : accepted.rundown = queue.rundown) :
    Flow n kept ended (fun i => stream i ++ dueTo (ids i) due) after hand' log where
  calm := served.calm
  dealt := by
    obtain ⟨assigned, dealt, hlog⟩ := flow.dealt
    refine ⟨assigned ++ due.flatMap fun x => x.2.content, dealt_due dealt distinct known, ?_⟩
    calc assigned ++ (due.flatMap fun x => x.2.content) ++
          after.messages.flatMap Message.content ++ hand'.flatMap Message.content
        = assigned ++ (accepted.messages.flatMap Message.content
            ++ hand'.flatMap Message.content) := by
          rw [← served.content]
          simp only [List.append_assoc]
      _ = log.flatMap Message.content := by
          rw [content, ← List.append_assoc, hlog]
  blank := by
    intro i hi x hx
    rcases List.mem_append.1 hx with hx | hx
    · exact flow.blank i hi x hx
    · obtain ⟨y, -, rfl⟩ := mem_dueTo hx
      exact gist_blank
  ordered := by
    intro i hi
    refine List.pairwise_append.2 ⟨flow.ordered i hi, ?_, ?_⟩
    · exact (served.ordered.filter _).map _ fun _ _ h => h
    · intro x hx y hy hend
      obtain ⟨z, hz, rfl⟩ := mem_dueTo hy
      -- An end on its way means that the queue runs down.
      cases hr : queue.rundown with
      | true => exact served.ends (rundown.trans hr) z hz
      | false =>
        rw [(flow.running hr i hi).2 x hx] at hend
        cases hend
  running := by
    intro hr i hi
    -- The queue never leaves the rundown, so it did not run down before either.
    have hrun : queue.rundown = false := by
      rw [← rundown, Bool.eq_false_iff]
      intro htrue
      rw [served.rundown htrue] at hr
      cases hr
    obtain ⟨hended, hstream⟩ := flow.running hrun i hi
    refine ⟨hended, fun x hx => ?_⟩
    rcases List.mem_append.1 hx with hx | hx
    · exact hstream x hx
    · obtain ⟨y, hy, rfl⟩ := mem_dueTo hx
      exact served.running hr y hy
  finished := by
    intro i hi hended x hx
    rcases List.mem_append.1 hx with hx | hx
    · exact flow.finished i hi hended x hx
    · obtain ⟨y, hy, rfl⟩ := mem_dueTo hx
      cases hr : queue.rundown with
      | true => exact served.ends (rundown.trans hr) y hy
      | false =>
        rw [(flow.running hr i hi).1] at hended
        cases hended

/-- A message without content may be dropped. -/
theorem drop {m : Message} (flow : Flow n kept ended stream queue [m] log)
    (content : m.content = []) : Flow n kept ended stream queue [] log where
  calm := flow.calm
  dealt := by
    obtain ⟨assigned, dealt, hlog⟩ := flow.dealt
    refine ⟨assigned, dealt, ?_⟩
    rw [← hlog]
    simp [content]
  blank := flow.blank
  ordered := flow.ordered
  running := flow.running
  finished := flow.finished

/-- What the source yields is taken in hand, and logged. -/
theorem yield (flow : Flow n kept ended stream queue [] log) (m : Message) :
    Flow n kept ended stream queue [m] (log ++ [m]) where
  calm := flow.calm
  dealt := by
    obtain ⟨assigned, dealt, hlog⟩ := flow.dealt
    refine ⟨assigned, dealt, ?_⟩
    rw [List.flatMap_append, ← hlog]
    simp
  blank := flow.blank
  ordered := flow.ordered
  running := flow.running
  finished := flow.finished

end Flow

end Farm

end RecordFarm
