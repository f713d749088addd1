import Mathlib.Data.List.Nodup
import Mathlib.Data.List.Perm.Subperm
import RecordFarm.Proofs.Farm.Gatherer
import RecordFarm.Proofs.Farm.Mail
import RecordFarm.Proofs.Farm.Worker

/-!
# Who comes to the collector, and who leaves it

A worker says at most two words to the collector: that it is there, and that it leaves. What the
collector heard of a worker and what is still in the pipe is together what the worker said
(`Roll.script`). Records are only pushed in between, so behind records in the pipe there comes the
leave of their worker, unless it is there still (`Carried`).

A collector that saw as many workers come as there are, and all of them leave, has therefore heard
everything (`Roll.silence`).
-/

namespace RecordFarm

namespace Farm

/-- The words of a worker: whether it is there from then on. -/
def Stage.said : Stage → List Bool
  | fresh => []
  | present => [true]
  | gone => [true, false]

/-- A stage says that it joined before anything else. -/
theorem Stage.nil_of_said {s : Stage} {before behind : List Bool}
    (h : before ++ true :: behind = s.said) : before = [] := by
  cases s with
  | fresh => simp [said] at h
  | present =>
    have : before = [] ∧ behind = [] := by simpa [said, List.append_eq_singleton_iff] using h
    exact this.1
  | gone =>
    cases before with
    | nil => rfl
    | cons a before => cases before <;> simp [said] at h

/-- A stage says that it left after it joined, and last. -/
theorem Stage.true_of_said {s : Stage} {before behind : List Bool}
    (h : before ++ false :: behind = s.said) : before = [true] := by
  cases s with
  | fresh => simp [said] at h
  | present => cases before <;> simp [said] at h
  | gone =>
    cases before with
    | nil => simp [said] at h
    | cons a before => cases before <;> simp_all [said]

/-- The word of the worker `id` that a message is, if it is one. -/
def wordOf (id : ClientId) (m : Message) : Option Bool :=
  if m = .registration id then some true
  else if m = .unregistration id then some false
  else none

def words (id : ClientId) (queue : Mailbox) : List Bool :=
  queue.filterMap fun frames => wordOf id (.arrived frames)

def heard (seen producers : List ClientId) (id : ClientId) : List Bool :=
  if id ∈ seen then if id ∈ producers then [true] else [true, false] else []

theorem wordOf_registration (id id' : ClientId) :
    wordOf id (.registration id') = if id = id' then some true else none := by
  unfold wordOf
  by_cases h : id = id'
  · rw [if_pos (by rw [h]), if_pos h]
  · have other : Message.registration id' ≠ .unregistration id := by
      simp [Message.registration, Message.unregistration]
    rw [if_neg fun heq => h (Message.registration_inj heq).symm, if_neg other, if_neg h]

theorem wordOf_unregistration (id id' : ClientId) :
    wordOf id (.unregistration id') = if id = id' then some false else none := by
  unfold wordOf
  have other : Message.unregistration id' ≠ .registration id := by
    simp [Message.registration, Message.unregistration]
  rw [if_neg other]
  by_cases h : id = id'
  · rw [if_pos (by rw [h]), if_pos h]
  · rw [if_neg fun heq => h (Message.unregistration_inj heq).symm, if_neg h]

/-- Nobody says anything about himself with records or with an end. -/
theorem wordOf_of_kind (id : ClientId) {m : Message}
    (h : m.kind = .process ∨ m.kind = .endOfStream) : wordOf id m = none := by
  unfold wordOf
  rw [if_neg, if_neg]
  · rintro rfl
    rcases h with h | h <;> cases h
  · rintro rfl
    rcases h with h | h <;> cases h

theorem words_cons (id : ClientId) (frames : Frames) (queue : Mailbox) :
    words id (frames :: queue) = (wordOf id (.arrived frames)).toList ++ words id queue := by
  unfold words
  rw [List.filterMap_cons]
  cases wordOf id (.arrived frames) <;> rfl

theorem words_append (id : ClientId) (queue queue' : Mailbox) :
    words id (queue ++ queue') = words id queue ++ words id queue' :=
  List.filterMap_append

/-- Behind records in the pipe there comes the leave of one of the workers, unless it is there
still. -/
def Carried (n : Nat) (ids : Nat → ClientId) (stage : Nat → Stage) : Mailbox → Prop
  | [] => True
  | frames :: behind =>
    ((Message.arrived frames).kind = .process →
      ∃ i < n, stage i = .present ∨ false ∈ words (ids i) behind) ∧
    Carried n ids stage behind

/-- Records are carried behind the others only from somebody who is present. -/
theorem Carried.append {n : Nat} {ids : Nat → ClientId} {stage stage' : Nat → Stage}
    {queue : Mailbox} (carried : Carried n ids stage queue) (frames : Frames)
    (stays : ∀ i < n, stage i = .present →
      stage' i = .present ∨ wordOf (ids i) (.arrived frames) = some false)
    (last : (Message.arrived frames).kind = .process → ∃ i < n, stage' i = .present) :
    Carried n ids stage' (queue ++ [frames]) := by
  induction queue with
  | nil =>
    refine ⟨fun h => ?_, trivial⟩
    obtain ⟨i, hi, present⟩ := last h
    exact ⟨i, hi, Or.inl present⟩
  | cons first queue ih =>
    obtain ⟨hfirst, hqueue⟩ := carried
    refine ⟨fun h => ?_, ih hqueue⟩
    -- The worker is there still, or leaves now, or its leave is in the pipe already.
    obtain ⟨i, hi, present | leave⟩ := hfirst h
    · rcases stays i hi present with present | leave
      · exact ⟨i, hi, Or.inl present⟩
      · refine ⟨i, hi, Or.inr ?_⟩
        show false ∈ words (ids i) (queue ++ [frames])
        rw [words_append]
        refine List.mem_append_right _ ?_
        rw [words_cons, leave]
        exact List.mem_cons_self
    · refine ⟨i, hi, Or.inr ?_⟩
      show false ∈ words (ids i) (queue ++ [frames])
      rw [words_append]
      exact List.mem_append_left _ leave

/-- Who came and who left, as the collector and the `n` workers have it. -/
structure Roll (n : Nat) (ids : Nat → ClientId) (stage : Nat → Stage)
    (seen producers : List ClientId) (queue : Mailbox) : Prop where
  script : ∀ i < n, heard seen producers (ids i) ++ words (ids i) queue = (stage i).said
  carried : Carried n ids stage queue
  nodup : seen.Nodup
  known : ∀ id ∈ seen, Known n ids id

namespace Roll

variable {n : Nat} {ids : Nat → ClientId} {stage stage' : Nat → Stage}
  {seen producers : List ClientId} {queue : Mailbox} {frames : Frames} {i : Nat}

/-- What a worker says is put behind on the roll. -/
theorem append (roll : Roll n ids stage seen producers queue)
    (speaks : ∀ j < n, (stage' j).said
      = (stage j).said ++ (wordOf (ids j) (.arrived frames)).toList)
    (stays : ∀ j < n, stage j = .present →
      stage' j = .present ∨ wordOf (ids j) (.arrived frames) = some false)
    (last : (Message.arrived frames).kind = .process → ∃ j < n, stage' j = .present) :
    Roll n ids stage' seen producers (queue ++ [frames]) where
  script := by
    intro j hj
    rw [speaks j hj, words_append, words_cons, ← roll.script j hj, List.append_assoc]
    congr 2
    exact List.append_nil _
  carried := roll.carried.append frames stays last
  nodup := roll.nodup
  known := roll.known

/-- Frames that say nothing about anybody are passed over. -/
theorem skip (roll : Roll n ids stage seen producers (frames :: queue))
    (other : ∀ i < n, wordOf (ids i) (.arrived frames) = none) :
    Roll n ids stage seen producers queue where
  script := by
    intro i hi
    have := roll.script i hi
    rw [words_cons, other i hi] at this
    exact this
  carried := roll.carried.2
  nodup := roll.nodup
  known := roll.known

/-- A registration is taken from the roll: its worker is seen and is a producer. -/
theorem greet (distinct : ∀ i < n, ∀ j < n, ids i = ids j → i = j) (hi : i < n)
    (roll : Roll n ids stage seen producers (frames :: queue))
    (framed : Message.ofFrames frames = .ok (.registration (ids i))) :
    Roll n ids stage (seen.insert (ids i)) (producers.insert (ids i)) queue where
  script := by
    intro j hj
    have before := roll.script j hj
    rw [words_cons, Message.arrived_of_framed framed, wordOf_registration] at before
    by_cases h : j = i
    · subst h
      rw [if_pos rfl] at before
      -- The first word is that it is there, so it was not heard of before.
      have fresh := Stage.nil_of_said before
      rw [fresh] at before
      rw [← before]
      simp [heard]
    · have other : ids j ≠ ids i := fun heq => h (distinct j hj i hi heq)
      rw [if_neg other] at before
      rw [← before]
      simp [heard, other]
  carried := roll.carried.2
  nodup := roll.nodup.insert
  known := by
    intro id hid
    rcases List.mem_insert_iff.1 hid with rfl | hid
    · exact ⟨i, hi, rfl⟩
    · exact roll.known id hid

/-- An unregistration is taken from the roll: its worker is a producer no more. -/
theorem dismiss (distinct : ∀ i < n, ∀ j < n, ids i = ids j → i = j) (hi : i < n)
    (roll : Roll n ids stage seen producers (frames :: queue))
    (framed : Message.ofFrames frames = .ok (.unregistration (ids i))) :
    Roll n ids stage seen (producers.filter (· ≠ ids i)) queue where
  script := by
    intro j hj
    have before := roll.script j hj
    rw [words_cons, Message.arrived_of_framed framed, wordOf_unregistration] at before
    by_cases h : j = i
    · subst h
      rw [if_pos rfl] at before
      -- The second word is that it leaves, so it was heard to come.
      have present := Stage.true_of_said before
      have hseen : ids j ∈ seen := by
        by_contra absent
        simp [heard, absent] at present
      rw [present] at before
      rw [← before]
      simp [heard, hseen]
    · have other : ids j ≠ ids i := fun heq => h (distinct j hj i hi heq)
      rw [if_neg other] at before
      rw [← before]
      simp [heard, other]
  carried := roll.carried.2
  nodup := roll.nodup
  known := roll.known

/-- A collector that saw as many workers as there are saw all of them. -/
theorem all_seen (roll : Roll n ids stage seen producers queue) (enough : n ≤ seen.length) :
    ∀ i < n, ids i ∈ seen := by
  -- They are all workers and no two are the same, so there is room for no other.
  have sub : seen ⊆ (List.range n).map ids := by
    intro id hid
    obtain ⟨i, hi, rfl⟩ := roll.known id hid
    exact List.mem_map_of_mem (List.mem_range.2 hi)
  have perm := (roll.nodup.subperm sub).perm_of_length_le (by simpa using enough)
  intro i hi
  exact perm.mem_iff.2 (List.mem_map_of_mem (List.mem_range.2 hi))

/-- **When all workers were seen to come and to leave there are no records left in the pipe.** -/
theorem silence (roll : Roll n ids stage seen [] queue) (enough : n ≤ seen.length)
    (gone : ∀ i < n, stage i = .gone) :
    ∀ frames ∈ queue, (Message.arrived frames).kind ≠ .process := by
  -- Everything that was said was heard.
  have quiet : ∀ i < n, words (ids i) queue = [] := by
    intro i hi
    have := roll.script i hi
    rw [gone i hi] at this
    simpa [heard, roll.all_seen enough i hi, Stage.said] using this
  have carried := roll.carried
  clear roll
  induction queue with
  | nil => simp
  | cons first queue ih =>
    have quiet' : ∀ i < n, words (ids i) queue = [] := by
      intro i hi
      have := quiet i hi
      rw [words_cons] at this
      exact (List.append_eq_nil_iff.1 this).2
    intro frames hframes
    rcases List.mem_cons.1 hframes with rfl | hframes
    · intro hkind
      -- Behind records there would still be the leave of their worker.
      obtain ⟨i, hi, present | leave⟩ := carried.1 hkind
      · rw [gone i hi] at present
        cases present
      · rw [quiet' i hi] at leave
        cases leave
    · exact ih quiet' carried.2 frames hframes

end Roll

end Farm

end RecordFarm
