import Mathlib.Data.List.Induction
import Mathlib.Data.List.Nodup
import RecordFarm.Farm.Join

/-!
# Joining in order

Whoever joins a farm looks around in rounds. The elements are joined in the order in which they are
seen to have ended, an earlier round first, and within a round in the order of their places
(`order`). Everything that joining comes to can be read off this order: the statistics, the failure
that counts, and the round in which the elements that are left are asked to exit
(`joins_each_once`).
-/

namespace RecordFarm

namespace Farm

/-! ## Places -/

/-- The places of a farm: one distributor, the workers, and one collector. -/
theorem mem_places {workers : Nat} {place : Place} :
    place ∈ places workers ↔
      place = .distributor ∨ (∃ i < workers, place = .worker i) ∨ place = .collector := by
  simp [places, eq_comm]

theorem nodup_places (workers : Nat) : (places workers).Nodup := by
  have row : ((List.range workers).map Place.worker).Nodup :=
    List.nodup_range.map fun _ _ h => Place.worker.inj h
  unfold places
  simp [List.nodup_append, row]

namespace Summary

def at? (summary : Summary) : Place → Option Stats
  | .distributor => some summary.distributor
  | .worker index => summary.workers[index]?
  | .collector => some summary.collector

/-- What stands in a place after something was put somewhere. -/
theorem at?_put (summary : Summary) (place other : Place) (stats : Stats) :
    (summary.put place stats).at? other =
      if other = place ∧ (summary.at? other).isSome then some stats else summary.at? other := by
  cases place with
  | distributor => cases other <;> simp [put, at?]
  | collector => cases other <;> simp [put, at?]
  | worker i =>
    cases other with
    | distributor => simp [put, at?]
    | collector => simp [put, at?]
    | worker k =>
      simp only [put, at?, List.getElem?_set, Place.worker.injEq]
      by_cases same : i = k
      · subst same
        by_cases there : i < summary.workers.length <;> simp [there]
      · simp [same, Ne.symm same]

/-- Of what was put in its place, one after the other, each stands in its place. -/
theorem at?_foldl_put (stats : Place → Stats) (row : List Place) (summary : Summary)
    (place : Place) :
    (row.foldl (fun summary place => summary.put place (stats place)) summary).at? place =
      if place ∈ row ∧ (summary.at? place).isSome then some (stats place)
      else summary.at? place := by
  induction row generalizing summary with
  | nil => simp
  | cons first row ih =>
    rw [List.foldl_cons, ih, at?_put]
    by_cases there : (summary.at? place).isSome = true
    · by_cases own : place = first
      · subst own
        simp [there]
      · simp [there, own]
    · simp [there]

/-- The summary with these statistics in their places. -/
def of (workers : Nat) (stats : Place → Stats) : Summary where
  distributor := stats .distributor
  workers := (List.range workers).map fun index => stats (.worker index)
  collector := stats .collector

/-- A summary is known by what stands at its places. -/
theorem eq_of_at? {workers : Nat} {stats : Place → Stats} {summary : Summary}
    (own : ∀ place ∈ places workers, summary.at? place = some (stats place))
    (hnone : ∀ index, workers ≤ index → summary.at? (.worker index) = none) :
    summary = of workers stats := by
  obtain ⟨distributor, row, collector⟩ := summary
  have hdistributor : distributor = stats .distributor :=
    Option.some.inj (own .distributor (mem_places.2 (.inl rfl)))
  have hcollector : collector = stats .collector :=
    Option.some.inj (own .collector (mem_places.2 (.inr (.inr rfl))))
  have hrow : row = (List.range workers).map fun index => stats (.worker index) := by
    refine List.ext_getElem? fun i => ?_
    by_cases hi : i < workers
    · have := own (.worker i) (mem_places.2 (.inr (.inl ⟨i, hi, rfl⟩)))
      simpa [at?, hi] using this
    · have := hnone i (Nat.not_lt.1 hi)
      simpa [at?, hi] using this
  rw [hdistributor, hrow, hcollector]
  rfl

end Summary

/-! ## Seeing and joining -/

/-- How the elements of a farm end, and what they are called. -/
structure Fates where
  name : Place → String
  outcome : Place → Outcome

namespace Fates

/-- What is learned from joining the element at a place. -/
def learned (fates : Fates) (place : Place) : Except Error Stats :=
  (fates.outcome place).join (fates.name place)

def failure? (fates : Fates) (place : Place) : Option Error :=
  match fates.learned place with
  | .ok _ => none
  | .error cause => some cause

/-- What a round sees that finds these elements over. -/
def seen (fates : Fates) (ended : Place → Bool) (place : Place) : Option (Except Error Stats) :=
  if ended place then some (fates.learned place) else none

/-- Takes the statistics of an element down, if it did not fail. -/
def put (fates : Fates) (summary : Summary) (place : Place) : Summary :=
  match fates.learned place with
  | .ok stats => summary.put place stats
  | .error _ => summary

end Fates

/-- The round in which an element is seen to have ended for the first time. A round is given by the
elements that are over by then. -/
def seenIn (rounds : List (Place → Bool)) (place : Place) : Option Nat :=
  rounds.findIdx? fun ended => ended place

/-- The elements that have been seen to have ended, those of an earlier round first, and those of
one round in the order of their places. -/
def order (workers : Nat) (rounds : List (Place → Bool)) : List Place :=
  (List.range rounds.length).flatMap fun i =>
    (places workers).filter fun place => seenIn rounds place = some i

def unseen (workers : Nat) (rounds : List (Place → Bool)) : List Place :=
  (places workers).filter fun place => seenIn rounds place = none

/-- The first element in joining order that has failed. -/
def Fates.failing (fates : Fates) (workers : Nat) (rounds : List (Place → Bool)) : Option Place :=
  (order workers rounds).find? fun place => (fates.failure? place).isSome

/-- Who joins a farm, and what was done so far. -/
structure Watch where
  join : Join
  /-- The elements that were asked to exit, round by round. -/
  asked : List (List Place) := []

def Watch.round (w : Watch) (ended : Place → Option (Except Error Stats)) : Watch where
  join := (w.join.round ended).1
  asked := w.asked ++ [(w.join.round ended).2]

def watch (workers : Nat) (fates : Fates) (rounds : List (Place → Bool)) : Watch :=
  rounds.foldl (fun w ended => w.round (fates.seen ended)) { join := .new workers }

variable {workers : Nat} {fates : Fates} {rounds : List (Place → Bool)} {ended : Place → Bool}
  {place : Place} {i : Nat}

/-! ## The order of joining -/

theorem seenIn_lt (h : seenIn rounds place = some i) : i < rounds.length :=
  (List.findIdx?_eq_some_iff_findIdx_eq.1 h).1

/-- One round more tells of a place only if none before it did. -/
theorem seenIn_snoc (rounds : List (Place → Bool)) (ended : Place → Bool) (place : Place) :
    seenIn (rounds ++ [ended]) place =
      (seenIn rounds place).or (if ended place then some rounds.length else none) := by
  unfold seenIn
  rw [List.findIdx?_append, List.findIdx?_singleton]
  split <;> simp

theorem seenIn_snoc_of_some (h : seenIn rounds place = some i) :
    seenIn (rounds ++ [ended]) place = some i := by
  rw [seenIn_snoc, h]
  rfl

/-- A place is seen in an earlier round, or now for the first time. -/
theorem seenIn_snoc_eq_some_iff :
    seenIn (rounds ++ [ended]) place = some i ↔
      seenIn rounds place = some i ∨
        i = rounds.length ∧ seenIn rounds place = none ∧ ended place = true := by
  rw [seenIn_snoc]
  cases h : seenIn rounds place with
  | none => cases ended place <;> simp [eq_comm]
  | some k => simp

theorem seenIn_snoc_eq_none_iff :
    seenIn (rounds ++ [ended]) place = none ↔ seenIn rounds place = none ∧ ended place = false := by
  rw [seenIn_snoc]
  cases h : seenIn rounds place with
  | none => cases ended place <;> simp
  | some k => simp

theorem seenIn_eq_none_iff :
    seenIn rounds place = none ↔ ∀ ended ∈ rounds, ended place = false := by
  simp [seenIn]

/-- A round joins those that were left and are over now. -/
theorem order_snoc (workers : Nat) (rounds : List (Place → Bool)) (ended : Place → Bool) :
    order workers (rounds ++ [ended])
      = order workers rounds ++ (unseen workers rounds).filter ended := by
  unfold order unseen
  rw [List.length_append, List.length_singleton, List.range_succ, List.flatMap_append,
    List.flatMap_singleton, List.filter_filter]
  congr 1
  · -- An earlier round has seen whom it has seen.
    refine List.flatMap_congr fun i hi => List.filter_congr fun place _ => ?_
    have before := List.mem_range.1 hi
    rw [decide_eq_decide, seenIn_snoc_eq_some_iff]
    exact or_iff_left fun last => absurd last.1 (Nat.ne_of_lt before)
  · -- The last one sees those of the others that are over.
    refine List.filter_congr fun place _ => ?_
    have later : seenIn rounds place ≠ some rounds.length :=
      fun h => absurd (seenIn_lt h) (Nat.lt_irrefl _)
    rw [Bool.eq_iff_iff, decide_eq_true_eq, seenIn_snoc_eq_some_iff, or_iff_right later]
    simp [and_comm]

theorem unseen_snoc (workers : Nat) (rounds : List (Place → Bool)) (ended : Place → Bool) :
    unseen workers (rounds ++ [ended])
      = (unseen workers rounds).filter fun place => !ended place := by
  unfold unseen
  rw [List.filter_filter]
  refine List.filter_congr fun place _ => ?_
  rw [Bool.eq_iff_iff, decide_eq_true_eq, seenIn_snoc_eq_none_iff]
  simp [and_comm]

/-- Every element has either been seen once or is left. -/
theorem order_append_unseen (workers : Nat) (rounds : List (Place → Bool)) :
    (order workers rounds ++ unseen workers rounds).Perm (places workers) := by
  induction rounds using List.reverseRecOn with
  | nil => simp [order, unseen, seenIn]
  | append_singleton rounds ended ih =>
    rw [order_snoc, unseen_snoc, List.append_assoc]
    exact ((List.filter_append_perm ended _).append_left _).trans ih

/-- No element is joined twice. -/
theorem nodup_order (workers : Nat) (rounds : List (Place → Bool)) :
    (order workers rounds).Nodup :=
  (((order_append_unseen workers rounds).nodup_iff.2 (nodup_places workers)).of_append_left)

/-- The order holds the places that were seen. -/
theorem mem_order :
    place ∈ order workers rounds ↔ place ∈ places workers ∧ ∃ i, seenIn rounds place = some i := by
  unfold order
  rw [List.mem_flatMap]
  constructor
  · rintro ⟨i, -, h⟩
    rw [List.mem_filter, decide_eq_true_eq] at h
    exact ⟨h.1, i, h.2⟩
  · rintro ⟨hplace, i, hi⟩
    exact ⟨i, List.mem_range.2 (seenIn_lt hi), List.mem_filter.2 ⟨hplace, decide_eq_true hi⟩⟩

/-- Nothing is left when every element was seen to have ended. -/
theorem unseen_eq_nil_iff :
    unseen workers rounds = [] ↔
      ∀ place ∈ places workers, ∃ ended ∈ rounds, ended place = true := by
  unfold unseen
  rw [List.filter_eq_nil_iff]
  refine forall₂_congr fun place _ => ?_
  rw [decide_eq_true_eq, seenIn_eq_none_iff]
  simp

/-! ## What joining comes to -/

namespace Join

def joinAll (j : Join) (results : List (Place × Except Error Stats)) : Join :=
  results.foldl (fun j x => j.joinOne x.1 x.2) j

/-- The first failure is kept. -/
theorem joinOne_learned (j : Join) (fates : Fates) (place : Place) :
    j.joinOne place (fates.learned place) =
      { j with
        joined := j.joined ++ [(place, fates.learned place)]
        summary := fates.put j.summary place
        failure := j.failure.or (fates.failure? place) } := by
  unfold joinOne Fates.put Fates.failure?
  cases fates.learned place with
  | ok stats => simp
  | error cause => cases h : j.failure <;> simp

/-- Joining a row of elements learns their fates one after the other. -/
theorem joinAll_learned (j : Join) (fates : Fates) (row : List Place) :
    j.joinAll (row.map fun place => (place, fates.learned place)) =
      { j with
        joined := j.joined ++ row.map fun place => (place, fates.learned place)
        summary := row.foldl fates.put j.summary
        failure := j.failure.or (row.findSome? fates.failure?) } := by
  induction row generalizing j with
  | nil => simp [joinAll]
  | cons place row ih =>
    show (j.joinOne place (fates.learned place)).joinAll _ = _
    rw [ih, joinOne_learned, List.foldl_cons, List.findSome?_cons]
    cases fates.failure? place with
    | none => simp
    | some cause => cases h : j.failure <;> simp

/-- The elements that a round finds are the pending ones that have ended, in the order of the list.
-/
theorem finished_seen (j : Join) (fates : Fates) (ended : Place → Bool) :
    j.finished (fates.seen ended)
      = (j.pending.filter ended).map fun place => (place, fates.learned place) := by
  unfold finished Fates.seen
  induction j.pending with
  | nil => rfl
  | cons place row ih =>
    rw [List.filterMap_cons, ih]
    cases h : ended place <;> simp [h]

/-- A round joins whom it finds and keeps the others pending. -/
theorem round_seen (j : Join) (fates : Fates) (ended : Place → Bool) :
    j.round (fates.seen ended) =
      let joined : Join :=
        { pending := j.pending.filter fun place => !ended place
          joined := j.joined ++ (j.pending.filter ended).map fun place =>
            (place, fates.learned place)
          summary := (j.pending.filter ended).foldl fates.put j.summary
          failure := j.failure.or ((j.pending.filter ended).findSome? fates.failure?) }
      (joined, if j.failure.isNone && joined.failure.isSome then joined.pending else []) := by
  have running : (j.pending.filter fun place => (fates.seen ended place).isNone)
      = j.pending.filter fun place => !ended place := by
    refine List.filter_congr fun place _ => ?_
    unfold Fates.seen
    cases ended place <;> rfl
  have joins := joinAll_learned
    { j with pending := j.pending.filter fun place => !ended place } fates (j.pending.filter ended)
  unfold round
  rw [running, finished_seen]
  exact congrArg (fun joined : Join =>
    (joined, if j.failure.isNone && joined.failure.isSome
      then j.pending.filter fun place => !ended place else [])) joins

end Join

/-! ## The first failure -/

def Fates.failsIn (fates : Fates) (workers : Nat) (rounds : List (Place → Bool)) : Option Nat :=
  (fates.failing workers rounds).bind (seenIn rounds)

/-- Whom each round asks to exit: the round in which the first failure is met asks the elements that
have not been seen to have ended by then, and no other round asks anybody. -/
def Fates.asks (fates : Fates) (workers : Nat) (rounds : List (Place → Bool)) : List (List Place) :=
  (List.range rounds.length).map fun i =>
    if fates.failsIn workers rounds = some i then unseen workers (rounds.take (i + 1)) else []

namespace Fates

/-- The first failure in a row is that of the first element that failed. -/
theorem findSome?_failure (fates : Fates) (row : List Place) :
    row.findSome? fates.failure?
      = (row.find? fun place => (fates.failure? place).isSome).bind fates.failure? := by
  induction row with
  | nil => rfl
  | cons place row ih =>
    rw [List.findSome?_cons, List.find?_cons, ih]
    cases h : fates.failure? place <;> simp [h]

/-- A first failure stays the first; if there was none, the round may bring it. -/
theorem failsIn_snoc (fates : Fates) (workers : Nat) (rounds : List (Place → Bool))
    (ended : Place → Bool) :
    fates.failsIn workers (rounds ++ [ended]) =
      (fates.failsIn workers rounds).or
        (if (((unseen workers rounds).filter ended).findSome? fates.failure?).isSome
          then some rounds.length else none) := by
  unfold failsIn failing
  rw [order_snoc, List.find?_append]
  cases hfirst : (order workers rounds).find? fun place => (fates.failure? place).isSome with
  | some place =>
    obtain ⟨-, i, hi⟩ := mem_order.1 (List.mem_of_find?_eq_some hfirst)
    simp [hi, seenIn_snoc_of_some hi]
  | none =>
    -- Whoever fails first now was seen by the new round.
    rw [findSome?_failure]
    cases hnew : ((unseen workers rounds).filter ended).find?
        fun place => (fates.failure? place).isSome with
    | none => simp
    | some place =>
      have failed := List.find?_some hnew
      have new := List.mem_filter.1 (List.mem_of_find?_eq_some hnew)
      have unseen : seenIn rounds place = none :=
        of_decide_eq_true (List.mem_filter.1 new.1).2
      have now : seenIn (rounds ++ [ended]) place = some rounds.length :=
        seenIn_snoc_eq_some_iff.2 (.inr ⟨rfl, unseen, new.2⟩)
      simp [now, failed]

theorem failsIn_lt (h : fates.failsIn workers rounds = some i) : i < rounds.length := by
  obtain ⟨place, -, hi⟩ := Option.bind_eq_some_iff.1 h
  exact seenIn_lt hi

/-- No failure was met as long as nobody that was joined has failed. -/
theorem isNone_failsIn (fates : Fates) (workers : Nat) (rounds : List (Place → Bool)) :
    (fates.failsIn workers rounds).isNone
      = ((order workers rounds).findSome? fates.failure?).isNone := by
  rw [findSome?_failure]
  unfold failsIn failing
  cases hfirst : (order workers rounds).find? fun place => (fates.failure? place).isSome with
  | none => rfl
  | some place =>
    obtain ⟨-, i, hi⟩ := mem_order.1 (List.mem_of_find?_eq_some hfirst)
    have failed := List.find?_some hfirst
    simp [hi, Option.isNone_eq_false_iff.2 failed]

/-- What was asked before a round stays asked, and the round asks if it meets the first failure. -/
theorem asks_snoc (fates : Fates) (workers : Nat) (rounds : List (Place → Bool))
    (ended : Place → Bool) :
    fates.asks workers (rounds ++ [ended]) = fates.asks workers rounds ++
      [if (fates.failsIn workers rounds).isNone &&
          (((unseen workers rounds).filter ended).findSome? fates.failure?).isSome
        then unseen workers (rounds ++ [ended]) else []] := by
  unfold asks
  rw [List.length_append, List.length_singleton, List.range_succ, List.map_append,
    List.map_singleton]
  congr 1
  · -- The first failure is in an earlier round if and only if it was there before.
    refine List.map_congr_left fun i hi => ?_
    have before := List.mem_range.1 hi
    rw [failsIn_snoc, List.take_append_of_le_length before]
    cases fates.failsIn workers rounds with
    | some k => rfl
    | none =>
      have last : rounds.length ≠ i := Nat.ne_of_gt before
      split <;> simp [last]
  · rw [failsIn_snoc, List.take_of_length_le (by simp)]
    cases h : fates.failsIn workers rounds with
    | some k =>
      have before : k ≠ rounds.length := Nat.ne_of_lt (failsIn_lt h)
      simp [before]
    | none =>
      cases (((unseen workers rounds).filter ended).findSome? fates.failure?).isSome <;> simp

end Fates

/-! ## The whole joining -/

/-- What is true of a joining after some rounds. -/
structure Watch.At (workers : Nat) (fates : Fates) (rounds : List (Place → Bool)) (w : Watch) :
    Prop where
  pending : w.join.pending = unseen workers rounds
  summary : w.join.summary
    = (order workers rounds).foldl fates.put { workers := List.replicate workers {} }
  failure : w.join.failure = (order workers rounds).findSome? fates.failure?
  joined : w.join.joined = (order workers rounds).map fun place => (place, fates.learned place)
  asked : w.asked = fates.asks workers rounds

/-- At the start everybody is pending and nobody was joined. -/
theorem Watch.at_start (workers : Nat) (fates : Fates) :
    Watch.At workers fates [] { join := .new workers } where
  pending := (List.filter_eq_self.2 fun _ _ => rfl).symm
  summary := rfl
  failure := rfl
  joined := rfl
  asked := rfl

/-- A round joins the elements that are over now, behind those that were joined before. -/
theorem Watch.At.round {w : Watch} (here : w.At workers fates rounds) (ended : Place → Bool) :
    (w.round (fates.seen ended)).At workers fates (rounds ++ [ended]) := by
  have turn := w.join.round_seen fates ended
  rw [here.pending, here.summary, here.failure] at turn
  have pending := congrArg (fun r => r.1.pending) turn
  have joined := congrArg (fun r => r.1.joined) turn
  have summary := congrArg (fun r => r.1.summary) turn
  have failure := congrArg (fun r => r.1.failure) turn
  have asks := congrArg Prod.snd turn
  refine ⟨pending.trans (unseen_snoc ..).symm, summary.trans ?_, failure.trans ?_,
    joined.trans ?_, ?_⟩
  · rw [order_snoc, List.foldl_append]
  · rw [order_snoc, List.findSome?_append]
  · rw [here.joined, order_snoc, List.map_append]
  · show w.asked ++ [(w.join.round (fates.seen ended)).2] = _
    rw [here.asked, Fates.asks_snoc, asks, ← unseen_snoc, Fates.isNone_failsIn]
    congr 3
    cases (order workers rounds).findSome? fates.failure? <;> rfl

/-- **A watch stands where the rounds say.** Induction on the rounds. -/
theorem watch_at (workers : Nat) (fates : Fates) (rounds : List (Place → Bool)) :
    (watch workers fates rounds).At workers fates rounds := by
  induction rounds using List.reverseRecOn with
  | nil => exact Watch.at_start workers fates
  | append_singleton rounds ended ih =>
    unfold watch at ih ⊢
    rw [List.foldl_append]
    exact ih.round ended

def AllSeen (workers : Nat) (rounds : List (Place → Bool)) : Prop :=
  ∀ place ∈ places workers, ∃ ended ∈ rounds, ended place = true

theorem mem_order_of_allSeen (all : AllSeen workers rounds) (h : place ∈ places workers) :
    place ∈ order workers rounds := by
  have row := (order_append_unseen workers rounds).mem_iff.2 h
  rwa [unseen_eq_nil_iff.2 all, List.append_nil] at row

/-- Where everybody has been seen and nobody failed, the summary is that of all statistics. -/
theorem summary_of_allSeen (all : AllSeen workers rounds) {stats : Place → Stats}
    (ok : ∀ place ∈ places workers, fates.learned place = .ok (stats place)) :
    (order workers rounds).foldl fates.put { workers := List.replicate workers {} }
      = Summary.of workers stats := by
  have puts : (order workers rounds).foldl fates.put { workers := List.replicate workers {} }
      = (order workers rounds).foldl (fun summary place => summary.put place (stats place))
        { workers := List.replicate workers {} } := by
    refine List.foldl_ext _ _ _ fun summary place hplace => ?_
    unfold Fates.put
    rw [ok place (mem_order.1 hplace).1]
  rw [puts]
  refine Summary.eq_of_at? (fun place hplace => ?_) fun index behind => ?_
  · have there : (Summary.at? { workers := List.replicate workers {} } place).isSome = true := by
      rcases mem_places.1 hplace with rfl | ⟨i, hi, rfl⟩ | rfl
      · rfl
      · simp [Summary.at?, hi]
      · rfl
    rw [Summary.at?_foldl_put, if_pos ⟨mem_order_of_allSeen all hplace, there⟩]
  · have nowhere : Summary.at? { workers := List.replicate workers {} } (.worker index) = none := by
      simp [Summary.at?, behind]
    rw [Summary.at?_foldl_put, nowhere]
    simp

/-- Nobody failed if and only if there are statistics of everybody. -/
theorem findSome?_eq_none_iff_of_allSeen (all : AllSeen workers rounds) :
    (order workers rounds).findSome? fates.failure? = none ↔
      ∃ stats : Place → Stats,
        ∀ place ∈ places workers, fates.learned place = .ok (stats place) := by
  rw [List.findSome?_eq_none_iff]
  constructor
  · intro hnone
    have fine : ∀ place, ∃ stats, place ∈ places workers → fates.learned place = .ok stats := by
      intro place
      cases hlearned : fates.learned place with
      | ok stats => exact ⟨stats, fun _ => rfl⟩
      | error cause =>
        refine ⟨{}, fun hplace => ?_⟩
        have := hnone place (mem_order_of_allSeen all hplace)
        unfold Fates.failure? at this
        rw [hlearned] at this
        cases this
    choose stats ok using fine
    exact ⟨stats, ok⟩
  · rintro ⟨stats, ok⟩ place hplace
    unfold Fates.failure?
    rw [ok place (mem_order.1 hplace).1]

/-- **Joining a farm joins each element once, in the order in which they are seen to have ended.**
Let the elements of a farm with any number of workers end in any way, and be seen to have ended in
any rounds. What was joined so far is `order`, nobody twice, and what was not is left. There is a
result when nothing is left. It is the statistics of all elements, each in its own place, exactly if
nobody failed; otherwise it is the failure that comes first in this order. The round that meets it
asks exactly those elements to exit that were not seen to have ended by then. Nobody else is ever
asked. -/
theorem joins_each_once (workers : Nat) (fates : Fates) (rounds : List (Place → Bool)) :
    let w := watch workers fates rounds
    w.join.joined = (order workers rounds).map (fun place => (place, fates.learned place)) ∧
      (order workers rounds).Nodup ∧
      w.join.pending = unseen workers rounds ∧
      (order workers rounds ++ unseen workers rounds).Perm (places workers) ∧
      (w.join.result? = none ↔ ¬ AllSeen workers rounds) ∧
      (∀ summary, w.join.result? = some (.ok summary) ↔ AllSeen workers rounds ∧
        ∃ stats : Place → Stats,
          (∀ place ∈ places workers, fates.learned place = .ok (stats place)) ∧
          summary = .of workers stats) ∧
      (∀ cause, w.join.result? = some (.error cause) ↔ AllSeen workers rounds ∧
        ∃ place, fates.failing workers rounds = some place ∧
          fates.learned place = .error cause) ∧
      w.asked = fates.asks workers rounds := by
  intro w
  have here : w.At workers fates rounds := watch_at workers fates rounds
  have first (cause : Error) : (order workers rounds).findSome? fates.failure? = some cause ↔
      ∃ place, fates.failing workers rounds = some place ∧ fates.learned place = .error cause := by
    rw [Fates.findSome?_failure, Option.bind_eq_some_iff]
    refine exists_congr fun place => and_congr_right fun _ => ?_
    unfold Fates.failure?
    cases fates.learned place <;> simp
  have left : w.join.pending = [] ↔ AllSeen workers rounds := by
    rw [here.pending, unseen_eq_nil_iff]
    rfl
  refine ⟨here.joined, nodup_order workers rounds, here.pending,
    order_append_unseen workers rounds, ?_⟩
  unfold Join.result?
  cases hpending : w.join.pending with
  | cons place row =>
    -- Somebody is left, so there is no result.
    have notAll : ¬ AllSeen workers rounds := by
      rw [← left, hpending]
      nofun
    simp [notAll, here.asked]
  | nil =>
    have all : AllSeen workers rounds := left.1 hpending
    have hnone : (order workers rounds).findSome? fates.failure? = none ↔ _ :=
      findSome?_eq_none_iff_of_allSeen all
    -- Everybody was joined: it is the statistics or the first failure.
    cases hfailure : w.join.failure with
    | none =>
      have nobody := here.failure.symm.trans hfailure
      obtain ⟨stats, ok⟩ := hnone.1 nobody
      have hsummary : w.join.summary = .of workers stats :=
        here.summary.trans (summary_of_allSeen all ok)
      refine ⟨by simp [all], fun summary => ?_, fun cause => ?_, here.asked⟩
      · rw [hsummary]
        constructor
        · rintro ⟨⟩
          exact ⟨all, stats, ok, rfl⟩
        · rintro ⟨-, stats', ok', rfl⟩
          rw [← summary_of_allSeen all ok, summary_of_allSeen all ok']
      · rw [← first, nobody]
        simp
    | some cause =>
      have somebody := here.failure.symm.trans hfailure
      refine ⟨by simp [all], fun summary => ?_, fun cause' => ?_, here.asked⟩
      · constructor
        · nofun
        · rintro ⟨-, stats, ok, -⟩
          rw [hnone.2 ⟨stats, ok⟩] at somebody
          cases somebody
      · rw [← first, somebody]
        simp [all]

/-- Both workers go wrong, and the second one is seen first: its failure counts, and the first
worker and the collector, which have not been seen to have ended, are asked to exit. When nobody
goes wrong, the statistics stand in their places whatever the order was. -/
theorem joins_each_once_two :
    let fates : Fates :=
      { name := fun _ => "worker-0"
        outcome := fun
          | .worker 0 => .panicked
          | .worker 1 => .returned (.error .sendClosed)
          | _ => .returned (.ok {}) }
    let rounds : List (Place → Bool) :=
      [fun _ => false, fun p => p == .worker 1 || p == .distributor, fun p => p == .worker 0,
        fun _ => true]
    let fine : Fates :=
      { name := fun _ => ""
        outcome := fun
          | .worker i => .returned (.ok { process := i + 1 })
          | _ => .returned (.ok { ends := 1 }) }
    let backwards : List (Place → Bool) :=
      [fun p => p == .collector, fun p => p == .worker 1, fun _ => true]
    (watch 2 fates rounds).join.joined =
        [(.distributor, .ok {}), (.worker 1, .error .sendClosed),
          (.worker 0, .error (.panicked "worker-0")), (.collector, .ok {})] ∧
      (watch 2 fates rounds).join.result? = some (.error .sendClosed) ∧
      (watch 2 fates rounds).asked = [[], [.worker 0, .collector], [], []] ∧
      (watch 2 fine backwards).join.result? =
        some (.ok ⟨{ ends := 1 }, [{ process := 1 }, { process := 2 }], { ends := 1 }⟩) := by
  intro fates rounds fine backwards
  obtain ⟨joined, -, -, -, -, -, fails, asked⟩ := joins_each_once 2 fates rounds
  obtain ⟨-, -, -, -, -, goes, -, -⟩ := joins_each_once 2 fine backwards
  have allRounds : AllSeen 2 rounds := fun _ _ => ⟨fun _ => true, by simp [rounds], rfl⟩
  have allBackwards : AllSeen 2 backwards := fun _ _ => ⟨fun _ => true, by simp [backwards], rfl⟩
  refine ⟨joined.trans (by rfl), (fails _).2 ⟨allRounds, .worker 1, by decide, rfl⟩,
    asked.trans (by decide), (goes _).2 ⟨allBackwards, ?_⟩⟩
  refine ⟨fun | .worker i => { process := i + 1 } | _ => { ends := 1 }, fun place _ => ?_, rfl⟩
  cases place <;> rfl

end Farm

end RecordFarm
