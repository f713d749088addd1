import Mathlib.Data.List.Nodup
import Mathlib.Data.List.Perm.Subperm
import RecordFarm.Proofs.Fanin.Collecting
import RecordFarm.Proofs.Farm.Dealt

/-!
# The accounts of a collector

What the producers of a collector have said is partly taken in and partly still coming. Each
producer's words are taken in its own order, so the collector knows who has come and who has gone
(`Account.seen`, `Account.producers`), and what it handed out is what it took in, taken apart
(`Account.handed`). When as many producers as there are have come, and all have gone, every one of
them has said its last word, and nothing is coming any more (`Account.silence`).
-/

namespace RecordFarm

namespace Fanin

/-- What one producer may have said: that it is there, what it was given, and that it leaves. -/
inductive Script (id : ClientId) : List Message → Prop where
  | silent : Script id []
  | here {sent : List Message} (sendable : ∀ m ∈ sent, Sendable m.kind)
      (readable : ∀ m ∈ sent, m.kind = .process → ∃ records, m.records = .ok records) :
      Script id (.registration id :: sent)
  | gone {sent : List Message} (sendable : ∀ m ∈ sent, Sendable m.kind)
      (readable : ∀ m ∈ sent, m.kind = .process → ∃ records, m.records = .ok records) :
      Script id (.registration id :: sent ++ [.unregistration id])

theorem Sendable.ne_registration {m : Message} (h : Sendable m.kind) (id : ClientId) :
    m ≠ .registration id := by
  rintro rfl
  cases h

theorem Sendable.ne_unregistration {m : Message} (h : Sendable m.kind) (id : ClientId) :
    m ≠ .unregistration id := by
  rintro rfl
  cases h

/-- What a word of a producer can be, and where it stands among its words. -/
inductive Spoken (id : ClientId) (before later : List Message) : Message → Prop where
  | comes (first : before = []) : Spoken id before later (.registration id)
  | leaves (last : later = []) : Spoken id before later (.unregistration id)
  | sends {m : Message} (sendable : Sendable m.kind)
      (readable : m.kind = .process → ∃ records, m.records = .ok records) :
      Spoken id before later m

/-- Each message of a script is spoken after those before it. -/
theorem Script.spoken {id : ClientId} {before later : List Message} {m : Message}
    (h : Script id (before ++ m :: later)) : Spoken id before later m := by
  generalize hall : before ++ m :: later = all at h
  cases h with
  | silent => simp at hall
  | here sendable readable =>
    cases before with
    | nil =>
      rw [List.nil_append, List.cons.injEq] at hall
      rw [hall.1]
      exact .comes rfl
    | cons x before =>
      rw [List.cons_append, List.cons.injEq] at hall
      have hm : m ∈ before ++ m :: later := by simp
      rw [hall.2] at hm
      exact .sends (sendable m hm) (readable m hm)
  | @gone sent sendable readable =>
    cases before with
    | nil =>
      rw [List.nil_append, List.cons_append, List.cons.injEq] at hall
      rw [hall.1]
      exact .comes rfl
    | cons x before =>
      rw [List.cons_append, List.cons_append, List.cons.injEq] at hall
      -- The last word is the leave, and those before it were given.
      rcases List.eq_nil_or_concat later with rfl | ⟨later', last, rfl⟩
      · have hlast := (List.append_inj' hall.2 rfl).2
        rw [List.singleton_inj.1 hlast]
        exact .leaves rfl
      · rw [List.concat_eq_append, ← List.cons_append, ← List.append_assoc] at hall
        have hsent := (List.append_inj' hall.2 rfl).1
        have hm : m ∈ before ++ m :: later' := by simp
        rw [hsent] at hm
        exact .sends (sendable m hm) (readable m hm)

/-- All that a script holds are words. -/
theorem Script.word {id : ClientId} {words : List Message} (h : Script id words) :
    ∀ m ∈ words, Word m := by
  intro m hm
  obtain ⟨before, later, rfl⟩ := List.append_of_mem hm
  cases h.spoken with
  | comes _ => exact .registration id
  | leaves _ => exact .unregistration id
  | sends sendable readable => exact .sent sendable readable

/-- Nothing comes behind the leave of a producer. -/
theorem Script.last {id : ClientId} {before later : List Message} (h : Script id (before ++ later))
    (left : .unregistration id ∈ before) : later = [] := by
  obtain ⟨earlier, behind, rfl⟩ := List.append_of_mem left
  rw [List.append_assoc, List.cons_append] at h
  have spoken := h.spoken
  generalize hm : Message.unregistration id = m at spoken
  cases spoken with
  | comes _ => cases hm
  | leaves last => exact (List.append_eq_nil_iff.1 last).2
  | sends sendable _ => exact absurd hm.symm (sendable.ne_unregistration id)

/-- The books of a collector: `said` are the words of its `n` producers, of which `taken` have been
taken in and `coming` are in the pipe, each with its speaker. -/
structure Account (n : Nat) (ids : Nat → ClientId) (said : Nat → List Message)
    (taken coming : List (Nat × Message)) (c : Collector) (handed : List Message) : Prop where
  players : ∀ x ∈ taken ++ coming, x.1 < n
  parts : ∀ i < n, dealtTo i taken ++ dealtTo i coming = said i
  handed : handed ++ c.records.map (fun record => .process [record])
    = (taken.map Prod.snd).flatMap Message.unpacked
  seen : ∀ id, id ∈ c.seen ↔ ∃ i < n, ids i = id ∧ .registration id ∈ dealtTo i taken
  once : c.seen.Nodup
  producers : ∀ id, id ∈ c.producers ↔
    ∃ i < n, ids i = id ∧ .registration id ∈ dealtTo i taken ∧ .unregistration id ∉ dealtTo i taken

namespace Account

variable {n : Nat} {ids : Nat → ClientId} {said : Nat → List Message}
  {taken coming : List (Nat × Message)} {c : Collector} {handed : List Message} {j : Nat}
  {m : Message}

theorem start (uri : String) (expected : Nat) (silent : ∀ i < n, said i = []) :
    Account n ids said [] [] { uri, expected } [] where
  players := by simp
  parts := fun i hi => (silent i hi).symm
  handed := rfl
  seen := by simp [dealtTo]
  once := .nil
  producers := by simp [dealtTo]

theorem dealtTo_singleton (i j : Nat) (m : Message) :
    dealtTo i [(j, m)] = if i = j then [m] else [] :=
  dealtTo_hand i j [m]

/-- A producer says one more word. -/
theorem say (acc : Account n ids said taken coming c handed) {said' : Nat → List Message}
    (hj : j < n) (hself : said' j = said j ++ [m])
    (hother : ∀ i < n, i ≠ j → said' i = said i) :
    Account n ids said' taken (coming ++ [(j, m)]) c handed where
  players := by
    intro x hx
    rw [← List.append_assoc] at hx
    rcases List.mem_append.1 hx with hold | hnew
    · exact acc.players x hold
    · rw [List.mem_singleton.1 hnew]
      exact hj
  parts := by
    intro i hi
    rw [dealtTo_append, dealtTo_singleton, ← List.append_assoc, acc.parts i hi]
    by_cases h : i = j
    · rw [if_pos h, h, hself]
    · rw [if_neg h, List.append_nil, hother i hi h]
  handed := acc.handed
  seen := acc.seen
  once := acc.once
  producers := acc.producers

/-- The words that are said stay the same. -/
theorem congr (acc : Account n ids said taken coming c handed) {said' : Nat → List Message}
    (same : ∀ i < n, said' i = said i) : Account n ids said' taken coming c handed :=
  { acc with parts := fun i hi => (acc.parts i hi).trans (same i hi).symm }

/-- A record is handed out. -/
theorem hand (acc : Account n ids said taken coming c handed) {record : Bytes}
    {records : List Bytes} (first : c.records = record :: records) :
    Account n ids said taken coming { c with records } (handed ++ [.process [record]]) where
  players := acc.players
  parts := acc.parts
  handed := by
    have h := acc.handed
    rw [first, List.map_cons] at h
    rw [List.append_assoc]
    exact h
  seen := acc.seen
  once := acc.once
  producers := acc.producers

theorem mem_dealtTo_snoc (x : Message) (i j : Nat) (m : Message) :
    x ∈ dealtTo i (taken ++ [(j, m)]) ↔ x ∈ dealtTo i taken ∨ i = j ∧ x = m := by
  rw [dealtTo_append, List.mem_append, dealtTo_singleton]
  by_cases h : i = j
  · rw [if_pos h, List.mem_singleton]
    exact ⟨fun hx => hx.imp id fun hm => ⟨h, hm⟩, fun hx => hx.imp id And.right⟩
  · rw [if_neg h]
    simp [h]

/-- A word that is taken in moves from what is coming to what was taken. It remains to see what the
collector makes of it. -/
theorem take (acc : Account n ids said taken ((j, m) :: coming) c handed) {c' : Collector}
    (out : List Message)
    (hhanded : handed ++ out ++ c'.records.map (fun record => .process [record])
      = (taken.map Prod.snd).flatMap Message.unpacked ++ m.unpacked)
    (hseen : ∀ id, id ∈ c'.seen ↔
      ∃ i < n, ids i = id ∧ .registration id ∈ dealtTo i (taken ++ [(j, m)]))
    (honce : c'.seen.Nodup)
    (hproducers : ∀ id, id ∈ c'.producers ↔ ∃ i < n, ids i = id ∧
      .registration id ∈ dealtTo i (taken ++ [(j, m)]) ∧
      .unregistration id ∉ dealtTo i (taken ++ [(j, m)])) :
    Account n ids said (taken ++ [(j, m)]) coming c' (handed ++ out) where
  players := by
    rw [List.append_assoc]
    exact acc.players
  parts := by
    intro i hi
    have h := acc.parts i hi
    rw [← List.singleton_append, dealtTo_append] at h
    rw [dealtTo_append, List.append_assoc]
    exact h
  handed := by
    rw [hhanded, List.map_append, List.flatMap_append, List.map_singleton, List.flatMap_singleton]
  seen := hseen
  once := honce
  producers := hproducers

/-- When nothing is kept, what was taken in has been handed out. -/
theorem settled (acc : Account n ids said taken coming c handed) (nothing : c.records = []) :
    handed = (taken.map Prod.snd).flatMap Message.unpacked := by
  have h := acc.handed
  rwa [nothing, List.map_nil, List.append_nil] at h

/-- A producer comes. -/
theorem comes (acc : Account n ids said taken ((j, .registration (ids j)) :: coming) c handed)
    (nothing : c.records = []) (first : dealtTo j taken = []) :
    Account n ids said (taken ++ [(j, .registration (ids j))]) coming
      (Collector.absorb (.registration (ids j)) c).1
      (handed ++ (Collector.absorb (.registration (ids j)) c).2) := by
  have hj : j < n := acc.players (j, .registration (ids j)) (by simp)
  have hid := Message.identity_registration (ids j)
  have hkind : (Message.registration (ids j)).kind = .registration := rfl
  simp only [Collector.absorb, hkind, hid]
  refine acc.take [] ?_ ?_ acc.once.insert ?_
  · rw [nothing, ← acc.settled nothing, List.append_nil]
    rfl
  · intro id
    rw [List.mem_insert_iff, acc.seen]
    simp only [mem_dealtTo_snoc]
    constructor
    · rintro (rfl | ⟨i, hi, rfl, hreg⟩)
      · exact ⟨j, hj, rfl, Or.inr ⟨rfl, rfl⟩⟩
      · exact ⟨i, hi, rfl, Or.inl hreg⟩
    · rintro ⟨i, hi, rfl, hreg | ⟨rfl, -⟩⟩
      · exact Or.inr ⟨i, hi, rfl, hreg⟩
      · exact Or.inl rfl
  · intro id
    rw [List.mem_insert_iff, acc.producers]
    simp only [mem_dealtTo_snoc]
    constructor
    · rintro (rfl | ⟨i, hi, rfl, hreg, hstays⟩)
      · refine ⟨j, hj, rfl, Or.inr ⟨rfl, rfl⟩, ?_⟩
        rw [first]
        simp [Message.registration, Message.unregistration]
      · refine ⟨i, hi, rfl, Or.inl hreg, ?_⟩
        rintro (hleft | ⟨-, heq⟩)
        · exact hstays hleft
        · simp [Message.registration, Message.unregistration] at heq
    · rintro ⟨i, hi, rfl, hreg | ⟨rfl, -⟩, hstays⟩
      · exact Or.inr ⟨i, hi, rfl, hreg, fun hleft => hstays (Or.inl hleft)⟩
      · exact Or.inl rfl

/-- A producer leaves. -/
theorem leaves (acc : Account n ids said taken ((j, .unregistration (ids j)) :: coming) c handed)
    (distinct : ∀ i < n, ∀ k < n, ids i = ids k → i = k) (nothing : c.records = []) :
    Account n ids said (taken ++ [(j, .unregistration (ids j))]) coming
      (Collector.absorb (.unregistration (ids j)) c).1
      (handed ++ (Collector.absorb (.unregistration (ids j)) c).2) := by
  have hj : j < n := acc.players (j, .unregistration (ids j)) (by simp)
  have hid := Message.identity_unregistration (ids j)
  have hkind : (Message.unregistration (ids j)).kind = .unregistration := rfl
  simp only [Collector.absorb, hkind, hid]
  refine acc.take [] ?_ ?_ acc.once ?_
  · rw [nothing, ← acc.settled nothing, List.append_nil]
    rfl
  · intro id
    rw [acc.seen]
    simp only [mem_dealtTo_snoc]
    refine exists_congr fun i => and_congr_right fun _ => and_congr_right fun _ => ?_
    simp [Message.registration, Message.unregistration]
  · intro id
    rw [List.mem_filter, acc.producers, decide_eq_true_eq]
    simp only [mem_dealtTo_snoc]
    constructor
    · rintro ⟨⟨i, hi, rfl, hreg, hstays⟩, hother⟩
      refine ⟨i, hi, rfl, Or.inl hreg, ?_⟩
      rintro (hleft | ⟨rfl, -⟩)
      · exact hstays hleft
      · exact hother rfl
    · rintro ⟨i, hi, rfl, hreg | ⟨-, heq⟩, hstays⟩
      · refine ⟨⟨i, hi, rfl, hreg, fun hleft => hstays (Or.inl hleft)⟩, fun heq => ?_⟩
        -- It would be the leaver itself, of whom the leave has now been taken in.
        obtain rfl := distinct i hi j hj heq
        exact hstays (Or.inr ⟨rfl, rfl⟩)
      · simp [Message.registration, Message.unregistration] at heq

/-- A message that was sent leaves the roster as it is. It is handed out, or kept, or means
nothing. -/
theorem absorb_sent (sendable : Sendable m.kind)
    (readable : m.kind = .process → ∃ records, m.records = .ok records)
    (nothing : c.records = []) :
    (Collector.absorb m c).1.seen = c.seen ∧ (Collector.absorb m c).1.producers = c.producers ∧
      (Collector.absorb m c).2
        ++ (Collector.absorb m c).1.records.map (fun record => .process [record]) = m.unpacked := by
  obtain ⟨kind, parts⟩ := m
  cases sendable with
  | process =>
    obtain ⟨records, hrecords⟩ := readable rfl
    have hcontent := Message.content_of_records rfl hrecords
    rw [Message.unpacked_of_records rfl hrecords]
    simp only [Collector.absorb, hcontent]
    exact ⟨trivial, trivial, List.nil_append _⟩
  | barrier => exact ⟨rfl, rfl, by simp [Collector.absorb, nothing, Message.unpacked]⟩
  | endOfStream => exact ⟨rfl, rfl, by simp [Collector.absorb, nothing, Message.unpacked]⟩
  | other unknown => exact ⟨rfl, rfl, by simp [Collector.absorb, nothing, Message.unpacked]⟩

/-- A producer has sent something. -/
theorem sends (acc : Account n ids said taken ((j, m) :: coming) c handed)
    (sendable : Sendable m.kind) (readable : m.kind = .process → ∃ records, m.records = .ok records)
    (nothing : c.records = []) :
    Account n ids said (taken ++ [(j, m)]) coming (Collector.absorb m c).1
      (handed ++ (Collector.absorb m c).2) := by
  have comes (i : Nat) (id : ClientId) :
      .registration id ∈ dealtTo i (taken ++ [(j, m)]) ↔ .registration id ∈ dealtTo i taken := by
    rw [mem_dealtTo_snoc]
    exact or_iff_left fun h => sendable.ne_registration id h.2.symm
  have leaves (i : Nat) (id : ClientId) :
      .unregistration id ∈ dealtTo i (taken ++ [(j, m)])
        ↔ .unregistration id ∈ dealtTo i taken := by
    rw [mem_dealtTo_snoc]
    exact or_iff_left fun h => sendable.ne_unregistration id h.2.symm
  obtain ⟨hseen, hproducers, hout⟩ := absorb_sent sendable readable nothing
  refine acc.take _ ?_ (fun id => ?_) ?_ fun id => ?_
  · rw [List.append_assoc, hout, ← acc.settled nothing]
  · simp only [hseen, comes]
    exact acc.seen id
  · rw [hseen]
    exact acc.once
  · simp only [hproducers, comes, leaves]
    exact acc.producers id

/-- **What a collector makes of a word keeps its books in order.** One case for each kind of
word. -/
theorem absorb (acc : Account n ids said taken ((j, m) :: coming) c handed)
    (distinct : ∀ i < n, ∀ k < n, ids i = ids k → i = k)
    (scripts : ∀ i < n, Script (ids i) (said i)) (nothing : c.records = []) :
    Account n ids said (taken ++ [(j, m)]) coming (Collector.absorb m c).1
      (handed ++ (Collector.absorb m c).2) := by
  have hj : j < n := acc.players (j, m) (by simp)
  -- The word follows those of its speaker that were taken in before.
  have spoken : Spoken (ids j) (dealtTo j taken) (dealtTo j coming) m := by
    have h := acc.parts j hj
    rw [← List.singleton_append, dealtTo_append, dealtTo_singleton, if_pos rfl,
      List.singleton_append] at h
    have script := scripts j hj
    rw [← h] at script
    exact script.spoken
  cases spoken with
  | comes first => exact acc.comes nothing first
  | leaves last => exact acc.leaves distinct nothing
  | sends sendable readable => exact acc.sends sendable readable nothing

/-- As many producers have come as there are, so all of them have. -/
theorem everybody (acc : Account n ids said taken coming c handed) (all : n ≤ c.seen.length) :
    ∀ i < n, ids i ∈ c.seen := by
  have hsub : c.seen ⊆ (List.range n).map ids := by
    intro id hid
    obtain ⟨i, hi, rfl, -⟩ := (acc.seen id).1 hid
    exact List.mem_map_of_mem (List.mem_range.2 hi)
  have hperm := (List.subperm_of_subset acc.once hsub).perm_of_length_le (by simpa using all)
  intro i hi
  exact hperm.mem_iff.2 (List.mem_map_of_mem (List.mem_range.2 hi))

/-- **When the books are complete, nothing is coming.** Every producer has come and gone. -/
theorem silence (acc : Account n ids said taken coming c handed)
    (scripts : ∀ i < n, Script (ids i) (said i))
    (distinct : ∀ i < n, ∀ k < n, ids i = ids k → i = k)
    (hnone : c.producers = []) (all : n ≤ c.seen.length) :
    coming = [] ∧ ∀ i < n, .registration (ids i) ∈ said i ∧ .unregistration (ids i) ∈ said i := by
  have spoken : ∀ i < n, .registration (ids i) ∈ dealtTo i taken ∧
      .unregistration (ids i) ∈ dealtTo i taken := by
    intro i hi
    obtain ⟨k, hk, hid, hreg⟩ := (acc.seen (ids i)).1 (acc.everybody all i hi)
    obtain rfl := distinct k hk i hi hid
    refine ⟨hreg, ?_⟩
    by_contra hstays
    have hmem := (acc.producers (ids k)).2 ⟨k, hk, rfl, hreg, hstays⟩
    rw [hnone] at hmem
    cases hmem
  have quiet : ∀ i < n, dealtTo i coming = [] := by
    intro i hi
    have script := scripts i hi
    rw [← acc.parts i hi] at script
    exact script.last (spoken i hi).2
  refine ⟨?_, fun i hi => ?_⟩
  · cases hcoming : coming with
    | nil => rfl
    | cons x rest =>
      -- The first of the coming words would have a speaker.
      have hx : x.1 < n := acc.players x (by rw [hcoming]; simp)
      have hmem : x.2 ∈ dealtTo x.1 coming := by
        unfold dealtTo
        rw [hcoming]
        exact List.mem_map_of_mem (by simp)
      rw [quiet x.1 hx] at hmem
      cases hmem
  · rw [← acc.parts i hi]
    exact ⟨List.mem_append_left _ (spoken i hi).1, List.mem_append_left _ (spoken i hi).2⟩

/-- When every producer has come and gone, and nothing is coming, the books are complete. -/
theorem complete (acc : Account n ids said taken [] c handed)
    (distinct : ∀ i < n, ∀ k < n, ids i = ids k → i = k)
    (gone : ∀ i < n, .registration (ids i) ∈ said i ∧ .unregistration (ids i) ∈ said i) :
    c.producers = [] ∧ n ≤ c.seen.length := by
  have parts : ∀ i < n, dealtTo i taken = said i := by
    intro i hi
    have h := acc.parts i hi
    rwa [show dealtTo i ([] : List (Nat × Message)) = [] from rfl, List.append_nil] at h
  constructor
  · refine List.eq_nil_iff_forall_not_mem.2 fun id hid => ?_
    obtain ⟨i, hi, rfl, -, stays⟩ := (acc.producers id).1 hid
    rw [parts i hi] at stays
    exact stays (gone i hi).2
  · have hsub : (List.range n).map ids ⊆ c.seen := by
      intro id hid
      obtain ⟨i, hi, rfl⟩ := List.mem_map.1 hid
      have hi' := List.mem_range.1 hi
      refine (acc.seen _).2 ⟨i, hi', rfl, ?_⟩
      rw [parts i hi']
      exact (gone i hi').1
    have hnodup : ((List.range n).map ids).Nodup := by
      refine List.Nodup.map_on (fun i hi k hk => ?_) List.nodup_range
      exact distinct i (List.mem_range.1 hi) k (List.mem_range.1 hk)
    have hlen := (List.subperm_of_subset hnodup hsub).length_le
    rwa [List.length_map, List.length_range] at hlen

/-- What was handed out, what is kept and what is coming is dealt out to the producers. -/
theorem dealt (acc : Account n ids said taken coming c handed) :
    Dealt n (fun i => (said i).flatMap Message.unpacked)
      (handed ++ c.records.map (fun record => .process [record])
        ++ (coming.map Prod.snd).flatMap Message.unpacked) := by
  have whole : Dealt n said ((taken ++ coming).map Prod.snd) :=
    ⟨taken ++ coming, rfl, acc.players, fun i hi => by rw [dealtTo_append]; exact acc.parts i hi⟩
  rw [acc.handed, ← List.flatMap_append, ← List.map_append]
  exact whole.flatMap Message.unpacked

end Account

end Fanin

end RecordFarm
