import RecordFarm.Proofs.Element.Chronicle

/-!
# What a pipeline takes and what it hands on

A pipeline whose source and sink take notes leaves a list of events: what each was asked and
answered, and whether the sink wanted more. From the events one reads off which messages were taken,
each from the source or from the sink's peers, and which calls about messages were handed to the
source and to the sink. `route` says what is to be handed on for one message, `routes` for all of
them. This module has the definitions and what one more event adds.
-/

namespace RecordFarm

namespace Pipeline

variable {ω σ τ π κ υ : Type}

/-- What is seen of the source and the sink of a pipeline. -/
inductive Event where
  | source (note : Note SourceCall Reply)
  | sink (note : Note SinkCall Reply)
  | wants (more : Bool)

inductive Handed where
  | toSource (call : SourceCall)
  | toSink (call : SinkCall)
  deriving DecidableEq

namespace Event

/-- The message that was taken with this event, and where from. -/
def taken? : Event → Option (Origin × Message)
  | source (.answered .next (.ok reply)) => some (.source, reply.getD .ignore)
  | sink (.answered .get (.ok reply)) => some (.sink, reply.getD .ignore)
  | sink (.answered .poll (.ok (some m))) => some (.sink, m)
  | _ => none

def handed? : Event → Option Handed
  | source (.asked (.register id)) => some (.toSource (.register id))
  | source (.asked (.unregister id)) => some (.toSource (.unregister id))
  | sink (.asked (.send m)) => some (.toSink (.send m))
  | sink (.asked (.request id)) => some (.toSink (.request id))
  | sink (.asked (.register id)) => some (.toSink (.register id))
  | sink (.asked (.unregister id)) => some (.toSink (.unregister id))
  | _ => none

/-- Of the answers of a source only those to `next` bring a message. -/
theorem taken?_source {call : SourceCall} (noNext : call ≠ .next) (result : Except Error Reply) :
    (source (.answered call result)).taken? = none := by
  cases call with
  | next => exact absurd rfl noNext
  | _ => rfl

/-- Of the answers of a sink only those to `poll` and `get` bring a message. -/
theorem taken?_sink {call : SinkCall} (noPoll : call ≠ .poll) (noGet : call ≠ .get)
    (result : Except Error Reply) : (sink (.answered call result)).taken? = none := by
  cases call with
  | poll => exact absurd rfl noPoll
  | get => exact absurd rfl noGet
  | _ => rfl

end Event

def taken (events : List Event) : List (Origin × Message) := events.filterMap Event.taken?

def handed (events : List Event) : List Handed := events.filterMap Event.handed?

def Handed.sent? : Handed → Option Message
  | toSink (.send m) => some m
  | _ => none

/-- What is to be handed on for a message, with the state it leaves the processor in. -/
def route (P : Processor π) (p : π) (origin : Origin) (m : Message) : Option Handed × π :=
  match m.kind with
  | .process =>
    match P.apply m p with
    | (.ok output, p) => (if output.kind = .ignore then none else some (.toSink (.send output)), p)
    | (.error _, p) => (none, p)
  | .barrier | .other _ => (some (.toSink (.send m)), p)
  | .endOfStream => (if origin = .source then some (.toSink (.send m)) else none, p)
  | .registration =>
    match m.identity, origin with
    | .error _, _ => (none, p)
    | .ok id, .source => (some (.toSource (.register id)), p)
    | .ok id, .sink => (some (.toSink (.register id)), p)
  | .unregistration =>
    match m.identity, origin with
    | .error _, _ => (none, p)
    | .ok id, .source => (some (.toSource (.unregister id)), p)
    | .ok id, .sink => (some (.toSink (.unregister id)), p)
  | .dataRequest =>
    match m.identity with
    | .error _ => (none, p)
    | .ok id => (some (.toSink (.request id)), p)
  | .exitRequest | .ignore => (none, p)

/-- What is to be handed on for these messages, one after the other. -/
def routes (P : Processor π) (p : π) (messages : List (Origin × Message)) : List Handed × π :=
  messages.foldl
    (fun x m => (x.1 ++ (route P x.2 m.1 m.2).1.toList, (route P x.2 m.1 m.2).2)) ([], p)

/-- The next message is routed by the processor as it was left. -/
theorem routes_snoc (P : Processor π) (p : π) (messages : List (Origin × Message))
    (m : Origin × Message) :
    routes P p (messages ++ [m])
      = ((routes P p messages).1 ++ (route P (routes P p messages).2 m.1 m.2).1.toList,
        (route P (routes P p messages).2 m.1 m.2).2) := by
  rw [routes, List.foldl_append]
  rfl

/-- What a processor makes is records, or something to ignore. -/
theorem apply_kind {P : Processor π} {m output : Message} {p p' : π}
    (h : P.apply m p = (.ok output, p')) : output.kind = .process ∨ output.kind = .ignore := by
  unfold Processor.apply at h
  split at h
  · cases h
  · split at h
    · cases h
      exact Or.inr rfl
    · cases h
      exact Or.inl rfl
    · cases h

/-- What is sent for a message is worth forwarding, and it ends the stream only if the message is
the source's own end. -/
theorem route_sent {P : Processor π} {p : π} {origin : Origin} {m sent : Message}
    (h : (route P p origin m).1 = some (.toSink (.send sent))) :
    sent.kind ≠ .ignore ∧ (sent.isEnd = true → origin = .source ∧ m.isEnd = true) := by
  unfold route at h
  cases hkind : m.kind <;> rw [hkind] at h
  case process =>
    rcases happly : P.apply m p with ⟨result, p'⟩
    rw [happly] at h
    cases result with
    | error fault => cases h
    | ok output =>
      simp only at h
      split at h
      · cases h
      · next hignore =>
        cases h
        have hprocess := (apply_kind happly).resolve_right hignore
        refine ⟨hignore, fun hend => ?_⟩
        rw [Message.isEnd, hprocess] at hend
        cases hend
  case endOfStream =>
    simp only at h
    split at h
    · next horigin =>
      cases h
      rw [hkind]
      exact ⟨by nofun, fun hend => ⟨horigin, hend⟩⟩
    · cases h
  case barrier | other =>
    cases h
    rw [Message.isEnd, hkind]
    exact ⟨by nofun, by nofun⟩
  case registration | unregistration =>
    simp only at h
    split at h <;> cases h
  case dataRequest =>
    simp only at h
    split at h <;> cases h
  case exitRequest | ignore => cases h

/-- The source is read only when the sink has just said that it wants more and that nobody waits
there, and never after it has ended. -/
def Reads (events : List Event) : Prop :=
  ∀ before after, events = before ++ .source (.asked .next) :: after →
    (∃ earlier, before
      = earlier ++ [.wants true, .sink (.asked .poll), .sink (.answered .poll (.ok none))])
    ∧ ∀ m, (Origin.source, m) ∈ taken before → m.isEnd = false

/-- Once the source has ended, all messages come from the sink's peers. -/
def EndsOnce (messages : List (Origin × Message)) : Prop :=
  messages.Pairwise fun x y => x.1 = .source → x.2.isEnd = true → y.1 = .sink

def ends (messages : List (Origin × Message)) : Nat :=
  messages.countP fun x => decide (x.1 = .source) && x.2.isEnd

theorem EndsOnce.ends_le {messages : List (Origin × Message)} (h : EndsOnce messages) :
    ends messages ≤ 1 := by
  induction messages with
  | nil => exact Nat.zero_le 1
  | cons x messages ih =>
    obtain ⟨hx, hrest⟩ := List.pairwise_cons.1 h
    unfold ends
    by_cases hend : (decide (x.1 = .source) && x.2.isEnd) = true
    · -- All others come from the sink.
      have hnone : messages.countP (fun x => decide (x.1 = .source) && x.2.isEnd) = 0 := by
        rw [List.countP_eq_zero]
        intro y hy
        rw [Bool.and_eq_true, decide_eq_true_eq] at hend
        simp [hx y hy hend.1 hend.2]
      rw [List.countP_cons, hnone]
      split <;> omega
    · rw [List.countP_cons, if_neg hend]
      exact ih hrest

theorem eq_send_of_mem {x : Option Handed} {m : Message}
    (h : m ∈ x.toList.filterMap Handed.sent?) : x = some (.toSink (.send m)) := by
  obtain ⟨call, hcall, hsent⟩ := List.mem_filterMap.1 h
  rw [Option.mem_toList] at hcall
  rw [hcall]
  unfold Handed.sent? at hsent
  split at hsent
  · cases hsent
    rfl
  · cases hsent

/-- Everything that is sent is worth forwarding. -/
theorem routes_noIgnore (P : Processor π) (p : π) (messages : List (Origin × Message)) :
    ∀ m ∈ (routes P p messages).1.filterMap Handed.sent?, m.kind ≠ .ignore := by
  induction messages using List.reverseRecOn with
  | nil => nofun
  | append_singleton messages x ih =>
    intro m hm
    rw [routes_snoc, List.filterMap_append, List.mem_append] at hm
    rcases hm with hm | hm
    · exact ih m hm
    · exact (route_sent (eq_send_of_mem hm)).1

/-- The end of the stream is sent as often as the source ends. -/
theorem routes_ends (P : Processor π) (p : π) (messages : List (Origin × Message)) :
    ((routes P p messages).1.filterMap Handed.sent?).countP Message.isEnd ≤ ends messages := by
  induction messages using List.reverseRecOn with
  | nil => exact Nat.le_refl 0
  | append_singleton messages x ih =>
    rw [routes_snoc, List.filterMap_append, List.countP_append, ends, List.countP_append]
    refine Nat.add_le_add ih ?_
    rw [List.countP_singleton]
    split
    · -- No more than one call is made for a message.
      refine Nat.le_trans List.countP_le_length (Nat.le_trans (List.length_filterMap_le _ _) ?_)
      exact Option.length_toList_le
    · next hend =>
      -- Nothing that is sent for another message ends the stream.
      refine Nat.le_of_eq (List.countP_eq_zero.2 fun m hm hm' => hend ?_)
      have := (route_sent (eq_send_of_mem hm)).2 hm'
      rw [Bool.and_eq_true, decide_eq_true_eq]
      exact this

theorem Reads.snoc {events : List Event} {event : Event} (h : Reads events)
    (other : event ≠ .source (.asked .next)) : Reads (events ++ [event]) := by
  intro before after heq
  -- The reading is not what was added, so it was there before.
  rcases List.eq_nil_or_concat after with rfl | ⟨after', last, rfl⟩
  · exact absurd (List.append_inj' heq rfl).2 (by simpa using other)
  · have hsplit : events ++ [event] = before ++ .source (.asked .next) :: after' ++ [last] := by
      rw [heq, List.concat_eq_append]
      simp only [List.append_assoc, List.cons_append]
    exact h before after' (List.append_inj' hsplit rfl).1

/-- The source may be read when the sink wants more, nobody spoke to it, and it has not ended. -/
theorem Reads.read {events : List Event} (h : Reads events)
    (polled : ∃ earlier, events
      = earlier ++ [.wants true, .sink (.asked .poll), .sink (.answered .poll (.ok none))])
    (going : ∀ m, (Origin.source, m) ∈ taken events → m.isEnd = false) :
    Reads (events ++ [.source (.asked .next)]) := by
  intro before after heq
  rcases List.eq_nil_or_concat after with rfl | ⟨after', last, rfl⟩
  · rw [← (List.append_inj' heq rfl).1]
    exact ⟨polled, going⟩
  · have hsplit : events ++ [.source (.asked .next)]
        = before ++ .source (.asked .next) :: after' ++ [last] := by
      rw [heq, List.concat_eq_append]
      simp only [List.append_assoc, List.cons_append]
    exact h before after' (List.append_inj' hsplit rfl).1

/-- What no event may break: the source is read in time only, it ends once, and the pipeline knows
when it has. -/
structure Sound (done : Bool) (events : List Event) : Prop where
  reads : Reads events
  order : EndsOnce (taken events)
  going : done = false → ∀ m, (Origin.source, m) ∈ taken events → m.isEnd = false

/-- Everything that was taken has been handed on, as `routes` says. -/
structure Settled (P : Processor π) (start : π) (done : Bool) (p : π) (events : List Event) : Prop
    extends Sound done events where
  passed : handed events = (routes P start (taken events)).1
  processor : p = (routes P start (taken events)).2

/-- The message that was taken last has not been handled. -/
structure Holding (P : Processor π) (start : π) (m : Message) (done : Bool) (origin : Origin)
    (p : π) (events : List Event) : Prop extends Sound done events where
  held : ∃ earlier, taken events = earlier ++ [(origin, m)]
    ∧ handed events = (routes P start earlier).1 ∧ p = (routes P start earlier).2

variable {P : Processor π} {start : π} {done : Bool} {p : π} {events : List Event} {event : Event}

theorem taken_snoc_of_none (h : event.taken? = none) :
    taken (events ++ [event]) = taken events := by
  simp only [taken, List.filterMap_append, List.filterMap_cons_none h, List.filterMap_nil,
    List.append_nil]

theorem taken_snoc {x : Origin × Message} (h : event.taken? = some x) :
    taken (events ++ [event]) = taken events ++ [x] := by
  simp only [taken, List.filterMap_append, List.filterMap_cons_some h, List.filterMap_nil]

theorem handed_snoc_of_none (h : event.handed? = none) :
    handed (events ++ [event]) = handed events := by
  simp only [handed, List.filterMap_append, List.filterMap_cons_none h, List.filterMap_nil,
    List.append_nil]

theorem handed_snoc {x : Handed} (h : event.handed? = some x) :
    handed (events ++ [event]) = handed events ++ [x] := by
  simp only [handed, List.filterMap_append, List.filterMap_cons_some h, List.filterMap_nil]

/-- What is sound was sound before. -/
theorem Sound.of_append {more : List Event} (sound : Sound done (events ++ more)) :
    Sound done events where
  reads before after heq := sound.reads before (after ++ more) (by rw [heq, List.append_assoc]; rfl)
  order := sound.order.sublist ((List.sublist_append_left events more).filterMap _)
  going hdone m hm :=
    sound.going hdone m (((List.sublist_append_left events more).filterMap _).subset hm)

/-- An event that is neither a reading nor a message keeps the events sound. -/
theorem Sound.other (sound : Sound done events) (quiet : event.taken? = none)
    (other : event ≠ .source (.asked .next)) : Sound done (events ++ [event]) where
  reads := sound.reads.snoc other
  order := by
    rw [taken_snoc_of_none quiet]
    exact sound.order
  going := by
    rw [taken_snoc_of_none quiet]
    exact sound.going

/-- A message from the sink may come at any time. -/
theorem Sound.taken_sink {m : Message} (sound : Sound done events)
    (h : event.taken? = some (.sink, m)) : Sound done (events ++ [event]) where
  reads := sound.reads.snoc (by rintro rfl; cases h)
  order := by
    rw [taken_snoc h, EndsOnce, List.pairwise_append]
    refine ⟨sound.order, List.pairwise_singleton _ _, fun x _ y hy _ _ => ?_⟩
    rw [List.mem_singleton.1 hy]
  going := by
    intro hdone m' hm'
    rw [taken_snoc h, List.mem_append, List.mem_singleton] at hm'
    rcases hm' with hm' | hm'
    · exact sound.going hdone m' hm'
    · cases hm'

/-- A message from the source comes before its end, or is its end. -/
theorem Sound.taken_source {m : Message} (sound : Sound false events)
    (h : event.taken? = some (.source, m)) : Sound m.isEnd (events ++ [event]) where
  reads := sound.reads.snoc (by rintro rfl; cases h)
  order := by
    rw [taken_snoc h, EndsOnce, List.pairwise_append]
    refine ⟨sound.order, List.pairwise_singleton _ _, fun x hx y _ hsource hend => ?_⟩
    obtain ⟨origin, m'⟩ := x
    -- Before, the source has not ended.
    rw [show origin = .source from hsource] at hx
    rw [sound.going rfl m' hx] at hend
    cases hend
  going := by
    intro hdone m' hm'
    rw [taken_snoc h, List.mem_append, List.mem_singleton] at hm'
    rcases hm' with hm' | hm'
    · exact sound.going rfl m' hm'
    · cases hm'
      exact hdone

/-- An event that takes nothing and hands nothing on leaves the pipeline settled. -/
theorem Settled.other (settled : Settled P start done p events) (quiet : event.taken? = none)
    (silent : event.handed? = none) (other : event ≠ .source (.asked .next)) :
    Settled P start done p (events ++ [event]) where
  toSound := settled.toSound.other quiet other
  passed := by
    rw [taken_snoc_of_none quiet, handed_snoc_of_none silent]
    exact settled.passed
  processor := by
    rw [taken_snoc_of_none quiet]
    exact settled.processor

/-- A settled pipeline may read its source. -/
theorem Settled.read (settled : Settled P start false p events)
    (polled : ∃ earlier, events
      = earlier ++ [.wants true, .sink (.asked .poll), .sink (.answered .poll (.ok none))]) :
    Settled P start false p (events ++ [.source (.asked .next)]) where
  reads := settled.reads.read polled (settled.going rfl)
  order := by
    rw [taken_snoc_of_none rfl]
    exact settled.order
  going := by
    rw [taken_snoc_of_none rfl]
    exact settled.going
  passed := by
    rw [taken_snoc_of_none rfl, handed_snoc_of_none rfl]
    exact settled.passed
  processor := by
    rw [taken_snoc_of_none rfl]
    exact settled.processor

/-- A settled pipeline that takes a message holds it. -/
theorem Settled.hold {m : Message} {origin : Origin} {done' : Bool}
    (settled : Settled P start done p events) (h : event.taken? = some (origin, m))
    (silent : event.handed? = none) (sound : Sound done' (events ++ [event])) :
    Holding P start m done' origin p (events ++ [event]) where
  toSound := sound
  held := by
    refine ⟨taken events, taken_snoc h, ?_, settled.processor⟩
    rw [handed_snoc_of_none silent]
    exact settled.passed

/-- A message for which nothing is to be handed on. -/
theorem Holding.drop {m : Message} {origin : Origin}
    (holding : Holding P start m done origin p events) (h : (route P p origin m).1 = none) :
    Settled P start done (route P p origin m).2 events where
  toSound := holding.toSound
  passed := by
    obtain ⟨earlier, htaken, hhanded, hp⟩ := holding.held
    rw [htaken, routes_snoc, ← hp, h, hhanded]
    exact (List.append_nil _).symm
  processor := by
    obtain ⟨earlier, htaken, hhanded, hp⟩ := holding.held
    rw [htaken, routes_snoc, ← hp]

/-- What is to be handed on for a message is handed on. -/
theorem Holding.pass {m : Message} {origin : Origin} {x : Handed}
    (holding : Holding P start m done origin p events) (h : (route P p origin m).1 = some x)
    (hevent : event.handed? = some x) (quiet : event.taken? = none) :
    Settled P start done (route P p origin m).2 (events ++ [event]) where
  toSound := holding.toSound.other quiet (by rintro rfl; cases hevent)
  passed := by
    obtain ⟨earlier, htaken, hhanded, hp⟩ := holding.held
    rw [taken_snoc_of_none quiet, handed_snoc hevent, htaken, routes_snoc, ← hp, h, hhanded]
    rfl
  processor := by
    obtain ⟨earlier, htaken, hhanded, hp⟩ := holding.held
    rw [taken_snoc_of_none quiet, htaken, routes_snoc, ← hp]

end Pipeline

end RecordFarm
