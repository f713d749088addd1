import RecordFarm.Proofs.Element.Chronicle

/-!
# The course of an element

An element connects the source and the sink, goes round its loop, and disconnects the sink and then
the source, whatever its strategy answers. Here that is a grammar: `Going` is a loop in which
everything has gone well so far, `Loop` one that has been left, `Course` all that an element does
and shows until it has returned. Whatever hooks answer, an element that returns has run its course,
and at any time it has shown the stages of its life in their order (`Element.returns_course`).
-/

namespace RecordFarm

/-- What is seen of an element: what its hooks are asked and answer, and the stages it shows. -/
inductive Deed where
  | did (call : HookCall) (answer : Except Error HookReply)
  | showed (stage : Lifecycle)
  deriving DecidableEq

namespace Deed

/-- What is written about a hook, once it has answered. That the strategy is given up in the end is
not written. -/
def ofNote : Note HookCall HookReply → List Deed
  | .asked _ => []
  | .answered .release _ => []
  | .answered call result => [.did call result]

def stage? : Deed → Option Lifecycle
  | showed stage => some stage
  | did _ _ => none

def fetched? : Deed → Option Message
  | did .fetch (.ok reply) => some reply.message
  | _ => none

def stages (deeds : List Deed) : List Lifecycle := deeds.filterMap stage?

def fetched (deeds : List Deed) : List Message := deeds.filterMap fetched?

end Deed

/-- The stages shown up to this one. -/
def Lifecycle.past : Lifecycle → List Lifecycle
  | created => []
  | running => [running]
  | draining => [running, draining]
  | terminated => [running, draining, terminated]

namespace Stats

def tally (messages : List Message) : Stats :=
  let hooks := messages.map (·.kind.hook)
  { process := hooks.count .process
    registrations := hooks.count .register
    unregistrations := hooks.count .unregister
    ends := hooks.count .endOfStream
    exits := hooks.count .exit
    dataRequests := hooks.count .dataRequest
    other := hooks.count .other }

theorem tally_snoc (messages : List Message) (m : Message) :
    tally (messages ++ [m]) = (tally messages).record m.kind := by
  simp only [tally, record, List.map_append, List.map_cons, List.map_nil, List.count_append]
  cases m.kind.hook <;> rfl

/-- Every message counts once. -/
theorem total_tally (messages : List Message) : (tally messages).total = messages.length := by
  induction messages using List.reverseRecOn with
  | nil => rfl
  | append_singleton messages m ih =>
    rw [tally_snoc, List.length_append, ← ih]
    simp only [record, total]
    cases m.kind.hook <;> simp only [List.length_singleton] <;> omega

end Stats

/-- How a message is handled: by the hook for its kind. That of an exit request is told that the
element does not go on. -/
def Message.handling (m : Message) : HookCall :=
  .dispatch m.kind.hook m (m.kind != .exitRequest)

/-- The loop is about to begin a round: both ends are connected, and every hook so far has answered
that the element is to go on. -/
inductive Going : List Deed → Prop where
  | connected (source sink : HookReply) :
      Going [.did .connectSource (.ok source), .did .connectSink (.ok sink)]
  | round {deeds : List Deed} (going : Going deeds) (reply handled : HookReply)
      (noStop : handled.stop = false) (noExit : reply.message.kind ≠ .exitRequest) :
      Going (deeds ++ [.did .fetch (.ok reply), .did reply.message.handling (.ok handled)])

/-- The loop has been left, because of a failure or without one. -/
inductive Loop : List Deed → Option Error → Prop where
  | noSource (cause : Error) : Loop [.did .connectSource (.error cause)] (some cause)
  | noSink (source : HookReply) (cause : Error) :
      Loop [.did .connectSource (.ok source), .did .connectSink (.error cause)] (some cause)
  | fetchFailed {deeds : List Deed} (going : Going deeds) (cause : Error) :
      Loop (deeds ++ [.did .fetch (.error cause)]) (some cause)
  | hookFailed {deeds : List Deed} (going : Going deeds) (reply : HookReply) (cause : Error) :
      Loop (deeds ++ [.did .fetch (.ok reply), .did reply.message.handling (.error cause)])
        (some cause)
  | stopped {deeds : List Deed} (going : Going deeds) (reply handled : HookReply)
      (last : handled.stop = true ∨ reply.message.kind = .exitRequest) :
      Loop (deeds ++ [.did .fetch (.ok reply), .did reply.message.handling (.ok handled)]) none

def cause? : Except Error HookReply → Option Error
  | .ok _ => none
  | .error cause => some cause

/-- What an element returns: the first failure, or else the counts of what it fetched. -/
def conclusion (failures : List (Option Error)) (deeds : List Deed) : Except Error Stats :=
  match failures.findSome? id with
  | some cause => .error cause
  | none => .ok (.tally (Deed.fetched deeds))

/-- All that an element does and shows until it has returned, and what it returns. -/
inductive Course : List Deed → Except Error Stats → Prop where
  | intro {deeds : List Deed} {failure : Option Error} (loop : Loop deeds failure)
      (sink source : Except Error HookReply) :
      Course
        (.showed .running :: deeds
          ++ [.showed .draining, .did .disconnectSink sink, .did .disconnectSource source,
            .showed .terminated])
        (conclusion [failure, cause? sink, cause? source] deeds)

namespace Deed

theorem stages_append (deeds more : List Deed) :
    stages (deeds ++ more) = stages deeds ++ stages more := List.filterMap_append

theorem fetched_append (deeds more : List Deed) :
    fetched (deeds ++ more) = fetched deeds ++ fetched more := List.filterMap_append

end Deed

open Deed

/-- While the loop goes on no stage is entered. -/
theorem Going.stages {deeds : List Deed} (going : Going deeds) : Deed.stages deeds = [] := by
  induction going with
  | connected source sink => rfl
  | round going reply handled noStop noExit ih => rw [stages_append, ih]; rfl

/-- In the loop no stage is shown. -/
theorem Loop.stages {deeds : List Deed} {failure : Option Error} (loop : Loop deeds failure) :
    Deed.stages deeds = [] := by
  cases loop with
  | noSource cause => rfl
  | noSink source cause => rfl
  | fetchFailed going cause => rw [stages_append, going.stages]; rfl
  | hookFailed going reply cause => rw [stages_append, going.stages]; rfl
  | stopped going reply handled last => rw [stages_append, going.stages]; rfl

/-- A course that came to its end has gone through every stage, once and in order. -/
theorem Course.stages {deeds : List Deed} {result : Except Error Stats}
    (course : Course deeds result) : Deed.stages deeds = Lifecycle.terminated.past := by
  cases course with
  | intro loop sink source =>
    show Deed.stages ([.showed .running] ++ _ ++ _) = _
    rw [stages_append, stages_append, loop.stages]
    rfl

/-- The statistics returned are the tally of the messages fetched. -/
theorem Course.fetched {deeds : List Deed} {stats : Stats} (course : Course deeds (.ok stats)) :
    stats = .tally (Deed.fetched deeds) := by
  generalize hresult : Except.ok stats = result at course
  cases course with
  | @intro deeds failure loop sink source =>
    -- Only the loop fetches.
    have hfetched : Deed.fetched (.showed .running :: deeds ++ [.showed .draining,
        .did .disconnectSink sink, .did .disconnectSource source, .showed .terminated])
          = Deed.fetched deeds := by
      rw [fetched_append]
      exact List.append_nil _
    unfold conclusion at hresult
    split at hresult
    · cases hresult
    · rw [hfetched]
      exact Except.ok.inj hresult

namespace Element

variable {ω σ τ : Type}

/-- What an element has done and shown in each of its phases. -/
inductive Account : Phase (HookCall × τ) → Lifecycle → Stats → List Deed → Prop where
  | created : Account .created .created {} []
  | connectingSource (task : τ) :
      Account (.connectingSource (.connectSource, task)) .running {} [.showed .running]
  | connectingSink (task : τ) (source : HookReply) :
      Account (.connectingSink (.connectSink, task)) .running {}
        [.showed .running, .did .connectSource (.ok source)]
  | fetching {deeds : List Deed} (going : Going deeds) (task : τ) :
      Account (.fetching (.fetch, task)) .running (.tally (fetched deeds))
        (.showed .running :: deeds)
  | dispatching {deeds : List Deed} (going : Going deeds) (reply : HookReply) (task : τ) :
      Account (.dispatching reply.message (reply.message.handling, task)) .running
        (.tally (fetched deeds ++ [reply.message]))
        (.showed .running :: (deeds ++ [.did .fetch (.ok reply)]))
  | disconnectingSink {deeds : List Deed} {failure : Option Error} (loop : Loop deeds failure)
      (task : τ) :
      Account (.disconnectingSink failure (.disconnectSink, task)) .draining
        (.tally (fetched deeds)) (.showed .running :: deeds ++ [.showed .draining])
  | disconnectingSource {deeds : List Deed} {failure : Option Error} (loop : Loop deeds failure)
      (sink : Except Error HookReply) (task : τ) :
      Account (.disconnectingSource (firstFailure failure sink) (.disconnectSource, task)) .draining
        (.tally (fetched deeds))
        (.showed .running :: deeds ++ [.showed .draining, .did .disconnectSink sink])
  | releasing {deeds : List Deed} {result : Except Error Stats} (course : Course deeds result)
      (stats : Stats) (task : τ) :
      Account (.releasing (.returned result) (.release, task)) .terminated stats deeds
  | «over» {deeds : List Deed} {result : Except Error Stats} (course : Course deeds result)
      (stats : Stats) : Account (.over (.returned result)) .terminated stats deeds
  | givenUp {deeds : List Deed} {stage : Lifecycle} (shown : stages deeds = stage.past)
      (stats : Stats) (task : τ) :
      Account (.releasing .panicked (.release, task)) stage stats deeds
  | broken {deeds : List Deed} {stage : Lifecycle} (shown : stages deeds = stage.past)
      (stats : Stats) : Account (.over .panicked) stage stats deeds

/-- An element has shown the stages of its life in their order. -/
theorem Account.stages {phase : Phase (HookCall × τ)} {stage : Lifecycle} {stats : Stats}
    {deeds : List Deed} (account : Account phase stage stats deeds) :
    Deed.stages deeds = stage.past := by
  cases account with
  | created => rfl
  | connectingSource task => rfl
  | connectingSink task source => rfl
  | @fetching deeds going task =>
    show Deed.stages ([.showed .running] ++ deeds) = _
    rw [stages_append, going.stages]
    rfl
  | @dispatching deeds going reply task =>
    show Deed.stages ([.showed .running] ++ (deeds ++ [.did .fetch (.ok reply)])) = _
    rw [stages_append, stages_append, going.stages]
    rfl
  | @disconnectingSink deeds failure loop task =>
    show Deed.stages ([.showed .running] ++ deeds ++ _) = _
    rw [stages_append, stages_append, loop.stages]
    rfl
  | @disconnectingSource deeds failure loop sink task =>
    show Deed.stages ([.showed .running] ++ deeds ++ _) = _
    rw [stages_append, stages_append, loop.stages]
    rfl
  | releasing course stats task => exact course.stages
  | «over» course stats => exact course.stages
  | givenUp shown stats task => exact shown
  | broken shown stats => exact shown

/-- What an element did before it returned is the course of its run. -/
theorem Account.course {phase : Phase (HookCall × τ)} {stage : Lifecycle} {stats : Stats}
    {deeds : List Deed} {result : Except Error Stats} (account : Account phase stage stats deeds)
    (returned : phase = .over (.returned result)) : Course deeds result := by
  cases account with
  | «over» course stats =>
    cases returned
    exact course
  | _ => cases returned

variable {S : Strategy ω σ τ} {e : Element (σ × Bool) (HookCall × τ)} {deeds : List Deed}

def Accounted (x : Element (σ × Bool) (HookCall × τ) × List Deed) : Prop :=
  Account x.1.phase x.1.lifecycle x.1.stats x.2

def showing (stage : Lifecycle) : List Deed := [.showed stage]

/-- Nothing is ever due: only answers are written. -/
theorem due_ofNote (call : HookCall) (busy : Bool) : Service.due ofNote call busy = [] := by
  unfold Service.due
  split <;> rfl

/-- A call is still going on, or it was answered, or the strategy broke down. -/
theorem Account.advance {call : HookCall} {again : HookCall × τ → Phase (HookCall × τ)}
    {andThen : Except Error HookReply → Element (σ × Bool) (HookCall × τ) →
      Element (σ × Bool) (HookCall × τ)}
    (stays : ∀ rest, Account (again (call, rest)) e.lifecycle e.stats deeds)
    (goes : ∀ result strategy, Accounted
      (andThen result { e with strategy },
        deeds ++ ofNote (.answered call result)
          ++ e.lifecycle.news showing (andThen result { e with strategy }).lifecycle))
    (task : τ) (hphase : e.phase = again (call, task)) (w : ω)
    (hstep : e.step (S.noted ofNote) (w, deeds)
      = advance (S.noted ofNote) e (w, deeds) (call, task) again andThen) :
    Accounted (goOn (S.noted ofNote) showing (e, deeds) w) := by
  have hnoted := S.toService.noted_step ofNote call task e.strategy (w, deeds)
  unfold goOn
  rw [hstep, Element.advance]
  change Service.Noted _ _ _ _ ((S.noted ofNote).step (call, task) e.strategy (w, deeds)) at hnoted
  generalize (S.noted ofNote).step (call, task) e.strategy (w, deeds) = stepped at hnoted
  cases hnoted with
  | waiting until? s w =>
    show Account e.phase e.lifecycle e.stats (_ ++ _ ++ e.lifecycle.news showing e.lifecycle)
    rw [due_ofNote, Lifecycle.news_self, List.append_nil, List.append_nil, hphase]
    exact stays task
  | working rest s w =>
    show Account (again (call, rest)) e.lifecycle e.stats
      (_ ++ _ ++ e.lifecycle.news showing e.lifecycle)
    rw [due_ofNote, Lifecycle.news_self, List.append_nil, List.append_nil]
    exact stays rest
  | finished result s w =>
    have := goes result (s, false)
    rw [due_ofNote, List.append_nil]
    exact this
  | panicked s w =>
    show Account (.releasing .panicked (.release, _)) e.lifecycle e.stats
      (_ ++ _ ++ e.lifecycle.news showing e.lifecycle)
    rw [due_ofNote, Lifecycle.news_self, List.append_nil, List.append_nil]
    exact .givenUp (stays task).stages e.stats _

/-- The failures that count are those of the loop and of both ends, in this order. -/
theorem conclusion_eq (failure : Option Error) (sink source : Except Error HookReply)
    (deeds : List Deed) :
    conclusion [failure, cause? sink, cause? source] deeds
      = match firstFailure (firstFailure failure sink) source with
        | some cause => .error cause
        | none => .ok (.tally (fetched deeds)) := by
  cases failure <;> cases sink <;> cases source <;> rfl

/-- The loop is left. -/
theorem Account.drain {failure : Option Error} (loop : Loop deeds failure)
    (hstats : e.stats = .tally (fetched deeds)) :
    Accounted
      (e.drain (S.noted ofNote) failure, .showed .running :: deeds ++ [.showed .draining]) := by
  show Account (.disconnectingSink failure (.disconnectSink, _)) .draining e.stats _
  rw [hstats]
  exact .disconnectingSink loop _

/-- While the strategy is given up nothing is written any more. -/
theorem Account.release {outcome : Outcome} (stays : ∀ rest : τ,
      Account (.releasing outcome (.release, rest)) e.lifecycle e.stats deeds)
    (ends : @Account τ (.over outcome) e.lifecycle e.stats deeds) (task : τ)
    (hphase : e.phase = .releasing outcome (.release, task)) (w : ω) :
    Accounted (goOn (S.noted ofNote) showing (e, deeds) w) := by
  have hnoted := S.toService.noted_step ofNote .release task e.strategy (w, deeds)
  simp only [goOn, step, hphase]
  change Service.Noted _ _ _ _ ((S.noted ofNote).step (_, task) e.strategy (w, deeds)) at hnoted
  generalize (S.noted ofNote).step (_, task) e.strategy (w, deeds) = stepped at hnoted
  cases hnoted with
  | waiting until? s w =>
    show Account (.releasing outcome (.release, task)) e.lifecycle e.stats
      (_ ++ _ ++ e.lifecycle.news showing e.lifecycle)
    rw [due_ofNote, Lifecycle.news_self, List.append_nil, List.append_nil]
    exact stays task
  | working rest s w =>
    show Account (.releasing outcome (.release, rest)) e.lifecycle e.stats
      (_ ++ _ ++ e.lifecycle.news showing e.lifecycle)
    rw [due_ofNote, Lifecycle.news_self, List.append_nil, List.append_nil]
    exact stays rest
  | finished result s w =>
    show Account (.over outcome) e.lifecycle e.stats
      (_ ++ _ ++ [] ++ e.lifecycle.news showing e.lifecycle)
    rw [due_ofNote, Lifecycle.news_self, List.append_nil, List.append_nil, List.append_nil]
    exact ends
  | panicked s w =>
    show Account (.over outcome) e.lifecycle e.stats
      (_ ++ _ ++ e.lifecycle.news showing e.lifecycle)
    rw [due_ofNote, Lifecycle.news_self, List.append_nil, List.append_nil]
    exact ends

section Phases

variable (strategy : σ × Bool) (task : τ) (w : ω)

/-- What was fetched is counted, and goes to its hook. A fetch that fails fetches nothing. -/
theorem accounted_fetching (going : Going deeds) :
    Accounted (goOn (S.noted ofNote) showing
      (⟨strategy, .fetching (.fetch, task), .running, .tally (fetched deeds)⟩,
        .showed .running :: deeds) w) := by
  refine Account.advance (.fetching going) (fun result strategy => ?_) task rfl w
    (by unfold step; rfl)
  cases result with
  | error cause =>
    have hfetched : fetched (deeds ++ [.did .fetch (.error cause)]) = fetched deeds := by
      rw [fetched_append]
      exact List.append_nil _
    exact Account.drain (.fetchFailed going cause) (congrArg Stats.tally hfetched.symm)
  | ok reply =>
    show Account _ .running ((Stats.tally (fetched deeds)).record reply.message.kind) (_ ++ [])
    rw [← Stats.tally_snoc, List.append_nil]
    exact .dispatching going reply _

/-- Whatever the hook answers, the message has been fetched. The loop goes on unless the hook fails,
or stops it, or the message was a request to exit. -/
theorem accounted_dispatching (going : Going deeds) (reply : HookReply) :
    Accounted (goOn (S.noted ofNote) showing
      (⟨strategy, .dispatching reply.message (reply.message.handling, task), .running,
          .tally (fetched deeds ++ [reply.message])⟩,
        .showed .running :: (deeds ++ [.did .fetch (.ok reply)])) w) := by
  have hfetched : ∀ answer, fetched deeds ++ [reply.message] = fetched
      (deeds ++ [.did .fetch (.ok reply), .did reply.message.handling answer]) := by
    intro answer
    rw [fetched_append]
    rfl
  have hdeeds : ∀ answer,
      .showed .running :: (deeds ++ [.did .fetch (.ok reply)])
          ++ ofNote (.answered reply.message.handling answer)
        = .showed .running :: (deeds
            ++ [.did .fetch (.ok reply), .did reply.message.handling answer]) := by
    intro answer
    show Deed.showed .running :: (deeds ++ _ ++ _) = _
    rw [List.append_assoc]
    rfl
  refine Account.advance (.dispatching going reply) (fun result strategy => ?_) task rfl w
    (by unfold step; rfl)
  rw [hdeeds, hfetched result]
  cases result with
  | error cause => exact Account.drain (.hookFailed going reply cause) rfl
  | ok handled =>
    simp only
    split
    · next last =>
      rw [Bool.or_eq_true, beq_iff_eq] at last
      exact Account.drain (.stopped going reply handled last) rfl
    · next onward =>
      rw [Bool.or_eq_true, beq_iff_eq, not_or, Bool.not_eq_true] at onward
      show Account (.fetching (.fetch, _)) .running _ (_ ++ [])
      rw [List.append_nil]
      exact .fetching (.round going reply handled onward.1 onward.2) _

/-- With the answer of the source the course is complete: its first failure is what is returned. -/
theorem accounted_disconnectingSource {failure : Option Error} (loop : Loop deeds failure)
    (sink : Except Error HookReply) :
    Accounted (goOn (S.noted ofNote) showing
      (⟨strategy, .disconnectingSource (firstFailure failure sink) (.disconnectSource, task),
          .draining, .tally (fetched deeds)⟩,
        .showed .running :: deeds ++ [.showed .draining, .did .disconnectSink sink]) w) := by
  refine Account.advance (.disconnectingSource loop sink) (fun source strategy => ?_) task rfl w
    (by unfold step; rfl)
  have account := Account.releasing (.intro loop sink source) (.tally (fetched deeds))
    (S.start .release)
  rw [conclusion_eq] at account
  show Account (.releasing (.returned _) (.release, S.start .release)) .terminated
    (.tally (fetched deeds))
    (.showed .running :: deeds ++ [.showed .draining, .did .disconnectSink sink]
      ++ [.did .disconnectSource source] ++ [.showed .terminated])
  rw [List.append_assoc, List.append_assoc]
  exact account

end Phases

/-- **Whatever its strategy does, an element goes on in its course.** What the hook answers decides
how, phase by phase. -/
theorem accounted_goOn (account : Accounted (e, deeds)) (w : ω) :
    Accounted (goOn (S.noted ofNote) showing (e, deeds) w) := by
  obtain ⟨strategy, phase, stage, stats⟩ := e
  unfold Accounted at account
  simp only at account
  cases account with
  | created => exact .connectingSource _
  | connectingSource task =>
    refine Account.advance .connectingSource (fun result strategy => ?_) task rfl w
      (by unfold step; rfl)
    cases result with
    | error cause => exact Account.drain (.noSource cause) rfl
    | ok source => exact .connectingSink _ source
  | connectingSink task source =>
    refine Account.advance (.connectingSink · source) (fun result strategy => ?_) task rfl w
      (by unfold step; rfl)
    cases result with
    | error cause => exact Account.drain (.noSink source cause) rfl
    | ok sink => exact .fetching (.connected source sink) _
  | fetching going task => exact accounted_fetching strategy task w going
  | dispatching going reply task => exact accounted_dispatching strategy task w going reply
  | @disconnectingSink deeds failure loop task =>
    refine Account.advance (.disconnectingSink loop) (fun sink strategy => ?_) task rfl w
      (by unfold step; rfl)
    -- The source is disconnected whatever came of the sink, and the first failure counts.
    show Account (.disconnectingSource (firstFailure failure sink) (.disconnectSource, _)) .draining
      (.tally (fetched deeds))
      (.showed .running :: deeds ++ [.showed .draining] ++ [.did .disconnectSink sink] ++ [])
    rw [List.append_nil, List.append_assoc]
    exact .disconnectingSource loop sink _
  | disconnectingSource loop sink task =>
    exact accounted_disconnectingSource strategy task w loop sink
  | releasing course stats task =>
    exact Account.release (.releasing course stats) (.over course stats) task rfl w
  | «over» course stats =>
    show Account _ .terminated stats (_ ++ [])
    rw [List.append_nil]
    exact .over course stats
  | givenUp shown stats task =>
    exact Account.release (.givenUp shown stats) (.broken shown stats) task rfl w
  | broken shown stats =>
    show Account _ stage stats (_ ++ stage.news showing stage)
    rw [Lifecycle.news_self, List.append_nil]
    exact .broken shown stats

/-- An element accounts for all it did, in whatever worlds it runs. Induction on the worlds. -/
theorem account_chronicle (S : Strategy ω σ τ) (s : σ) (worlds : List ω) :
    Accounted (chronicle (S.noted ofNote) showing (s, false) worlds) :=
  chronicle_induction (P := fun e deeds => Accounted (e, deeds)) .created
    (fun _ _ w account => accounted_goOn account w) worlds

/-- **An element runs its course.** Whatever its strategy answers, and whatever happens between its
steps: an element has shown the stages of its life in their order, and when it has returned all that
it did and showed is a course that ends in what it returned. Every message that was fetched
counts. -/
theorem returns_course (S : Strategy ω σ τ) (s : σ) (worlds : List ω) :
    let life := chronicle (S.noted ofNote) showing (s, false) worlds
    let e := after S s worlds
    life.1.map Prod.snd Prod.fst = e
    ∧ stages life.2 = e.lifecycle.past
    ∧ ∀ result, e.outcome? = some (.returned result) →
        Course life.2 result
        ∧ ∀ stats, result = .ok stats → stats.total = (fetched life.2).length := by
  intro life e
  have account : Accounted life := account_chronicle S s worlds
  have hshows : life.1.map Prod.snd Prod.fst = e :=
    chronicle_shows (S := S.noted ofNote) (S.toService.noted_shows ofNote) showing (s, false) worlds
  refine ⟨hshows, ?_, fun result returned => ?_⟩
  · rw [← hshows]
    exact account.stages
  · rw [← hshows, outcome?_map] at returned
    have hphase : life.1.phase = .over (.returned result) := by
      unfold outcome? at returned
      split at returned
      · next outcome hphase => rw [hphase, Option.some.inj returned]
      · cases returned
    have course : Course life.2 result := account.course hphase
    refine ⟨course, fun stats hok => ?_⟩
    rw [hok] at course
    rw [course.fetched, Stats.total_tally]

/-- The strategy that answers what the world says. -/
def puppet : Strategy (Except Error HookReply) Unit HookCall where
  start call := call
  step _ s w := (.finished w, s, w)
  name _ := "puppet"
  connector? _ := none

/-- An element is given records and then asked to exit, and neither end can be disconnected. -/
theorem returns_course_rehearsal :
    let worlds : List (Except Error HookReply) :=
      [.ok {}, .ok {}, .ok {}, .ok { message := .process [] }, .ok {},
        .ok { message := .exitRequest }, .ok {}, .error (.notConnected "sink"),
        .error (.notConnected "source"), .ok {}]
    (after puppet () worlds).outcome? = some (.returned (.error (.notConnected "sink")))
    ∧ Course (chronicle (puppet.noted ofNote) showing ((), false) worlds).2
        (.error (.notConnected "sink")) := by
  intro worlds
  have returned : (after puppet () worlds).outcome?
      = some (.returned (.error (.notConnected "sink"))) := rfl
  exact ⟨returned, ((returns_course puppet () worlds).2.2 _ returned).1⟩

end Element

end RecordFarm
