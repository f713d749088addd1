import RecordFarm.Proofs.Fanout.History
import RecordFarm.Proofs.Wire.Hop

/-!
# A queue without barriers

When no barriers are sent, a call hands out the oldest records to clients that wait, in order, and
after the end only ends (`served_of_call`). Every tick does (`served_of_tick`), and what two rows of
deliveries do, both together do (`Served.trans`).
-/

namespace RecordFarm

namespace Fanout

/-- No barrier is in progress or queued, and nothing is queued in the rundown. -/
structure Calm (q : Queue) : Prop where
  free : q.barrier = none
  kinds : ∀ m ∈ q.messages, m.isEnd = true ∨ m.kind = .process
  classifier : ∀ m : Message, m.kind = .process → q.isBarrier m = false
  done : q.rundown = true → q.messages = []

/-- What a queue without barriers can hand out. -/
structure Served (q : Queue) (due : List Delivery) (after : Queue) : Prop where
  calm : Calm after
  /-- The records handed out and those still queued are those that were queued. -/
  content : due.flatMap (fun x => x.2.content) ++ after.messages.flatMap Message.content
    = q.messages.flatMap Message.content
  asked : ∀ x ∈ due, x.1 ∈ q.waiting
  waiting : ∀ id ∈ after.waiting, id ∈ q.waiting
  kinds : ∀ x ∈ due, x.2.isEnd = true ∨ x.2.kind = .process
  ordered : due.Pairwise fun x y => x.2.isEnd = true → y.2.isEnd = true
  ends : q.rundown = true → ∀ x ∈ due, x.2.isEnd = true
  running : after.rundown = false → ∀ x ∈ due, x.2.isEnd = false
  rundown : q.rundown = true → after.rundown = true

namespace Served

variable {q mid after : Queue} {due due' : List Delivery}

/-- Nothing is handed out, and nothing that matters has changed. -/
theorem nothing (calm : Calm after)
    (hmessages : after.messages.flatMap Message.content = q.messages.flatMap Message.content)
    (hwaiting : ∀ id ∈ after.waiting, id ∈ q.waiting)
    (hrundown : q.rundown = true → after.rundown = true) : Served q [] after where
  calm := calm
  content := by rw [hmessages]; rfl
  asked := by simp
  waiting := hwaiting
  kinds := by simp
  ordered := .nil
  ends := by simp
  running := by simp
  rundown := hrundown

theorem trans (h : Served q due mid) (h' : Served mid due' after) :
    Served q (due ++ due') after where
  calm := h'.calm
  content := by rw [List.flatMap_append, List.append_assoc, h'.content, h.content]
  asked := by
    intro x hx
    rcases List.mem_append.1 hx with hx | hx
    · exact h.asked x hx
    · exact h.waiting _ (h'.asked x hx)
  waiting := fun id hid => h.waiting id (h'.waiting id hid)
  kinds := by
    intro x hx
    rcases List.mem_append.1 hx with hx | hx
    · exact h.kinds x hx
    · exact h'.kinds x hx
  ordered := by
    refine List.pairwise_append.2 ⟨h.ordered, h'.ordered, ?_⟩
    -- An end among the first deliveries means that the queue runs down already.
    intro x hx y hy hend
    cases hr : mid.rundown with
    | true => exact h'.ends hr y hy
    | false =>
      rw [h.running hr x hx] at hend
      cases hend
  ends := by
    intro hr x hx
    rcases List.mem_append.1 hx with hx | hx
    · exact h.ends hr x hx
    · exact h'.ends (h.rundown hr) x hx
  running := by
    intro hr x hx
    rcases List.mem_append.1 hx with hx | hx
    · refine h.running ?_ x hx
      cases hmid : mid.rundown with
      | false => rfl
      | true =>
        rw [h'.rundown hmid] at hr
        cases hr
    · exact h'.running hr x hx
  rundown := fun hr => h'.rundown (h.rundown hr)

end Served

/-- Every tick of a queue without barriers. -/
theorem served_of_tick {q after : Queue} {due : Option Delivery} (calm : Calm q)
    (t : q.Tick due after) : Served q due.toList after := by
  cases t with
  | @first m messages id waiting running free oldest asking notEnd =>
    have hkind : m.kind = .process := by
      rcases calm.kinds m (by rw [oldest]; exact List.mem_cons_self) with hend | hkind
      · rw [notEnd] at hend
        cases hend
      · exact hkind
    have hplain := calm.classifier m hkind
    constructor
    case calm =>
      refine ⟨by simp [hplain], ?_, calm.classifier, ?_⟩
      · intro m' hm'
        exact calm.kinds m' (by rw [oldest]; exact List.mem_cons_of_mem _ hm')
      · intro hr
        rw [running] at hr
        cases hr
    case content => simp [oldest]
    case asked => simp [asking]
    case waiting =>
      intro other hother
      rw [asking]
      exact List.mem_cons_of_mem _ hother
    case kinds => simp [hkind]
    case ordered => exact List.pairwise_singleton ..
    case ends =>
      intro hr
      rw [running] at hr
      cases hr
    case running => simp [notEnd]
    case rundown =>
      intro hr
      rw [running] at hr
      cases hr
  -- No barrier is in progress, so there is none to copy, to wait for or to complete.
  | copy running busy asking unserved =>
    rw [calm.free] at busy
    cases busy
  | defer running busy asking served =>
    rw [calm.free] at busy
    cases busy
  | complete running busy idle everyone =>
    rw [calm.free] at busy
    cases busy
  | @finish m running free last asking isEnd =>
    refine .nothing ⟨calm.free, by simp, calm.classifier, fun _ => rfl⟩ ?_ (fun _ h => h)
      (fun _ => rfl)
    rw [last]
    simp [Message.content_of_isEnd isEnd]
  | @farewell id waiting ended asking =>
    constructor
    case calm => exact ⟨calm.free, calm.kinds, calm.classifier, calm.done⟩
    case content => rfl
    case asked => simp [asking]
    case waiting =>
      intro other hother
      rw [asking]
      exact List.mem_cons_of_mem _ hother
    case kinds => simp [Message.isEnd, Message.endOfStream, Message.control]
    case ordered => exact List.pairwise_singleton ..
    case ends => simp [Message.isEnd, Message.endOfStream, Message.control]
    case running =>
      intro hr
      rw [ended] at hr
      cases hr
    case rundown => exact fun hr => hr

/-- A row of ticks of a queue without barriers. -/
theorem served_of_ticks {sent : Nat} {q after : Queue} {es : List Entry} (calm : Calm q)
    (ticks : Queue.Ticks sent q es after) : Served q (es.map Entry.delivery) after := by
  induction ticks with
  | none q => exact .nothing calm rfl (fun _ h => h) (fun h => h)
  | tick now _ ih =>
    have first := served_of_tick calm now
    have rest := ih first.calm
    simpa [Queue.mark, Entry.delivery, Function.comp_def] using first.trans rest

/-- **What a call hands out when there are no barriers.** -/
theorem served_of_call {q after : Queue} {c : Call} {due : List Delivery} (calm : Calm q)
    (hsent : ∀ m, c = .send m → m.isEnd = true ∨ m.kind = .process)
    (h : q.call c = (.ok due, after)) : Served (q.accept c) due after := by
  obtain ⟨running, hdue, ticks⟩ := Queue.call_ok 0 h
  have calm' : Calm (q.accept c) := by
    cases c with
    | send m =>
      refine ⟨calm.free, ?_, calm.classifier, ?_⟩
      · intro m' hm'
        rcases List.mem_append.1 hm' with hm' | hm'
        · exact calm.kinds m' hm'
        · rw [List.mem_singleton.1 hm']
          exact hsent m rfl
      · intro hr
        have hr : q.rundown = true := hr
        rw [running m rfl] at hr
        cases hr
    | request id => exact ⟨calm.free, calm.kinds, calm.classifier, calm.done⟩
    | register id => exact ⟨calm.free, calm.kinds, calm.classifier, calm.done⟩
    | unregister id =>
      refine ⟨?_, calm.kinds, calm.classifier, calm.done⟩
      show q.barrier.map _ = none
      rw [calm.free]
      rfl
  rw [hdue]
  exact served_of_ticks calm' ticks

end Fanout

end RecordFarm
