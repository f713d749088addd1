import RecordFarm.Proofs.Fanout.Handover

/-!
# What a distributor hands over

Every move of a distributor keeps the handover to its clients in order (`Handover.distributor`). As
long as it is in order none of the reasons comes up for which a distributor fails, if its source
does not fail (`Handover.no_mishap`): its queue refuses nothing, what is due has frames, and
whoever something is due to is there, because it has asked and still waits.
-/

namespace RecordFarm

namespace Fanout

open Farm
open Message (Readable)

/-- A call turns requests of a client that wait in the queue into answers that are due to it. -/
theorem Account.call {id : ClientId} {v : ClientView} {dv : DistView} {r : Router}
    {given : List Delivery} (acc : Account id v dv r given) {c : Call} {due : List Delivery}
    {after : Queue} {hand heard : List Message} (free : dv.due = [])
    (words : heard.count (.dataRequest id) + (if c = .request id then 1 else 0)
      ≤ dv.heard.count (.dataRequest id))
    (h : dv.queue.call c = (.ok due, after))
    (still : dv.queue.rundown = true → after.rundown = true) :
    Account id v { dv with queue := after, due, hand, heard } r (given ++ due) := by
  have bound := acc.load
  have got := acc.got
  have asked := count_accept dv.queue c id
  rw [count_call h id, ← length_messagesTo] at asked
  unfold Fanout.load coming at bound
  unfold coming at got
  rw [free] at bound got
  simp only [List.length_append, List.length_map] at bound
  refine ⟨acc.sound, ?_, fun ended => still (acc.ended ended), ?_, acc.peered⟩
  · unfold Fanout.load coming
    simp only [List.length_append, List.length_map]
    omega
  · unfold coming
    rw [messagesTo_append, List.flatMap_append, got, List.append_assoc]
    show _ ++ (((mailOf r v.dealer).map Message.arrived ++ []).flatMap _ ++ _) = _
    rw [List.append_nil, List.flatMap_append]

namespace Handover

variable {expected n : Nat} {ids : Nat → ClientId} {views : Nat → ClientView} {dv dv' : DistView}
  {r r' : Router} {cs : List Call} {log : List (List Delivery)} {i : Nat}

/-- A distributor that has something to do has not closed its router. -/
theorem open_of_busy (joint : Handover expected n ids views dv r cs log) (busy : ¬ dv.Idle) :
    r.isOpen = true := by
  by_contra closed
  exact busy (joint.shut (Bool.eq_false_of_not_eq_true closed)).1.idle

/-- Whoever has a request in the queue when a call is taken in has asked. -/
theorem known_of_accept (joint : Handover expected n ids views dv r cs log) {c : Call}
    (known : ∀ id, c = .request id → Known n ids id) {id : ClientId}
    (asks : 0 < (dv.queue.accept c).requests.count id) : Known n ids id := by
  by_cases request : c = .request id
  · exact known id request
  · have before := count_accept dv.queue c id
    rw [if_neg request, Nat.add_zero] at before
    exact joint.asking id (List.count_pos_iff.1 (Nat.lt_of_lt_of_le asks before))

/-- What a call makes due is an end in the rundown, or was sent and fits its row. -/
theorem kind_of_due (joint : Handover expected n ids views dv r cs log) {c : Call}
    {due : List Delivery} {after : Queue} {hand : List Message}
    (sent : (cs ++ [c]).filterMap Call.sent? ++ hand.flatMap passed = dv.log.flatMap passed)
    (run : (Queue.new expected fun m => m.kind == .barrier).calls (cs ++ [c])
      = .ok (log ++ [due], after)) {x : Delivery} (hx : x ∈ due) :
    x.2.isEnd = true ∧ after.rundown = true ∨ x.2.Fits := by
  -- It is in the history, and whatever is delivered was sent or is an end.
  obtain ⟨taken, led⟩ := ledger_of_calls run
  have delivered : x ∈ (log ++ [due]).flatten := by
    rw [List.flatten_append, List.flatten_singleton]
    exact List.mem_append_right _ hx
  rw [← entriesIn_history 0 run] at delivered
  obtain ⟨e, he, rfl⟩ := List.mem_map.1 delivered
  rcases led.sent_of_mem he with ⟨isEnd, ended⟩ | ⟨notEnd, hsent⟩
  · exact Or.inl ⟨isEnd, ended⟩
  · rw [sentIn_history] at hsent
    have passes : e.message ∈ dv.log.flatMap passed := by
      rw [← sent]
      exact List.mem_append_left _ hsent
    rcases joint.yielded.kinds _ passes with isEnd | fits
    · exact absurd (notEnd.symm.trans isEnd) Bool.false_ne_true
    · exact Or.inr fits

/-- The queue takes one more call. -/
theorem call (joint : Handover expected n ids views dv r cs log) {c : Call} {due : List Delivery}
    {after : Queue} {hand heard : List Message} (opened : r.isOpen = true) (free : dv.due = [])
    (sent : (cs ++ [c]).filterMap Call.sent? ++ hand.flatMap passed = dv.log.flatMap passed)
    (known : ∀ id, c = .request id → Known n ids id)
    (words : ∀ i < n, heard.count (.dataRequest (ids i)) + (if c = .request (ids i) then 1 else 0)
      ≤ dv.heard.count (.dataRequest (ids i)))
    (h : dv.queue.call c = (.ok due, after)) :
    Handover expected n ids views { dv with queue := after, due, hand, heard } r (cs ++ [c])
      (log ++ [due]) := by
  have run := Queue.calls_snoc joint.run h
  have count := count_call h
  have clients : ∀ x ∈ due, Known n ids x.1 := by
    intro x hx
    refine joint.known_of_accept known ?_
    have := List.count_pos_iff.2 (List.mem_map_of_mem (f := Prod.fst) hx)
    rw [count x.1]
    omega
  have still : dv.queue.rundown = true → after.rundown = true := by
    intro ended
    have past := (Queue.over_of_calls joint.run ended).call c
    rw [h] at past
    exact past.rundown
  constructor
  case mail => exact joint.mail
  case run => exact run
  case sent => exact sent
  case yielded => exact joint.yielded
  case asking =>
    intro id hid
    have kept : 0 < after.requests.count id := List.count_pos_iff.2 hid
    refine joint.known_of_accept known ?_
    rw [count id]
    omega
  case given =>
    intro x hx
    rw [List.flatten_append, List.flatten_singleton] at hx
    rcases List.mem_append.1 hx with old | new
    · exact joint.given x old
    · exact clients x new
  case due => exact fun x hx => ⟨clients x hx, joint.kind_of_due sent run hx⟩
  case ends =>
    exact fun box hbox frames hframes isEnd => still (joint.ends box hbox frames hframes isEnd)
  case shut => exact fun closed => absurd (closed.symm.trans opened) Bool.false_ne_true
  case accounts =>
    intro i hi
    rw [List.flatten_append, List.flatten_singleton]
    exact (joint.accounts i hi).call free (words i hi) h still

/-- The router is bound. Nobody can have connected before. -/
theorem bind (joint : Handover expected n ids views dv r cs log) (free : dv.socket = none)
    (socket : RouterSocket) (uri : String) :
    Handover expected n ids views { dv with socket := some socket } { uri } cs log := by
  have mail := joint.mail
  rw [free] at mail
  have nobody : ∀ i < n, (views i).dealer = none := by
    intro i hi
    cases hdealer : (views i).dealer with
    | none => rfl
    | some s =>
      have := (mail.housed i hi s hdealer).1
      cases this
  refine ⟨mail.bind _ uri, joint.run, joint.sent, joint.yielded, joint.asking, joint.given,
    joint.due, ?_, nofun, fun i hi => ?_⟩
  · intro box hbox
    cases hbox
  · have acc := joint.accounts i hi
    have same : coming (ids i) (views i) { dv with socket := some socket } { uri }
        = coming (ids i) (views i) dv r := by
      unfold coming
      rw [nobody i hi]
      rfl
    refine ⟨acc.sound, ?_, acc.ended, ?_, fun _ s own => ?_⟩
    · have bound := acc.load
      unfold load at bound ⊢
      rw [same]
      show 0 + dv.heard.count _ + dv.queue.requests.count _ + _ ≤ _
      omega
    · rw [same]
      exact acc.got
    · rw [nobody i hi] at own
      cases own

/-- What was said first is taken in. -/
theorem hear (joint : Handover expected n ids views dv r cs log) {request : ClientId × Frames}
    {rest : List (ClientId × Frames)} {m : Message} (quiet : dv.heard = [])
    (first : r.inbound = request :: rest) (framed : Message.ofFrames request.2 = .ok m) :
    Handover expected n ids views { dv with heard := [m] } { r with inbound := rest } cs log := by
  refine ⟨joint.mail.hear first, joint.run, joint.sent, joint.yielded, joint.asking, joint.given,
    joint.due, joint.ends, fun closed => ?_, fun i hi => ?_⟩
  · have silent := (joint.shut closed).2
    rw [first] at silent
    cases silent
  · have acc := joint.accounts i hi
    refine ⟨acc.sound, ?_, acc.ended, acc.got, acc.peered⟩
    -- The word is only moved.
    have same : askedBy (ids i) rest + [m].count (.dataRequest (ids i))
        = askedBy (ids i) r.inbound + dv.heard.count (.dataRequest (ids i)) := by
      rw [first, quiet]
      unfold askedBy
      rw [List.map_cons, Message.arrived_of_framed framed, List.count_cons, List.count_cons]
      omega
    have bound := acc.load
    unfold load at bound ⊢
    show askedBy (ids i) rest + [m].count _ + _ + _ ≤ _
    rw [same]
    exact bound

/-- What is due first goes into the mailbox of its client. -/
theorem deliver (distinct : ∀ i < n, ∀ j < n, ids i = ids j → i = j)
    (joint : Handover expected n ids views dv r cs log) {id : ClientId} {m : Message}
    {due : List Delivery} {mailbox : Nat} {frames : Frames} (first : dv.due = (id, m) :: due)
    (framed : m.toFramesBatched = .ok frames) (peer : r.peers.lookup id = some mailbox) :
    Handover expected n ids views { dv with due }
      { r with mailboxes := r.mailboxes.modify mailbox (· ++ [frames]) } cs log := by
  have kind := (joint.due (id, m) (by rw [first]; exact List.mem_cons_self)).2
  have answer : m.IsAnswer := kind.elim (fun h => Or.inl h.1) Message.Fits.isAnswer
  obtain ⟨readable, hend, hunpacked⟩ := answer.arrives framed
  -- The mailbox belongs to the client with this identity.
  obtain ⟨before, behind, hpeers, -⟩ := List.lookup_eq_some_iff.1 peer
  obtain ⟨i, hi, rfl, s, own, rfl⟩ := joint.mail.peers (id, mailbox) (by rw [hpeers]; simp)
  have letters : ∀ box ∈ r.mailboxes, ∀ read ∈ box ++ [frames], read ∈ box ∨ read = frames := by
    intro box _ read hread
    rcases List.mem_append.1 hread with old | new
    · exact Or.inl old
    · exact Or.inr (List.mem_singleton.1 new)
  refine ⟨?_, joint.run, joint.sent, joint.yielded, joint.asking, joint.given, ?_, ?_, ?_, ?_⟩
  · refine joint.mail.modify s.mailbox fun box hbox read hread => ?_
    rcases letters box hbox read hread with old | rfl
    · exact joint.mail.letters box hbox read old
    · exact readable
  · exact fun x hx => joint.due x (by rw [first]; exact List.mem_cons_of_mem _ hx)
  · intro box hbox read hread isEnd
    obtain ⟨k, hk, hget⟩ := List.mem_iff_getElem.1 hbox
    rw [List.getElem_modify] at hget
    rw [List.length_modify] at hk
    have old (h : read ∈ r.mailboxes[k]) : dv.queue.rundown = true :=
      joint.ends _ (List.getElem_mem hk) read h isEnd
    split at hget
    · rw [← hget] at hread
      rcases letters _ (List.getElem_mem hk) read hread with h | rfl
      · exact old h
      · rcases kind with ⟨-, ended⟩ | fits
        · exact ended
        · exact absurd ((hend.symm.trans isEnd).symm.trans fits.notEnd) (by decide)
    · rw [← hget] at hread
      exact old hread
  · intro closed
    cases first.symm.trans (joint.shut closed).1.idle.due
  · intro j hj
    have acc := joint.accounts j hj
    -- The message is only moved from what is due into the mailbox.
    have same : (coming (ids j) (views j) { dv with due }
          { r with mailboxes := r.mailboxes.modify s.mailbox (· ++ [frames]) }).length
          = (coming (ids j) (views j) dv r).length ∧
        (coming (ids j) (views j) { dv with due }
          { r with mailboxes := r.mailboxes.modify s.mailbox (· ++ [frames]) }).flatMap
            Message.unpacked = (coming (ids j) (views j) dv r).flatMap Message.unpacked := by
      unfold coming
      rw [joint.mail.mailOf_modify hi own _ hj, first, messagesTo_cons]
      by_cases h : j = i
      · subst h
        simp [hunpacked]
      · have other : ids i ≠ ids j := fun heq => h (distinct i hi j hj heq).symm
        simp [h, other]
    refine ⟨acc.sound, ?_, acc.ended, ?_, acc.peered⟩
    · unfold load
      rw [same.1]
      exact acc.load
    · rw [same.2]
      exact acc.got

/-- The end is not delivered to a client that has left. -/
theorem skip (joint : Handover expected n ids views dv r cs log) {id : ClientId} {m : Message}
    {due : List Delivery} (first : dv.due = (id, m) :: due) (isEnd : m.isEnd = true) :
    Handover expected n ids views { dv with due } r cs log := by
  refine ⟨joint.mail, joint.run, joint.sent, joint.yielded, joint.asking, joint.given, ?_,
    joint.ends, ?_, ?_⟩
  · exact fun x hx => joint.due x (by rw [first]; exact List.mem_cons_of_mem _ hx)
  · intro closed
    cases first.symm.trans (joint.shut closed).1.idle.due
  · intro i hi
    have acc := joint.accounts i hi
    have due : messagesTo (ids i) dv.due
        = (if id = ids i then [m] else []) ++ messagesTo (ids i) due := by
      rw [first, messagesTo_cons]
    refine ⟨acc.sound, ?_, acc.ended, ?_, acc.peered⟩
    · have bound := acc.load
      unfold load coming at bound ⊢
      rw [due] at bound
      simp only [List.length_append] at bound ⊢
      omega
    · have got := acc.got
      unfold coming at got ⊢
      rw [due] at got
      rw [got]
      split <;> simp [Message.unpacked_of_isEnd isEnd]

/-- **Every move of the distributor keeps the handover in order.** -/
theorem distributor (distinct : ∀ i < n, ∀ j < n, ids i = ids j → i = j) {d : String}
    (move : DistMove d (Known n ids) Message.Fits dv r dv' r')
    (joint : Handover expected n ids views dv r cs log) :
    ∃ cs' log', Handover expected n ids views dv' r' cs' log' := by
  induction move generalizing cs log with
  | still => exact ⟨cs, log, joint⟩
  | both _ _ first second =>
    obtain ⟨cs', log', joint'⟩ := first joint
    exact second joint'
  | bind r s free => exact ⟨cs, log, joint.bind free s d⟩
  | hear quiet first framed => exact ⟨cs, log, joint.hear quiet first framed⟩
  | @serve v r m call c due after free heard asks h =>
    have opened := joint.open_of_busy fun idle => by cases heard.symm.trans idle.heard
    refine ⟨_, _, joint.call opened free ?_ ?_ ?_ h⟩
    · -- What a peer says never sends anything.
      have silent : c.sent? = none := by cases asks <;> rfl
      rw [List.filterMap_append, Call.filterMap_sent_cons, silent]
      simpa using joint.sent
    · rintro id rfl
      cases asks with
      | request known => exact known
    · intro i hi
      rw [heard]
      cases asks with
      | register => simp
      | unregister => simp
      | @request id known =>
        -- The request was on its way, and is now with the queue.
        by_cases own : id = ids i
        · simp [own]
        · simp [own]
  | @send v r m next due after free hand kind passes h =>
    have opened := joint.open_of_busy fun idle => by cases hand.symm.trans idle.hand
    refine ⟨_, _, joint.call opened free ?_ (fun _ h => by cases h) (fun i hi => ?_) h⟩
    · have sent := joint.sent
      rw [hand, List.flatMap_singleton, passes] at sent
      rw [← sent, List.filterMap_append, List.flatMap_nil, List.append_nil]
      rfl
    · rw [if_neg (by intro h; cases h)]
      exact Nat.le_refl _
  | @drop v r m hand kind passes =>
    have opened := joint.open_of_busy fun idle => by cases hand.symm.trans idle.hand
    refine ⟨cs, log, { joint with
      sent := ?_
      shut := fun closed => absurd (closed.symm.trans opened) Bool.false_ne_true
      accounts := fun i hi => { joint.accounts i hi with } }⟩
    have sent := joint.sent
    rw [hand, List.flatMap_singleton, passes] at sent
    exact sent
  | deliver first framed peer => exact ⟨cs, log, joint.deliver distinct first framed peer⟩
  | skip r first isEnd => exact ⟨cs, log, joint.skip first isEnd⟩
  | @yield v r m free running kind =>
    refine ⟨cs, log, { joint with
      sent := ?_
      yielded := joint.yielded.yield running kind
      shut := fun closed => ?_
      accounts := fun i hi => { joint.accounts i hi with } }⟩
    · have sent := joint.sent
      rw [free, List.flatMap_nil, List.append_nil] at sent
      rw [List.flatMap_append, ← sent]
    · exact absurd (running.symm.trans (joint.shut closed).1.ended) Bool.false_ne_true
  | close r done =>
    refine ⟨cs, log, { joint with
      mail := joint.mail.close
      shut := fun _ => ⟨done, rfl⟩
      accounts := fun i hi => ?_ }⟩
    have acc := joint.accounts i hi
    refine ⟨acc.sound, ?_, acc.ended, acc.got, nofun⟩
    -- Requests that were not heard are gone with the router.
    have bound := acc.load
    unfold load at bound ⊢
    show 0 + _ + _ + (coming (ids i) (views i) _ r).length ≤ _
    omega

/-- **Nothing ever goes wrong at the distributor**, if nothing goes wrong at its source. -/
theorem no_mishap {σ τ : Type} {A : Source Network σ τ} {s₀ : σ} (steady : A.Steady s₀)
    (joint : Handover expected n ids views dv r cs log)
    (mishap : Mishap A s₀ (Known n ids) Message.Fits dv r) : False := by
  cases mishap with
  | source here net fails => exact steady _ _ _ _ here fails
  | @word m call c cause free heard asks h =>
    have silent : c.sent? = none := by cases asks <;> rfl
    have last : EndLast ((cs ++ [c]).filterMap Call.sent?) := by
      rw [List.filterMap_append, Call.filterMap_sent_cons, silent]
      exact joint.yielded.endLast (by simpa using joint.sent)
    obtain ⟨due, after, ok⟩ := Queue.call_of_endLast joint.run last
    rw [ok] at h
    cases h
  | @sent m next cause free hand kind passes h =>
    have last : EndLast ((cs ++ [Call.send next]).filterMap Call.sent?) := by
      have sent := joint.sent
      rw [hand, List.flatMap_singleton, passes] at sent
      rw [← List.append_nil (cs.filterMap _ ++ _)] at sent
      rw [List.filterMap_append]
      exact joint.yielded.endLast sent
    obtain ⟨due, after, ok⟩ := Queue.call_of_endLast joint.run last
    rw [ok] at h
    cases h
  | @unframed id m due cause first h =>
    have kind := (joint.due (id, m) (by rw [first]; exact List.mem_cons_self)).2
    obtain ⟨frames, framed⟩ := Message.Fits.exists_frames (kind.imp And.left fun fits => fits)
    rw [h] at framed
    cases framed
  | @unknown id m due first notEnd nobody =>
    obtain ⟨i, hi, rfl⟩ := (joint.due (id, m) (by rw [first]; exact List.mem_cons_self)).1
    have acc := joint.accounts i hi
    have opened := joint.open_of_busy fun idle => by cases first.symm.trans idle.due
    -- Something is coming to the client, so it waits for it, and the router finds it.
    have waits : (views i).awaiting = true := by
      by_contra idle
      have hload := (acc.quiet (Bool.eq_false_of_not_eq_true idle)).1
      unfold load coming at hload
      rw [first, messagesTo_cons, if_pos rfl] at hload
      simp only [List.length_append, List.length_singleton] at hload
      omega
    obtain ⟨-, -, s, own⟩ := acc.sound.waiting waits
    have room := (joint.mail.housed i hi s own).2
    have missing := nobody s.mailbox (acc.peered opened s own)
    omega

end Handover

end Fanout

end RecordFarm
