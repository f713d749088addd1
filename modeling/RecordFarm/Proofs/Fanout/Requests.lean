import RecordFarm.Proofs.Fanout.Ledger

/-!
# Requests and their answers

Who asked when, and which delivery answers which request. A request is known by its moment, which
is the number of events before it, and so is a delivery. A request is outstanding
(`Outstanding`) until it is answered or its client unregisters.

A desk (`Desk`) reads a history and pairs every delivery with the oldest outstanding request of its
client. The invariant (`Accounted`) says that this pairing is right, and `Attended` says that what
the desk has outstanding is what waits in the queue and behind the barrier.
-/

namespace RecordFarm

namespace Fanout

/-- The request `r`, a moment and a client, is outstanding at the moment `n`, when `answers` are the
moments of requests with those of their deliveries. -/
structure Outstanding (h : List Event) (answers : List (Nat × Nat)) (n : Nat) (r : Nat × ClientId) :
    Prop where
  earlier : r.1 < n
  made : h[r.1]? = some (.call (.request r.2))
  unanswered : ∀ d, (r.1, d) ∈ answers → n ≤ d
  stayed : ∀ k, r.1 < k → k < n → h[k]? ≠ some (.call (.unregister r.2))

/-- The delivery `e` at the moment `d` is a copy of a barrier that was already delivered to
somebody. -/
def IsCopy (isBarrier : Message → Bool) (h : List Event) (d : Nat) (e : Entry) : Prop :=
  isBarrier e.message = true ∧ e.message.isEnd = false ∧
    ∃ first ∈ entriesIn (h.take d), first.place = e.place

/-- Every delivery answers one request, which was outstanding, and no request is answered twice.
Other than by a copy it is the oldest of all outstanding requests that is answered. -/
structure Accounted (isBarrier : Message → Bool) (h : List Event) (answers : List (Nat × Nat)) :
    Prop where
  every : ∀ d e, h[d]? = some (.delivery e) → ∃ r, (r, d) ∈ answers
  own : ∀ r d, (r, d) ∈ answers →
    ∃ e, h[d]? = some (.delivery e) ∧ Outstanding h answers d (r, e.client)
  requestsOnce : (answers.map Prod.fst).Nodup
  deliveriesOnce : (answers.map Prod.snd).Nodup
  oldest : ∀ r d e, (r, d) ∈ answers → h[d]? = some (.delivery e) → ¬ IsCopy isBarrier h d e →
    ∀ r', Outstanding h answers d r' → r ≤ r'.1

/-! ## What happens later changes nothing -/

/-- Whether a request is outstanding at a moment depends on what came before it. -/
theorem outstanding_append_iff {h h' : List Event} {answers more : List (Nat × Nat)} {n : Nat}
    {r : Nat × ClientId} (hn : n ≤ h.length) (hmore : ∀ a ∈ more, n ≤ a.2) :
    Outstanding (h ++ h') (answers ++ more) n r ↔ Outstanding h answers n r := by
  have hget : ∀ k, k < n → (h ++ h')[k]? = h[k]? :=
    fun k hk => List.getElem?_append_left (Nat.lt_of_lt_of_le hk hn)
  constructor
  · intro o
    refine ⟨o.earlier, ?_, ?_, ?_⟩
    · rw [← hget _ o.earlier]
      exact o.made
    · intro d hd
      exact o.unanswered d (List.mem_append_left _ hd)
    · intro k hk hkn
      rw [← hget k hkn]
      exact o.stayed k hk hkn
  · intro o
    refine ⟨o.earlier, ?_, ?_, ?_⟩
    · rw [hget _ o.earlier]
      exact o.made
    · intro d hd
      rcases List.mem_append.1 hd with hold | hnew
      · exact o.unanswered d hold
      · exact hmore _ hnew
    · intro k hk hkn
      rw [hget k hkn]
      exact o.stayed k hk hkn

/-- A delivery is a copy by what came before it. -/
theorem isCopy_append_iff {isBarrier : Message → Bool} {h h' : List Event} {d : Nat} {e : Entry}
    (hd : d ≤ h.length) : IsCopy isBarrier (h ++ h') d e ↔ IsCopy isBarrier h d e := by
  unfold IsCopy
  rw [List.take_append_of_le_length hd]

namespace Accounted

variable {isBarrier : Message → Bool} {h : List Event} {answers : List (Nat × Nat)}

/-- Answers are given within the history, and later than they are asked for. -/
theorem lt_of_mem (acc : Accounted isBarrier h answers) {a : Nat × Nat} (ha : a ∈ answers) :
    a.1 < a.2 ∧ a.2 < h.length := by
  obtain ⟨e, he, out⟩ := acc.own a.1 a.2 ha
  exact ⟨out.earlier, (List.getElem?_eq_some_iff.1 he).1⟩

/-- What is outstanding after one more event: what was outstanding, or the event is a request; and
neither has the event answered it, nor taken its client away. -/
theorem outstanding_snoc_iff (acc : Accounted isBarrier h answers) (ev : Event)
    (more : List (Nat × Nat)) (r : Nat × ClientId) :
    Outstanding (h ++ [ev]) (answers ++ more) (h.length + 1) r ↔
      (Outstanding h answers h.length r ∨ r.1 = h.length ∧ ev = .call (.request r.2)) ∧
        (∀ d, (r.1, d) ∈ more → h.length < d) ∧ ev ≠ .call (.unregister r.2) := by
  -- The new event happens at the moment `h.length`. All others are where they were.
  have hlast : (h ++ [ev])[h.length]? = some ev := by simp
  have hget : ∀ k, k < h.length → (h ++ [ev])[k]? = h[k]? :=
    fun k hk => List.getElem?_append_left hk
  constructor
  · intro o
    refine ⟨?_, fun d hd => o.unanswered d (List.mem_append_right _ hd), ?_⟩
    · have := o.earlier
      rcases Nat.lt_or_ge r.1 h.length with hlt | hge
      · refine Or.inl ⟨hlt, ?_, ?_, ?_⟩
        · rw [← hget _ hlt]
          exact o.made
        · intro d hd
          have := o.unanswered d (List.mem_append_left _ hd)
          omega
        · intro k hk hkn
          rw [← hget k hkn]
          exact o.stayed k hk (by omega)
      · have hr : r.1 = h.length := by omega
        have := o.made
        rw [hr, hlast] at this
        exact Or.inr ⟨hr, Option.some.inj this⟩
    · rintro rfl
      rcases Nat.lt_or_ge r.1 h.length with hlt | hge
      · exact o.stayed h.length hlt (by omega) hlast
      · have hr : r.1 = h.length := by have := o.earlier; omega
        have := o.made
        rw [hr, hlast] at this
        cases this
  · rintro ⟨hr, hnew, hstayed⟩
    rcases hr with o | ⟨hr, rfl⟩
    · refine ⟨by have := o.earlier; omega, ?_, ?_, ?_⟩
      · rw [hget _ o.earlier]
        exact o.made
      · intro d hd
        rcases List.mem_append.1 hd with hold | hmore
        · have := o.unanswered d hold
          have := (acc.lt_of_mem hold).2
          simp only at this
          omega
        · exact hnew d hmore
      · intro k hk hkn
        rcases Nat.lt_or_ge k h.length with hlt | hge
        · rw [hget k hlt]
          exact o.stayed k hk hlt
        · obtain rfl : k = h.length := by omega
          rw [hlast]
          intro heq
          exact hstayed (Option.some.inj heq)
    · refine ⟨by omega, ?_, ?_, ?_⟩
      · rw [hr, hlast]
      · intro d hd
        rcases List.mem_append.1 hd with hold | hmore
        · have := acc.lt_of_mem hold
          simp only [hr] at this
          omega
        · exact hnew d hmore
      · intro k hk hkn
        omega

/-- What was accounted stays so when something else happens. -/
theorem past (acc : Accounted isBarrier h answers) (ev : Event) (more : List (Nat × Nat))
    (hmore : ∀ a ∈ more, h.length ≤ a.2) {r d : Nat} (hmem : (r, d) ∈ answers) :
    ∃ e, (h ++ [ev])[d]? = some (.delivery e) ∧
      Outstanding (h ++ [ev]) (answers ++ more) d (r, e.client) ∧
      (¬ IsCopy isBarrier (h ++ [ev]) d e →
        ∀ r', Outstanding (h ++ [ev]) (answers ++ more) d r' → r ≤ r'.1) := by
  obtain ⟨e, he, out⟩ := acc.own r d hmem
  have hd : d < h.length := (List.getElem?_eq_some_iff.1 he).1
  have hle : ∀ a ∈ more, d ≤ a.2 := fun a ha => by have := hmore a ha; omega
  refine ⟨e, ?_, ?_, ?_⟩
  · rw [List.getElem?_append_left hd]
    exact he
  · rw [outstanding_append_iff (by omega) hle]
    exact out
  · intro hcopy r' hr'
    rw [isCopy_append_iff (by omega)] at hcopy
    rw [outstanding_append_iff (by omega) hle] at hr'
    exact acc.oldest r d e hmem he hcopy r' hr'

theorem start (isBarrier : Message → Bool) : Accounted isBarrier [] [] where
  every := by intro d e he; simp at he
  own := by intro r d hd; cases hd
  requestsOnce := .nil
  deliveriesOnce := .nil
  oldest := by intro r d e hd; cases hd

/-- A call answers nothing by itself. -/
theorem call (acc : Accounted isBarrier h answers) (c : Call) :
    Accounted isBarrier (h ++ [.call c]) answers := by
  have hpast := fun r d (hmem : (r, d) ∈ answers) =>
    acc.past (.call c) [] (by intro a ha; cases ha) hmem
  simp only [List.append_nil] at hpast
  constructor
  case every =>
    intro d e he
    rcases Nat.lt_or_ge d h.length with hlt | hge
    · rw [List.getElem?_append_left hlt] at he
      exact acc.every d e he
    · rw [List.getElem?_append_right hge, List.getElem?_singleton] at he
      split at he <;> cases he
  case own =>
    intro r d hmem
    obtain ⟨e, he, out, -⟩ := hpast r d hmem
    exact ⟨e, he, out⟩
  case requestsOnce => exact acc.requestsOnce
  case deliveriesOnce => exact acc.deliveriesOnce
  case oldest =>
    intro r d e hmem he
    obtain ⟨e', he', -, hold⟩ := hpast r d hmem
    rw [he] at he'
    cases he'
    exact hold

/-- A delivery answers an outstanding request of its client: the oldest of all, or the delivery is
a copy. -/
theorem answer (acc : Accounted isBarrier h answers) {e : Entry} {r : Nat}
    (out : Outstanding h answers h.length (r, e.client))
    (first : IsCopy isBarrier h h.length e ∨ ∀ r', Outstanding h answers h.length r' → r ≤ r'.1) :
    Accounted isBarrier (h ++ [.delivery e]) (answers ++ [(r, h.length)]) := by
  have hlast : (h ++ [.delivery e])[h.length]? = some (.delivery e) := by simp
  have hnow : ∀ a ∈ [(r, h.length)], h.length ≤ a.2 := by
    intro a ha
    exact Nat.le_of_eq (congrArg Prod.snd (List.mem_singleton.1 ha)).symm
  have hpast := fun r d (hmem : (r, d) ∈ answers) => acc.past (.delivery e) _ hnow hmem
  constructor
  case every =>
    intro d e' he'
    rcases Nat.lt_or_ge d h.length with hlt | hge
    · rw [List.getElem?_append_left hlt] at he'
      obtain ⟨r', hr'⟩ := acc.every d e' he'
      exact ⟨r', List.mem_append_left _ hr'⟩
    · have hd : d < (h ++ [Event.delivery e]).length := (List.getElem?_eq_some_iff.1 he').1
      rw [List.length_append, List.length_singleton] at hd
      obtain rfl : d = h.length := by omega
      exact ⟨r, List.mem_append_right _ (List.mem_singleton_self _)⟩
  case own =>
    intro r' d hmem
    rcases List.mem_append.1 hmem with hold | hnew
    · obtain ⟨e', he', out', -⟩ := hpast r' d hold
      exact ⟨e', he', out'⟩
    · cases List.mem_singleton.1 hnew
      refine ⟨e, hlast, ?_⟩
      rw [outstanding_append_iff (Nat.le_refl _) hnow]
      exact out
  case requestsOnce =>
    rw [List.map_append, List.nodup_append]
    refine ⟨acc.requestsOnce, by simp, ?_⟩
    -- The request was outstanding, so no delivery has answered it.
    rintro r' hr' r'' hr'' rfl
    obtain ⟨⟨_, d⟩, hmem, rfl⟩ := List.mem_map.1 hr'
    cases List.mem_singleton.1 hr''
    have := out.unanswered d hmem
    have := (acc.lt_of_mem hmem).2
    simp only at this
    omega
  case deliveriesOnce =>
    rw [List.map_append, List.nodup_append]
    refine ⟨acc.deliveriesOnce, by simp, ?_⟩
    -- All other answers were given before this moment.
    rintro d hd d' hd' rfl
    obtain ⟨a, hmem, rfl⟩ := List.mem_map.1 hd
    have := (acc.lt_of_mem hmem).2
    have : a.2 = h.length := List.mem_singleton.1 hd'
    omega
  case oldest =>
    intro r' d e' hmem he' hcopy r'' out''
    rcases List.mem_append.1 hmem with hold | hnew
    · obtain ⟨e'', he'', -, holdest⟩ := hpast r' d hold
      rw [he'] at he''
      cases he''
      exact holdest hcopy r'' out''
    · cases List.mem_singleton.1 hnew
      rw [hlast] at he'
      cases he'
      rw [isCopy_append_iff (Nat.le_refl _)] at hcopy
      rw [outstanding_append_iff (Nat.le_refl _) hnow] at out''
      rcases first with copy | first
      · exact absurd copy hcopy
      · exact first r'' out''

end Accounted

/-! ## The desk -/

/-- Who asked and has no answer yet, and which delivery answered which request. -/
structure Desk where
  outstanding : List (Nat × ClientId) := []
  answers : List (Nat × Nat) := []

/-- Notes down an event. A delivery is the answer to the oldest request of its client. -/
def Desk.note (desk : Desk) (now : Nat) : Event → Desk
  | .call (.request id) => { desk with outstanding := desk.outstanding ++ [(now, id)] }
  | .call (.unregister id) =>
    { desk with outstanding := desk.outstanding.filter fun r => decide (r.2 ≠ id) }
  | .call (.send _) => desk
  | .call (.register _) => desk
  | .delivery e =>
    match desk.outstanding.find? fun r => r.2 == e.client with
    | none => desk
    | some r => ⟨desk.outstanding.erase r, desk.answers ++ [(r.1, now)]⟩

def desk (h : List Event) : Desk :=
  h.zipIdx.foldl (fun desk ev => desk.note ev.2 ev.1) {}

theorem desk_snoc (h : List Event) (ev : Event) : desk (h ++ [ev]) = (desk h).note h.length ev := by
  unfold desk
  rw [List.zipIdx_append, List.foldl_append]
  simp

/-- What was answered stays answered; what is answered later is answered by later deliveries. -/
theorem answers_append (h h' : List Event) :
    ∃ more, (desk (h ++ h')).answers = (desk h).answers ++ more ∧ ∀ a ∈ more, h.length ≤ a.2 := by
  induction h' using List.reverseRecOn with
  | nil => exact ⟨[], by simp, by simp⟩
  | append_singleton h' ev ih =>
    obtain ⟨more, heq, hlate⟩ := ih
    rw [← List.append_assoc, desk_snoc]
    cases ev with
    | call c => cases c <;> exact ⟨more, heq, hlate⟩
    | delivery e =>
      simp only [Desk.note]
      split
      · exact ⟨more, heq, hlate⟩
      · next r _ =>
        refine ⟨more ++ [(r.1, (h ++ h').length)], by simp [heq], ?_⟩
        intro a ha
        rcases List.mem_append.1 ha with hold | hnew
        · exact hlate a hold
        · rw [List.mem_singleton.1 hnew, List.length_append]
          exact Nat.le_add_right ..

/-- The requests without an answer, as the queue holds them: those that were put off, and then those
that wait. -/
def Queue.requests (q : Queue) : List ClientId :=
  (q.barrier.map Barrier.deferred).getD [] ++ q.waiting

/-- What the desk has outstanding is what the queue holds. -/
structure Attended (isBarrier : Message → Bool) (h : List Event) (q : Queue) : Prop where
  balanced : ∃ taken, Ledger isBarrier taken h q
  accounted : Accounted isBarrier h (desk h).answers
  increasing : (desk h).outstanding.Pairwise fun r r' => r.1 < r'.1
  outstanding_iff : ∀ r, r ∈ (desk h).outstanding ↔ Outstanding h (desk h).answers h.length r
  held : (desk h).outstanding.map Prod.snd = q.requests
  /-- Only clients that have the barrier are put off. -/
  deferred : ∀ b, q.barrier = some b → ∀ id ∈ b.deferred, id ∈ b.served

namespace Attended

variable {isBarrier : Message → Bool} {h : List Event} {q : Queue}

theorem start (expected : Nat) (isBarrier : Message → Bool) :
    Attended isBarrier [] (.new expected isBarrier) where
  balanced := ⟨[], .start expected isBarrier⟩
  accounted := .start isBarrier
  increasing := .nil
  outstanding_iff := by
    intro r
    constructor
    · intro hr
      cases hr
    · intro out
      have := out.earlier
      simp at this
  held := rfl
  deferred := by intro b hb; cases hb

/-- The moments of outstanding requests are past. -/
theorem lt_of_mem (att : Attended isBarrier h q) {r : Nat × ClientId}
    (hr : r ∈ (desk h).outstanding) : r.1 < h.length :=
  ((att.outstanding_iff r).1 hr).earlier

/-- With a call taken in the desk has the outstanding requests, this one included. -/
theorem outstanding_call (att : Attended isBarrier h q) (c : Call) (r : Nat × ClientId) :
    r ∈ (desk (h ++ [.call c])).outstanding ↔
      Outstanding (h ++ [.call c]) (desk (h ++ [.call c])).answers (h ++ [Event.call c]).length
        r := by
  have hsnoc := att.accounted.outstanding_snoc_iff (Event.call c) [] r
  rw [List.append_nil, ← att.outstanding_iff] at hsnoc
  rw [desk_snoc, List.length_append, List.length_singleton]
  cases c with
  | send m => simpa [Desk.note] using hsnoc.symm
  | register id => simpa [Desk.note] using hsnoc.symm
  | request id =>
    have hsame : Event.call (.request id) = .call (.request r.2) ↔ r.2 = id :=
      ⟨fun heq => by cases heq; rfl, fun heq => by rw [heq]⟩
    show r ∈ (desk h).outstanding ++ [(h.length, id)] ↔ Outstanding _ (desk h).answers _ r
    rw [hsnoc, hsame, List.mem_append, List.mem_singleton, Prod.ext_iff]
    simp
  | unregister id =>
    have hsame : Event.call (.unregister id) = .call (.unregister r.2) ↔ r.2 = id :=
      ⟨fun heq => by cases heq; rfl, fun heq => by rw [heq]⟩
    show r ∈ (desk h).outstanding.filter _ ↔ Outstanding _ (desk h).answers _ r
    rw [hsnoc, ne_eq, hsame, List.mem_filter]
    simp

/-- Taking a call in keeps the desk in step with the queue. -/
theorem call (att : Attended isBarrier h q) (c : Call)
    (allowed : ∀ m, c = .send m → q.rundown = false) :
    Attended isBarrier (h ++ [.call c]) (q.accept c) := by
  have hanswers : (desk (h ++ [.call c])).answers = (desk h).answers := by
    rw [desk_snoc]
    cases c <;> rfl
  constructor
  case balanced =>
    obtain ⟨taken, led⟩ := att.balanced
    exact ⟨taken, led.call c allowed⟩
  case accounted =>
    rw [hanswers]
    exact att.accounted.call c
  case increasing =>
    rw [desk_snoc]
    cases c with
    | send m => exact att.increasing
    | register id => exact att.increasing
    | request id =>
      refine List.pairwise_append.2 ⟨att.increasing, List.pairwise_singleton .., ?_⟩
      intro r hr r' hr'
      rw [List.mem_singleton.1 hr']
      exact att.lt_of_mem hr
    | unregister id => exact att.increasing.filter _
  case outstanding_iff => exact att.outstanding_call c
  case held =>
    have := att.held
    rw [desk_snoc]
    cases c with
    | send m => exact this
    | register id => exact this
    | request id => simp [Desk.note, Queue.accept, Queue.requests, this]
    | unregister id =>
      have hfilter : ((desk h).outstanding.filter fun r => decide (r.2 ≠ id)).map Prod.snd
          = ((desk h).outstanding.map Prod.snd).filter fun other => decide (other ≠ id) := by
        rw [List.filter_map]
        rfl
      show ((desk h).outstanding.filter _).map Prod.snd = _
      rw [hfilter, this]
      unfold Queue.requests Queue.accept
      cases q.barrier <;> simp
  case deferred =>
    intro b hb
    cases c with
    | send m => exact att.deferred b hb
    | register id => exact att.deferred b hb
    | request id => exact att.deferred b hb
    | unregister id =>
      obtain ⟨b', hb', rfl⟩ := Option.map_eq_some_iff.1 hb
      intro other hother
      exact att.deferred b' hb' other (List.mem_filter.1 hother).1

/-- The desk finds the request that a delivery answers: the older ones are those of other clients.
-/
theorem noted (att : Attended isBarrier h q) {e : Entry} {before waiting : List ClientId}
    (hrequests : q.requests = before ++ e.client :: waiting) (hbefore : e.client ∉ before) :
    ∃ older r younger, (desk h).outstanding = older ++ (r, e.client) :: younger ∧
      older.map Prod.snd = before ∧ younger.map Prod.snd = waiting ∧
      desk (h ++ [.delivery e]) = ⟨older ++ younger, (desk h).answers ++ [(r, h.length)]⟩ := by
  obtain ⟨older, rest, hdesk, holder, hrest⟩ :=
    List.map_eq_append_iff.1 (att.held.trans hrequests)
  obtain ⟨⟨r, client⟩, younger, rfl, rfl, hyounger⟩ := List.map_eq_cons_iff.1 hrest
  have hnone : ∀ x ∈ older, ¬ (x.2 == e.client) = true := by
    intro x hx hclient
    refine hbefore ?_
    rw [← holder, ← eq_of_beq hclient]
    exact List.mem_map_of_mem hx
  have hfind : (desk h).outstanding.find? (fun x => x.2 == e.client) = some (r, e.client) := by
    rw [hdesk, List.find?_append, List.find?_eq_none.2 hnone]
    simp
  have herase : (desk h).outstanding.erase (r, e.client) = older ++ younger := by
    rw [hdesk, List.erase_append_right _ (fun hmem => hnone _ hmem (by simp)),
      List.erase_cons_head]
  exact ⟨older, r, younger, hdesk, holder, hyounger, by rw [desk_snoc, Desk.note, hfind, ← herase]⟩

/-- With one request answered the others are outstanding. The moments of requests are all different,
so only this one is answered. -/
theorem outstanding_delivery (att : Attended isBarrier h q) {e : Entry} {r : Nat}
    {client : ClientId} {older younger : List (Nat × ClientId)}
    (hdesk : (desk h).outstanding = older ++ (r, client) :: younger) (x : Nat × ClientId) :
    x ∈ older ++ younger ↔
      Outstanding (h ++ [.delivery e]) ((desk h).answers ++ [(r, h.length)]) (h.length + 1) x := by
  have hincreasing := att.increasing
  rw [hdesk, List.pairwise_append] at hincreasing
  obtain ⟨-, hyoung, hcross⟩ := hincreasing
  have hhead := (List.pairwise_cons.1 hyoung).1
  rw [att.accounted.outstanding_snoc_iff, ← att.outstanding_iff, hdesk]
  have hother : x ∈ older ++ younger → x.1 ≠ r := by
    intro hx
    rcases List.mem_append.1 hx with hx | hx
    · have := hcross x hx _ List.mem_cons_self
      simp only at this
      omega
    · have := hhead x hx
      simp only at this
      omega
  constructor
  · intro hx
    refine ⟨Or.inl ?_, ?_, by simp⟩
    · rcases List.mem_append.1 hx with hx | hx
      · exact List.mem_append_left _ hx
      · exact List.mem_append_right _ (List.mem_cons_of_mem _ hx)
    · intro d hd
      exact absurd (congrArg Prod.fst (List.mem_singleton.1 hd)) (hother hx)
  · rintro ⟨hx | ⟨-, hcall⟩, hnew, -⟩
    · rcases List.mem_append.1 hx with hx | hx
      · exact List.mem_append_left _ hx
      · rcases List.mem_cons.1 hx with rfl | hx
        · have := hnew h.length (List.mem_singleton_self _)
          omega
        · exact List.mem_append_right _ hx
    · cases hcall

/-- A delivery to a client whose oldest request is the first of `waiting` takes this request off
the desk. -/
theorem answer (att : Attended isBarrier h q) {e : Entry} {after : Queue}
    (before waiting : List ClientId) (hrequests : q.requests = before ++ e.client :: waiting)
    (hbefore : e.client ∉ before) (hafter : after.requests = before ++ waiting)
    (balanced : ∃ taken, Ledger isBarrier taken (h ++ [.delivery e]) after)
    (deferred : ∀ b, after.barrier = some b → ∀ id ∈ b.deferred, id ∈ b.served)
    (first : IsCopy isBarrier h h.length e ∨ before = []) :
    Attended isBarrier (h ++ [.delivery e]) after := by
  -- What is answered is the oldest request of its client that is still outstanding.
  obtain ⟨older, r, younger, hdesk, holder, hyounger, hnoted⟩ := att.noted hrequests hbefore
  have hmem : (r, e.client) ∈ (desk h).outstanding := by rw [hdesk]; simp
  have out := (att.outstanding_iff _).1 hmem
  have hincreasing := att.increasing
  rw [hdesk, List.pairwise_append] at hincreasing
  obtain ⟨hold, hyoung, hcross⟩ := hincreasing
  obtain ⟨hhead, hyoung⟩ := List.pairwise_cons.1 hyoung
  constructor
  case balanced => exact balanced
  case deferred => exact deferred
  case accounted =>
    rw [hnoted]
    refine att.accounted.answer out ?_
    rcases first with copy | rfl
    · exact Or.inl copy
    · -- There is no older request, and all the others are younger.
      refine Or.inr ?_
      intro r' out'
      obtain rfl : older = [] := List.map_eq_nil_iff.1 holder
      have hr' := (att.outstanding_iff r').2 out'
      rw [hdesk] at hr'
      rcases List.mem_cons.1 hr' with rfl | hlater
      · exact Nat.le_refl _
      · exact Nat.le_of_lt (hhead r' hlater)
  case increasing =>
    rw [hnoted]
    refine List.pairwise_append.2 ⟨hold, hyoung, ?_⟩
    intro x hx y hy
    exact hcross x hx y (List.mem_cons_of_mem _ hy)
  case outstanding_iff =>
    intro x
    rw [hnoted, List.length_append, List.length_singleton]
    exact att.outstanding_delivery hdesk x
  case held =>
    rw [hnoted, hafter, List.map_append, holder, hyounger]

/-- While a barrier is in progress each delivery of it is a copy: the first was made at the same
place. -/
theorem isCopy_of_current {taken : List Message} (led : Ledger isBarrier taken h q) {b : Barrier}
    (running : q.rundown = false) (busy : q.barrier = some b) (id : ClientId) :
    IsCopy isBarrier h h.length ⟨id, b.message, q.place (sentIn h).length⟩ := by
  obtain ⟨hclass, hend, before, htaken⟩ := led.current b busy
  have hplace := led.place_eq
  rw [busy, Option.isSome_some, Bool.true_or, if_pos rfl] at hplace
  obtain ⟨e, he, hfirst⟩ := led.delivered_at (k := taken.length - 1) (by simp [running, htaken])
  refine ⟨hclass, hend, e, ?_, ?_⟩
  · rw [List.take_length]
    exact he
  · rw [hfirst]
    exact hplace.symm

/-- Without a delivery the desk stays as it is, when the queue only moves its requests about. -/
theorem carry (att : Attended isBarrier h q) {after : Queue}
    (balanced : ∃ taken, Ledger isBarrier taken h after) (hafter : after.requests = q.requests)
    (deferred : ∀ b, after.barrier = some b → ∀ id ∈ b.deferred, id ∈ b.served) :
    Attended isBarrier h after :=
  { att with balanced, deferred, held := by rw [hafter]; exact att.held }

/-- A tick keeps the desk in step with the queue. One case for each tick. -/
theorem tick (att : Attended isBarrier h q) {due : Option Delivery} {after : Queue}
    (t : q.Tick due after) :
    Attended isBarrier (h ++ (q.mark (sentIn h).length due.toList).map .delivery) after := by
  obtain ⟨taken, led⟩ := att.balanced
  have balanced := led.tick t
  cases t with
  | @first m messages id waiting running free oldest asking notEnd =>
    have hafter : Queue.requests
        { q with
          messages, waiting, barrier := if q.isBarrier m then some ⟨m, [id], []⟩ else none }
        = waiting := by
      unfold Queue.requests
      cases q.isBarrier m <;> rfl
    refine att.answer [] waiting ?_ (by simp) hafter balanced ?_ (Or.inr rfl)
    · rw [Queue.requests, free, asking]
      rfl
    · intro b hb other hother
      by_cases hm : q.isBarrier m = true
      · simp only [hm, if_true, Option.some.injEq] at hb
        rw [← hb] at hother
        cases hother
      · simp [hm] at hb
  | @copy b id waiting running busy asking unserved =>
    refine att.answer b.deferred waiting ?_ ?_ rfl balanced ?_ (Or.inl ?_)
    · rw [Queue.requests, busy, asking]
      rfl
    · intro hin
      -- Whoever was put off has had the barrier already.
      exact unserved (att.deferred b busy id hin)
    · intro b' hb' other hother
      cases hb'
      exact List.mem_cons_of_mem _ (att.deferred b busy other hother)
    · exact isCopy_of_current led running busy id
  | @defer b id waiting running busy asking served =>
    simp only [Option.toList_none, Queue.mark, List.map_nil, List.append_nil] at balanced ⊢
    refine att.carry balanced ?_ ?_
    · simp [Queue.requests, busy, asking]
    · intro b' hb' other hother
      cases hb'
      rcases List.mem_append.1 hother with hold | hnew
      · exact att.deferred b busy other hold
      · rw [List.mem_singleton.1 hnew]
        exact served
  | @complete b running busy idle everyone =>
    simp only [Option.toList_none, Queue.mark, List.map_nil, List.append_nil] at balanced ⊢
    refine att.carry balanced ?_ ?_
    · simp [Queue.requests, busy, idle]
    · intro b' hb'
      cases hb'
  | finish running free last asking isEnd =>
    simp only [Option.toList_none, Queue.mark, List.map_nil, List.append_nil] at balanced ⊢
    refine att.carry balanced rfl ?_
    intro b hb
    rw [free] at hb
    cases hb
  | @farewell id waiting ended asking =>
    -- The rundown begins behind the last barrier.
    have free := (led.ended ended).2.1
    have hafter : Queue.requests { q with waiting } = waiting := by
      unfold Queue.requests
      rw [free]
      rfl
    refine att.answer [] waiting ?_ (by simp) hafter balanced ?_ (Or.inr rfl)
    · rw [Queue.requests, free, asking]
      rfl
    · intro b hb
      rw [free] at hb
      cases hb

end Attended

/-- The desk of every history is in step with its queue. -/
theorem attended_of_calls {expected : Nat} {isBarrier : Message → Bool} {cs : List Call}
    {log : List (List Delivery)} {q : Queue}
    (run : (Queue.new expected isBarrier).calls cs = .ok (log, q)) :
    Attended isBarrier (events ((Queue.new expected isBarrier).history 0 cs)) q :=
  Queue.history_induction (P := Attended isBarrier) (fun _ _ c att allowed => att.call c allowed)
    (fun _ _ _ _ att t => att.tick t) run [] (.start expected isBarrier)

/-- **Requests and answers are accounted for.** In a history in which no call failed the deliveries
can be paired with the requests that they answer:

1. every delivery answers one request, made earlier by the client that gets it and outstanding
   until then, and no request is answered twice;
2. a delivery that is no copy of a barrier in progress answers the oldest of all requests that are
   outstanding then;
3. between any two calls the outstanding requests, oldest first, are those that were put off behind
   the barrier and those that wait, and their number is what the queue reports;
4. after a client unregisters nothing is delivered to it until it asks again. -/
theorem requests_accounted {expected : Nat} {isBarrier : Message → Bool} {cs : List Call}
    {log : List (List Delivery)} {q : Queue}
    (run : (Queue.new expected isBarrier).calls cs = .ok (log, q)) :
    let h := events ((Queue.new expected isBarrier).history 0 cs)
    (entriesIn h).map Entry.delivery = log.flatten ∧
      ∃ answers : List (Nat × Nat),
        (∀ d e, h[d]? = some (.delivery e) → ∃ r, (r, d) ∈ answers) ∧
        (∀ r d, (r, d) ∈ answers → r < d ∧ ∃ e, h[d]? = some (.delivery e) ∧
          h[r]? = some (.call (.request e.client)) ∧ Outstanding h answers d (r, e.client)) ∧
        (answers.map Prod.fst).Nodup ∧
        (answers.map Prod.snd).Nodup ∧
        (∀ r d e, (r, d) ∈ answers → h[d]? = some (.delivery e) → ¬ IsCopy isBarrier h d e →
          ∀ r', Outstanding h answers d r' → r ≤ r'.1) ∧
        (∀ cs₁ cs₂ log₁ q₁, cs = cs₁ ++ cs₂ →
          (Queue.new expected isBarrier).calls cs₁ = .ok (log₁, q₁) →
          ∃ requests : List (Nat × ClientId),
            requests.Pairwise (fun r r' => r.1 < r'.1) ∧
            (∀ r, r ∈ requests ↔ Outstanding h answers
              (events ((Queue.new expected isBarrier).history 0 cs₁)).length r) ∧
            requests.map Prod.snd = (q₁.barrier.map Barrier.deferred).getD [] ++ q₁.waiting ∧
            q₁.pendingRequests = requests.length) ∧
        ∀ (k d : Nat) (e : Entry), h[k]? = some (.call (.unregister e.client)) → k < d →
          h[d]? = some (.delivery e) →
          ∃ r, k < r ∧ r < d ∧ h[r]? = some (.call (.request e.client)) := by
  intro h
  have att := attended_of_calls run
  have acc := att.accounted
  refine ⟨entriesIn_history 0 run, (desk h).answers, acc.every, ?_, acc.requestsOnce,
    acc.deliveriesOnce, acc.oldest, ?_, ?_⟩
  · intro r d hmem
    obtain ⟨e, he, out⟩ := acc.own r d hmem
    exact ⟨out.earlier, e, he, out.made, out⟩
  · intro cs₁ cs₂ log₁ q₁ hcs run₁
    -- The desk after the first calls has outstanding what the whole history had at that moment.
    have att₁ := attended_of_calls run₁
    rw [hcs] at run
    obtain ⟨_, mid, _, _, _, hist⟩ := Queue.calls_append_ok run
    have hlater : h = events ((Queue.new expected isBarrier).history 0 cs₁) ++ events (mid.history
        (0 + (cs₁.filterMap Call.sent?).length) cs₂) := by
      show events _ = _
      rw [hcs, hist, events_append]
    obtain ⟨more, hanswers, hmore⟩ := answers_append
      (events ((Queue.new expected isBarrier).history 0 cs₁))
      (events (mid.history (0 + (cs₁.filterMap Call.sent?).length) cs₂))
    refine ⟨_, att₁.increasing, ?_, att₁.held, ?_⟩
    · intro r
      rw [att₁.outstanding_iff, hlater, hanswers, outstanding_append_iff (Nat.le_refl _) hmore]
    · have hlength := congrArg List.length att₁.held
      rw [List.length_map] at hlength
      rw [hlength]
      unfold Queue.pendingRequests Queue.requests
      cases q₁.barrier <;> simp [Nat.add_comm]
  · intro k d e hk hkd hd
    obtain ⟨r, hmem⟩ := acc.every d e hd
    obtain ⟨e', he', out⟩ := acc.own r d hmem
    rw [hd] at he'
    cases he'
    refine ⟨r, ?_, out.earlier, out.made⟩
    -- The request was made after its client left, or it would not be outstanding.
    rcases Nat.lt_trichotomy r k with hlt | heq | hgt
    · exact absurd hk (out.stayed k hlt hkd)
    · have := out.made
      rw [show (r, e.client).1 = k from heq, hk] at this
      cases this
    · exact hgt

/-- In the rehearsal every request is answered, and the last one of `⟨2⟩` by the end. -/
theorem requests_accounted_rehearsal :
    let q₀ := Queue.new 0 fun m => m.kind == .barrier
    let h := events (q₀.history 0 rehearsal)
    q₀.calls rehearsal = .ok (rehearsalLog, rehearsed) ∧
      h[16]? = some (.delivery ⟨⟨2⟩, .endOfStream, 2⟩) ∧
      ∃ answers : List (Nat × Nat), ∃ r, (r, 16) ∈ answers ∧ (answers.map Prod.fst).Nodup := by
  intro q₀ h
  have run : q₀.calls rehearsal = .ok (rehearsalLog, rehearsed) := by cbv
  have last : h[16]? = some (.delivery ⟨⟨2⟩, .endOfStream, 2⟩) := by cbv
  obtain ⟨-, answers, every, -, once, -⟩ := requests_accounted run
  obtain ⟨r, hr⟩ := every 16 _ last
  exact ⟨run, last, answers, r, hr, once⟩

end Fanout

end RecordFarm
