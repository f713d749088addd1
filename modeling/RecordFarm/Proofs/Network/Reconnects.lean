import RecordFarm.Proofs.Farm.Lines
import RecordFarm.Proofs.Service.Session

/-!
# Dealers that come back

What a router sends to an identity goes to the dealer that connected last under it. A dealer that is
dropped takes its identity off the router, whoever holds it by then. So a dealer gets what is sent
to its identity until it is dropped itself or another dealer of the same identity is, be it one that
had connected before: `replies_follow_latest_iff` says that this is the only way to be cut off, and
`older_drop_cuts_off` is the shortest way there. -/

namespace RecordFarm

/-- What stands in a list that one more was appended to. -/
theorem getElem?_append_singleton_iff {α : Type} {l : List α} {a b : α} {k : Nat} :
    (l ++ [a])[k]? = some b ↔ l[k]? = some b ∨ k = l.length ∧ b = a := by
  rcases Nat.lt_trichotomy k l.length with before | rfl | behind
  · rw [List.getElem?_append_left before]
    exact (or_iff_left fun last => absurd last.1 (Nat.ne_of_lt before)).symm
  · rw [List.getElem?_concat_length, List.getElem?_eq_none (Nat.le_refl _)]
    simp [eq_comm]
  · rw [List.getElem?_eq_none (by rw [List.length_append]; exact behind),
      List.getElem?_eq_none (Nat.le_of_lt behind)]
    simp [Nat.ne_of_gt behind]

def DealerSocket.waiting (socket : DealerSocket) (net : Network) : Mailbox :=
  match net.routers[socket.number]? with
  | none => []
  | some router => router.mailboxes[socket.mailbox]?.getD []

/-- A dealer that connected to a router, and when it was dropped. -/
structure Visit where
  dealer : DealerSocket
  /-- How many dealers had connected by the time this one was dropped. -/
  dropped : Option Nat := none
  deriving DecidableEq

/-- A network, and the dealers that ever connected to one of its routers, in their order. -/
structure Reception where
  net : Network
  visits : List Visit := []

namespace Reception

/-- What those at a router and its dealers do. Dealers are told by their numbers. -/
inductive Move where
  | connect (id : ClientId)
  | drop (k : Nat)
  /-- The router sends to an identity. -/
  | answer (id : ClientId) (frames : Frames)
  /-- The router takes the next request. -/
  | take
  | request (k : Nat) (frames : Frames)
  | hear (k : Nat)

def Move.arriving : Move → Option ClientId
  | connect id => some id
  | _ => none

def after {α : Type} (here : Reception) : Attempt α → Reception
  | .done _ net => { here with net }
  | _ => here

/-- An attempt changes nothing about who came. -/
@[simp]
theorem visits_after {α : Type} (here : Reception) (attempt : Attempt α) :
    (here.after attempt).visits = here.visits := by
  cases attempt <;> rfl

/-- Makes a move. Only a dealer that was not dropped can do anything. -/
def step (router : RouterSocket) (here : Reception) : Move → Reception
  | .connect id =>
    match DealerSocket.connect here.net router.uri id with
    | .done dealer net => { net, visits := here.visits ++ [{ dealer }] }
    | _ => here
  | .drop k =>
    match here.visits[k]? with
    | some ⟨dealer, none⟩ =>
      { net := dealer.close here.net
        visits := here.visits.set k ⟨dealer, some here.visits.length⟩ }
    | _ => here
  | .answer id frames => here.after (router.sendTo id frames here.net)
  | .take => here.after (router.recv here.net)
  | .request k frames =>
    match here.visits[k]? with
    | some ⟨dealer, none⟩ => here.after (dealer.send frames here.net)
    | _ => here
  | .hear k =>
    match here.visits[k]? with
    | some ⟨dealer, none⟩ => here.after (dealer.recv here.net)
    | _ => here

def identities (here : Reception) : List ClientId := here.visits.map (·.dealer.identity)

def waiting (here : Reception) (k : Nat) : Mailbox :=
  match here.visits[k]? with
  | none => []
  | some visit => visit.dealer.waiting here.net

/-- The dealer numbered `k` connected under the identity. -/
def Came (here : Reception) (id : ClientId) (k : Nat) (visit : Visit) : Prop :=
  here.visits[k]? = some visit ∧ visit.dealer.identity = id

/-- The dealer numbered `k` is the last that connected under the identity. -/
def Latest (here : Reception) (id : ClientId) (k : Nat) : Prop :=
  (∃ visit, here.Came id k visit) ∧ ∀ j visit, here.Came id j visit → j ≤ k

/-- Since the dealer numbered `k` connected, one of the identity was dropped. -/
def CutOff (here : Reception) (id : ClientId) (k : Nat) : Prop :=
  ∃ j visit count, here.Came id j visit ∧ visit.dropped = some count ∧ k < count

/-- What the router sends to the identity goes to the dealer numbered `k` and to nobody else. If
there is no room for it, the router has to wait. -/
def Delivers (here : Reception) (router : RouterSocket) (id : ClientId) (frames : Frames)
    (k : Nat) : Prop :=
  if Network.hasRoom (here.waiting k).length here.net.limits.capacity then
    ∃ net, router.sendTo id frames here.net = .done () net ∧
      ∀ j, waiting { here with net } j
        = if j = k then here.waiting k ++ [frames] else here.waiting j
  else router.sendTo id frames here.net = .blocked

variable {router : RouterSocket} {here : Reception} {r : Router} {id : ClientId} {k : Nat}

/-! ## Who holds an identity -/

/-- The dealer numbered `k` is the one that the router knows under the identity. -/
def Holds (here : Reception) (id : ClientId) (k : Nat) : Prop :=
  here.Latest id k ∧ ¬ here.CutOff id k

theorem Came.lt {visit : Visit} (h : here.Came id k visit) : k < here.visits.length :=
  (List.getElem?_eq_some_iff.1 h.1).1

/-- Only one dealer connected last. -/
theorem Latest.unique {j : Nat} (h : here.Latest id k) (h' : here.Latest id j) : k = j := by
  obtain ⟨⟨visit, came⟩, last⟩ := h
  obtain ⟨⟨visit', came'⟩, last'⟩ := h'
  exact Nat.le_antisymm (last' k visit came) (last j visit' came')

/-- Who holds an identity hangs on those alone who connected under it. -/
theorem holds_congr {there : Reception}
    (same : ∀ j visit, there.Came id j visit ↔ here.Came id j visit) :
    there.Holds id k ↔ here.Holds id k := by
  unfold Holds Latest CutOff
  simp only [same]

/-- One visit more is one under its own identity. -/
theorem came_append {net : Network} {new visit : Visit} :
    Came { net, visits := here.visits ++ [new] } id k visit ↔
      here.Came id k visit ∨ (k = here.visits.length ∧ visit = new) ∧ new.dealer.identity = id := by
  show (here.visits ++ [new])[k]? = some visit ∧ _ ↔ _
  rw [getElem?_append_singleton_iff, or_and_right]
  refine or_congr Iff.rfl ⟨?_, ?_⟩
  · rintro ⟨⟨rfl, rfl⟩, own⟩
    exact ⟨⟨rfl, rfl⟩, own⟩
  · rintro ⟨⟨rfl, rfl⟩, own⟩
    exact ⟨⟨rfl, rfl⟩, own⟩

/-- A visit that changes is still one under its own identity. -/
theorem came_set {net : Network} {new visit : Visit} {j : Nat} (there : k < here.visits.length) :
    Came { net, visits := here.visits.set k new } id j visit ↔
      if j = k then visit = new ∧ new.dealer.identity = id else here.Came id j visit := by
  show (here.visits.set k new)[j]? = some visit ∧ _ ↔ _
  split
  · next same =>
    subst same
    rw [List.getElem?_set_self there]
    constructor
    · rintro ⟨⟨⟩, own⟩
      exact ⟨rfl, own⟩
    · rintro ⟨rfl, own⟩
      exact ⟨rfl, own⟩
  · next other =>
    rw [List.getElem?_set_ne (Ne.symm other)]
    rfl

/-- What a router knows of the dealers that connected to it. -/
structure Attended (router : RouterSocket) (here : Reception) (r : Router) : Prop where
  stands : here.net.routers[router.number]? = some r
  found : here.net.lookup router.uri = some (.router router.number)
  housed : r.mailboxes.length = here.visits.length
  places : ∀ k (visit : Visit), here.visits[k]? = some visit →
    visit.dealer.number = router.number ∧ visit.dealer.mailbox = k
  dropped : ∀ k visit, here.visits[k]? = some visit → ∀ count, visit.dropped = some count →
    k < count ∧ count ≤ here.visits.length
  peers : ∀ id k, r.peers.lookup id = some k ↔ here.Holds id k

namespace Attended

/-- A router is attended from the moment that it is bound. -/
theorem bind {net bound : Network} {uri : String}
    (h : RouterSocket.bind net uri = .done router bound) :
    Attended router { net := bound } { uri } := by
  unfold RouterSocket.bind at h
  split at h
  · cases h
  · cases h
    exact
      { stands := by simp
        found := by simp [Network.lookup]
        housed := rfl
        places := nofun
        dropped := nofun
        peers := fun _ _ => ⟨nofun, fun ⟨⟨⟨_, came⟩, _⟩, _⟩ => nomatch came.1⟩ }

/-- What only concerns mail does not change who is known. -/
theorem mail (h : Attended router here r) {f : Router → Router} (peers : (f r).peers = r.peers)
    (boxes : (f r).mailboxes.length = r.mailboxes.length) :
    Attended router { here with net := here.net.modifyRouter router.number f } (f r) where
  stands := Network.router_modifyRouter h.stands f
  found := h.found
  housed := boxes.trans h.housed
  places := h.places
  dropped := h.dropped
  peers := fun id k => by rw [peers]; exact h.peers id k

/-- The identity of one that connects is held by him, whoever held it before. -/
theorem connect (h : Attended router here r) (dealer : DealerSocket)
    (number : dealer.number = router.number) (mailbox : dealer.mailbox = r.mailboxes.length) :
    Attended router
      { net := here.net.modifyRouter router.number fun r =>
          { r with
            mailboxes := r.mailboxes ++ [[]]
            peers := (dealer.identity, dealer.mailbox)
              :: r.peers.filter fun peer => peer.1 ≠ dealer.identity }
        visits := here.visits ++ [{ dealer }] }
      { r with
        mailboxes := r.mailboxes ++ [[]]
        peers := (dealer.identity, dealer.mailbox)
          :: r.peers.filter fun peer => peer.1 ≠ dealer.identity } where
  stands := Network.router_modifyRouter h.stands _
  found := h.found
  housed := by rw [List.length_append, List.length_append, h.housed]; rfl
  places := by
    intro k visit hvisit
    rcases getElem?_append_singleton_iff.1 hvisit with old | ⟨rfl, rfl⟩
    · exact h.places k visit old
    · exact ⟨number, mailbox.trans h.housed⟩
  dropped := by
    intro k visit hvisit count hcount
    rw [List.length_append]
    rcases getElem?_append_singleton_iff.1 hvisit with old | ⟨rfl, rfl⟩
    · obtain ⟨after, before⟩ := h.dropped k visit old count hcount
      exact ⟨after, Nat.le_succ_of_le before⟩
    · cases hcount
  peers := by
    intro id k
    by_cases own : dealer.identity = id
    · subst own
      rw [List.lookup_cons_self, Option.some.injEq, mailbox, h.housed]
      -- The one that connects is behind all others, and nobody was dropped since.
      have holds : Holds { net := here.net, visits := here.visits ++ [{ dealer }] } dealer.identity
          here.visits.length := by
        refine ⟨⟨⟨_, came_append.2 (Or.inr ⟨⟨rfl, rfl⟩, rfl⟩)⟩, ?_⟩, ?_⟩
        · intro j visit came
          rcases came_append.1 came with old | ⟨⟨rfl, -⟩, -⟩
          · exact Nat.le_of_lt old.lt
          · exact Nat.le_refl _
        · rintro ⟨j, visit, count, came, hcount, later⟩
          rcases came_append.1 came with old | ⟨⟨-, rfl⟩, -⟩
          · exact absurd later (Nat.not_lt.2 (h.dropped j visit old.1 count hcount).2)
          · cases hcount
      exact ⟨fun same => same ▸ holds, fun holds' => holds.1.unique holds'.1⟩
    · rw [List.lookup_cons, beq_false_of_ne (Ne.symm own)]
      show List.lookup id _ = some k ↔ _
      rw [lookup_filter_of_keeps r.peers fun _ => decide_eq_true (Ne.symm own), h.peers]
      refine (holds_congr fun j visit => came_append.trans (or_iff_left ?_)).symm
      exact fun new => own new.2

/-- The identity of one that is dropped is held by nobody, whoever held it before. -/
theorem drop (h : Attended router here r) {dealer : DealerSocket}
    (there : here.visits[k]? = some ⟨dealer, none⟩) :
    Attended router
      { net := dealer.close here.net
        visits := here.visits.set k ⟨dealer, some here.visits.length⟩ }
      { r with peers := r.peers.filter fun peer => peer.1 ≠ dealer.identity } where
  stands := by
    unfold DealerSocket.close
    rw [(h.places k _ there).1]
    exact Network.router_modifyRouter h.stands _
  found := h.found
  housed := by rw [List.length_set]; exact h.housed
  places := by
    intro j visit hvisit
    rcases getElem?_set_cases hvisit with ⟨rfl, rfl⟩ | old
    · exact h.places j ⟨dealer, none⟩ there
    · exact h.places j visit old
  dropped := by
    intro j visit hvisit count hcount
    rw [List.length_set]
    rcases getElem?_set_cases hvisit with ⟨rfl, rfl⟩ | old
    · cases hcount
      exact ⟨(List.getElem?_eq_some_iff.1 there).1, Nat.le_refl _⟩
    · exact h.dropped j visit old count hcount
  peers := by
    intro id j
    have lt := (List.getElem?_eq_some_iff.1 there).1
    -- Dropping takes away the entry of the identity, whoever holds it.
    by_cases own : dealer.identity = id
    · subst own
      have nobody : (r.peers.filter fun peer => peer.1 ≠ dealer.identity).lookup dealer.identity
          = none := by
        rw [List.lookup_eq_none_iff]
        intro peer hpeer
        have := of_decide_eq_true (List.mem_filter.1 hpeer).2
        exact bne_iff_ne.2 (Ne.symm this)
      rw [nobody]
      refine ⟨nofun, fun ⟨⟨⟨visit, came⟩, _⟩, free⟩ => absurd ?_ free⟩
      have before : j < here.visits.length := by
        have := came.lt
        rwa [List.length_set] at this
      exact ⟨k, _, _, (came_set lt).2 (by rw [if_pos rfl]; exact ⟨rfl, rfl⟩), rfl, before⟩
    · rw [lookup_filter_of_keeps r.peers fun _ => decide_eq_true (Ne.symm own), h.peers]
      -- No other identity is held by this visit.
      refine (holds_congr fun i visit => (came_set lt).trans ?_).symm
      split
      · next same =>
        subst same
        refine ⟨fun new => absurd new.2 own, fun old => ?_⟩
        cases there.symm.trans old.1
        exact absurd old.2 own
      · rfl

/-- Sending to somebody unknown fails. -/
theorem sendTo_unknown (h : Attended router here r) (unknown : r.peers.lookup id = none)
    (frames : Frames) : router.sendTo id frames here.net = .failed (.unknownPeer id) := by
  unfold RouterSocket.sendTo
  simp only [h.stands, unknown]

/-- Sending to somebody known puts the frames into the mailbox as soon as there is room. -/
theorem sendTo_known (h : Attended router here r) {box : Mailbox}
    (known : r.peers.lookup id = some k) (there : r.mailboxes[k]? = some box) (frames : Frames) :
    router.sendTo id frames here.net =
      if Network.hasRoom box.length here.net.limits.capacity then
        .done () (here.net.modifyRouter router.number fun router =>
          { router with mailboxes := router.mailboxes.modify k (· ++ [frames]) })
      else .blocked := by
  unfold RouterSocket.sendTo
  simp only [h.stands, known, there]

/-- The mailbox of a dealer. -/
theorem waiting (h : Attended router here r) (k : Nat) :
    here.waiting k = r.mailboxes[k]?.getD [] := by
  unfold Reception.waiting
  cases hvisit : here.visits[k]? with
  | none =>
    have behind : r.mailboxes.length ≤ k := h.housed ▸ List.getElem?_eq_none_iff.1 hvisit
    rw [List.getElem?_eq_none behind]
    rfl
  | some visit =>
    obtain ⟨number, mailbox⟩ := h.places k visit hvisit
    simp only [DealerSocket.waiting, number, h.stands, mailbox]

/-- A move leaves a router attended. -/
theorem step (h : Attended router here r) (move : Move) :
    ∃ r', Attended router (here.step router move) r' := by
  cases move with
  | connect id =>
    simp only [Reception.step, DealerSocket.connect, h.found, h.stands]
    exact ⟨_, h.connect ⟨router.number, r.mailboxes.length, id, router.uri⟩ rfl rfl⟩
  | drop k =>
    simp only [Reception.step]
    split
    · next dealer there => exact ⟨_, h.drop there⟩
    · exact ⟨r, h⟩
  | answer id frames =>
    show ∃ r', Attended router (here.after (router.sendTo id frames here.net)) r'
    cases hknown : r.peers.lookup id with
    | none =>
      rw [h.sendTo_unknown hknown]
      exact ⟨r, h⟩
    | some k =>
      have lt : k < r.mailboxes.length := by
        obtain ⟨⟨⟨visit, came⟩, -⟩, -⟩ := (h.peers id k).1 hknown
        exact h.housed ▸ came.lt
      rw [h.sendTo_known hknown (List.getElem?_eq_getElem lt)]
      split
      · exact ⟨_, h.mail rfl (List.length_modify ..)⟩
      · exact ⟨r, h⟩
  | take =>
    show ∃ r', Attended router (here.after (router.recv here.net)) r'
    unfold RouterSocket.recv
    simp only [h.stands]
    split
    · exact ⟨r, h⟩
    · exact ⟨_, h.mail rfl rfl⟩
  | request k frames =>
    simp only [Reception.step]
    split
    · next dealer there =>
      have number : dealer.number = router.number := (h.places k _ there).1
      unfold DealerSocket.send
      rw [number, h.stands]
      dsimp only
      split
      · exact ⟨r, h⟩
      · split
        · exact ⟨_, h.mail rfl rfl⟩
        · exact ⟨r, h⟩
    · exact ⟨r, h⟩
  | hear k =>
    simp only [Reception.step]
    split
    · next dealer there =>
      have number : dealer.number = router.number := (h.places k _ there).1
      unfold DealerSocket.recv
      rw [number, h.stands]
      dsimp only
      split
      · exact ⟨_, h.mail rfl (List.length_modify ..)⟩
      · split
        · exact ⟨r, h⟩
        · exact ⟨r, h⟩
    · exact ⟨r, h⟩

/-- Whoever connects to an attended router gets through, and nobody else comes. -/
theorem identities_step (h : Attended router here r) (move : Move) :
    (here.step router move).identities = here.identities ++ move.arriving.toList := by
  cases move with
  | connect id =>
    simp only [Reception.step, DealerSocket.connect, h.found, h.stands]
    exact List.map_append
  | drop k =>
    simp only [Reception.step]
    split
    · next dealer there =>
      refine Eq.trans (List.ext_getElem? fun j => ?_) (List.append_nil _).symm
      unfold identities
      rw [List.getElem?_map, List.getElem?_map, List.getElem?_set]
      split
      · next same =>
        subst same
        rw [if_pos (List.getElem?_eq_some_iff.1 there).1, there]
        rfl
      · rfl
    · exact (List.append_nil _).symm
  | answer id frames => simp [Reception.step, identities, Move.arriving]
  | take => simp [Reception.step, identities, Move.arriving]
  | request k frames =>
    simp only [Reception.step]
    split <;> simp [identities, Move.arriving]
  | hear k =>
    simp only [Reception.step]
    split <;> simp [identities, Move.arriving]

/-- However many moves are made, a router stays attended, and all that came got through. -/
theorem run (h : Attended router here r) (moves : List Move) :
    (∃ r', Attended router (moves.foldl (Reception.step router) here) r') ∧
      (moves.foldl (Reception.step router) here).identities
        = here.identities ++ moves.filterMap Move.arriving := by
  induction moves generalizing here r with
  | nil => exact ⟨⟨r, h⟩, (List.append_nil _).symm⟩
  | cons move moves ih =>
    obtain ⟨r', h'⟩ := h.step move
    obtain ⟨attended, came⟩ := ih h'
    refine ⟨attended, came.trans ?_⟩
    rw [h.identities_step, List.append_assoc]
    cases move <;> rfl

/-- What is sent to an identity goes to who holds it. -/
theorem delivers (h : Attended router here r) (holds : here.Holds id k) (frames : Frames) :
    here.Delivers router id frames k := by
  have lt : k < r.mailboxes.length := by
    obtain ⟨⟨⟨visit, came⟩, -⟩, -⟩ := holds
    exact h.housed ▸ came.lt
  have box : r.mailboxes[k]? = some (here.waiting k) := by
    rw [h.waiting, List.getElem?_eq_getElem lt, Option.getD_some]
  unfold Delivers
  rw [h.sendTo_known ((h.peers id k).2 holds) box]
  split
  · refine ⟨_, rfl, fun j => ?_⟩
    have sent := h.mail (f := fun router : Router =>
      { router with mailboxes := router.mailboxes.modify k (· ++ [frames]) }) rfl
      (List.length_modify ..)
    rw [sent.waiting, h.waiting j]
    show (r.mailboxes.modify k _)[j]?.getD [] = _
    split
    · next same =>
      subst same
      rw [List.getElem?_modify_eq, box]
      rfl
    · next other =>
      rw [List.getElem?_modify_ne _ _ (Ne.symm other)]
  · rfl

/-- What is sent to an identity that nobody holds is refused. -/
theorem refused (h : Attended router here r) (free : ∀ k, ¬ here.Holds id k) (frames : Frames) :
    router.sendTo id frames here.net = .failed (.unknownPeer id) := by
  refine h.sendTo_unknown (Option.eq_none_iff_forall_ne_some.2 fun k known => ?_) frames
  exact free k ((h.peers id k).1 known)

end Attended

/-- **Replies follow the latest dealer until one of its identity is dropped.** Let dealers connect
to a bound router under any identities and be dropped in any order, with any mail in between. All
that connect get through. What the router then sends to an identity goes to the dealer that
connected last under it, exactly if since then no dealer of this identity was dropped, neither
itself nor one that had connected before. Otherwise the identity is unknown; it also is if nobody
connected under it or all who did were dropped. -/
theorem replies_follow_latest_iff {net bound : Network} {uri : String} {router : RouterSocket}
    (binds : RouterSocket.bind net uri = .done router bound) (moves : List Move) (id : ClientId)
    (frames : Frames) :
    let here := moves.foldl (step router) { net := bound }
    here.identities = moves.filterMap Move.arriving ∧
      (∀ k, here.Latest id k → (here.Delivers router id frames k ↔ ¬ here.CutOff id k)) ∧
      (∀ k, here.Latest id k → here.CutOff id k →
        router.sendTo id frames here.net = .failed (.unknownPeer id)) ∧
      ((∀ k visit, here.Came id k visit → visit.dropped ≠ none) →
        router.sendTo id frames here.net = .failed (.unknownPeer id)) := by
  intro here
  obtain ⟨⟨r, attended⟩, came⟩ := (Attended.bind binds).run moves
  have cut : ∀ k, here.Latest id k → here.CutOff id k →
      router.sendTo id frames here.net = .failed (.unknownPeer id) := by
    intro k latest off
    refine attended.refused (fun j holds => ?_) frames
    rw [holds.1.unique latest] at holds
    exact holds.2 off
  refine ⟨came, fun k latest => ⟨fun delivers off => ?_, fun on => ?_⟩, cut, fun gone => ?_⟩
  · unfold Delivers at delivers
    rw [cut k latest off] at delivers
    split at delivers
    · obtain ⟨_, done, -⟩ := delivers
      cases done
    · cases delivers
  · exact attended.delivers ⟨latest, on⟩ frames
  · refine attended.refused (fun k holds => ?_) frames
    obtain ⟨⟨⟨visit, came⟩, -⟩, on⟩ := holds
    cases hdropped : visit.dropped with
    | none => exact gone k visit came hdropped
    | some count =>
      exact on ⟨k, visit, count, came, hdropped, (attended.dropped k visit came.1 count hdropped).1⟩

/-- Seven comes twice. If its first dealer is dropped in between, the second gets what is sent to
it; if it is dropped afterwards, the second is cut off. -/
theorem replies_follow_latest_iff_seven :
    let net : Network := { limits := ⟨2, 0, 0⟩ }
    let router : RouterSocket := ⟨0, "farm"⟩
    let bound : Network :=
      { net with bound := [("farm", .router 0)], routers := [{ uri := "farm" }] }
    RouterSocket.bind net "farm" = .done router bound ∧
      Delivers (step router (step router (step router { net := bound } (.connect ⟨7⟩)) (.drop 0))
        (.connect ⟨7⟩)) router ⟨7⟩ [[1]] 1 ∧
      router.sendTo ⟨7⟩ [[1]] (step router (step router (step router { net := bound }
        (.connect ⟨7⟩)) (.connect ⟨7⟩)) (.drop 0)).net = .failed (.unknownPeer ⟨7⟩) := by
  intro net router bound
  have binds : RouterSocket.bind net "farm" = .done router bound := rfl
  refine ⟨binds, ?_, ?_⟩
  · refine ((replies_follow_latest_iff binds [.connect ⟨7⟩, .drop 0, .connect ⟨7⟩] ⟨7⟩ [[1]]).2.1 1
      ?_).2 ?_
    · refine ⟨⟨_, rfl, rfl⟩, fun j visit came => Nat.le_of_lt_succ came.lt⟩
    · rintro ⟨j, visit, count, ⟨there, -⟩, dropped, later⟩
      match j, there with
      | 0, there => cases there; cases dropped; exact absurd later (by decide)
      | 1, there => cases there; cases dropped
  · refine (replies_follow_latest_iff binds [.connect ⟨7⟩, .connect ⟨7⟩, .drop 0] ⟨7⟩ [[1]]).2.2.1 1
      ?_ ?_
    · exact ⟨⟨_, rfl, rfl⟩, fun j visit came => Nat.le_of_lt_succ came.lt⟩
    · exact ⟨0, _, 2, ⟨rfl, rfl⟩, rfl, by decide⟩

/-- **The drop of an older dealer cuts off the newer one.** Both are connected under one identity,
and the newer one would get what is sent to it. Once the older one is dropped, its identity is
unknown, though it is still there and has room. -/
theorem older_drop_cuts_off :
    let router : RouterSocket := ⟨0, "farm"⟩
    let bound : Network :=
      { limits := ⟨2, 0, 0⟩, bound := [("farm", .router 0)], routers := [{ uri := "farm" }] }
    let both := [Move.connect ⟨7⟩, .connect ⟨7⟩].foldl (step router) { net := bound }
    let here := both.step router (.drop 0)
    RouterSocket.bind { limits := ⟨2, 0, 0⟩ } "farm" = .done router bound ∧
      both.Delivers router ⟨7⟩ [[1]] 1 ∧
      here.Latest ⟨7⟩ 1 ∧ (∃ dealer, here.visits[1]? = some ⟨dealer, none⟩) ∧
      here.waiting 1 = [] ∧ here.net.limits.capacity = 2 ∧
      router.sendTo ⟨7⟩ [[1]] here.net = .failed (.unknownPeer ⟨7⟩) ∧
      ¬ here.Delivers router ⟨7⟩ [[1]] 1 := by
  intro router bound both here
  have refused : router.sendTo ⟨7⟩ [[1]] here.net = .failed (.unknownPeer ⟨7⟩) := rfl
  refine ⟨rfl, ⟨_, rfl, fun j => ?_⟩,
    ⟨⟨_, rfl, rfl⟩, fun j visit came => Nat.le_of_lt_succ came.lt⟩,
    ⟨_, rfl⟩, rfl, rfl, refused, fun delivers => ?_⟩
  · match j with
    | 0 => rfl
    | 1 => rfl
    | _ + 2 => rfl
  · obtain ⟨_, done, -⟩ := delivers
    cases refused.symm.trans done

end Reception

end RecordFarm
