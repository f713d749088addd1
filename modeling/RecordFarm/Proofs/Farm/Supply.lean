import RecordFarm.Proofs.Farm.Flow
import RecordFarm.Proofs.Farm.Mail
import RecordFarm.Proofs.Farm.Worker

/-!
# From the source to the workers

`Supply` is what is true of the distributor, the router and the workers at every moment of a run:
the mail is in order, and the records that the source yielded are accounted for. Every move of a
worker and of the distributor keeps it (`Supply.worker`, `Supply.distributor`).
-/

namespace RecordFarm

namespace Farm

open Fanout

/-- What is put into a mailbox is a letter, and it says what was sent. -/
theorem gist_arrived {m : Message} {frames : Frames} (kind : m.isEnd = true ∨ m.kind = .process)
    (h : m.toFramesBatched = .ok frames) :
    Message.Letter frames ∧ gist (Message.arrived frames) = gist m := by
  rcases kind with hend | hkind
  · have last : m.kind = .endOfStream := by simpa [Message.isEnd] using hend
    have framed := Message.hop_other (by simp [last]) (by rw [last]; rfl) h
    exact ⟨⟨m, framed, Or.inl last⟩, by rw [Message.arrived_of_framed framed]⟩
  · obtain ⟨records, read, hrecords, framed, kind, content⟩ := Message.hop_process hkind h
    refine ⟨⟨read, framed, Or.inr ⟨kind, records, content⟩⟩, ?_⟩
    unfold gist
    rw [Message.arrived_of_framed framed, Message.content_of_records kind content,
      Message.content_of_records hkind hrecords]
    simp [Message.isEnd, kind, hkind]

/-- What is on its way to a worker: its mail, and behind it what is due to it. -/
def onTheWay (r : Router) (dealer : Option DealerSocket) (id : ClientId) (due : List Delivery) :
    List (Bool × List Bytes) :=
  (mailOf r dealer).map (fun frames => gist (Message.arrived frames)) ++ dueTo id due

variable {π : Type}

def WorkerView.kept (v : WorkerView π) : List Bytes := v.proc.2 ++ v.hand ++ v.records

/-- What is true of the distributor, the router and the `n` workers. -/
structure Supply (n : Nat) (ids : Nat → ClientId) (views : Nat → WorkerView π) (dv : DistView)
    (r : Router) : Prop where
  mail : Mail Message.Letter n ids (fun i => (views i).dealer) (dv.socket.map RouterSocket.number) r
  flow : Flow n (fun i => (views i).kept) (fun i => (views i).ended)
    (fun i => onTheWay r (views i).dealer (ids i) dv.due) dv.queue dv.hand dv.log
  waiting : ∀ id ∈ dv.queue.waiting, Known n ids id
  due : ∀ x ∈ dv.due, Known n ids x.1 ∧ (x.2.isEnd = true ∨ x.2.kind = .process)
  yielded : Yielded Message.Carries dv.log dv.ended

namespace Supply

variable {n : Nat} {ids : Nat → ClientId} {views : Nat → WorkerView π} {dv dv' : DistView}
  {r r' : Router} {i : Nat} {v' : WorkerView π}

/-- Only some of what matters of a worker matters here. -/
theorem congr (supply : Supply n ids views dv r) (hdealer : v'.dealer = (views i).dealer)
    (hended : v'.ended = (views i).ended) (hkept : v'.kept = (views i).kept) :
    Supply n ids (Function.update views i v') dv r where
  mail := by
    rw [comp_update WorkerView.dealer, hdealer, Function.update_eq_self]
    exact supply.mail
  flow := by
    have hway : (fun j => onTheWay r (Function.update views i v' j).dealer (ids j) dv.due)
        = fun j => onTheWay r (views j).dealer (ids j) dv.due := by
      funext j
      rcases eq_or_ne j i with rfl | hne
      · rw [Function.update_self, hdealer]
      · rw [Function.update_of_ne hne]
    rw [comp_update WorkerView.kept, comp_update WorkerView.ended, hkept, hended, hway,
      Function.update_eq_self, Function.update_eq_self]
    exact supply.flow
  waiting := supply.waiting
  due := supply.due
  yielded := supply.yielded

/-- A worker takes from its stream what it keeps. -/
theorem pass (supply : Supply n ids views dv r)
    (mail : Mail Message.Letter n ids (Function.update (fun j => (views j).dealer) i v'.dealer)
      (dv.socket.map RouterSocket.number) r')
    (others : ∀ j < n, j ≠ i → mailOf r' (views j).dealer = mailOf r (views j).dealer)
    (same : v'.kept ++ contents (onTheWay r' v'.dealer (ids i) dv.due)
      = (views i).kept ++ contents (onTheWay r (views i).dealer (ids i) dv.due))
    (shrunk : (onTheWay r' v'.dealer (ids i) dv.due).Sublist
      (onTheWay r (views i).dealer (ids i) dv.due))
    (met : v'.ended = true → (views i).ended = true ∨
      (∃ x ∈ onTheWay r (views i).dealer (ids i) dv.due, x.1 = true) ∧
        ∀ x ∈ onTheWay r' v'.dealer (ids i) dv.due, x.1 = true) :
    Supply n ids (Function.update views i v') dv r' where
  mail := by
    rw [comp_update WorkerView.dealer]
    exact mail
  flow := by
    have other : ∀ j < n, j ≠ i → onTheWay r' (views j).dealer (ids j) dv.due
        = onTheWay r (views j).dealer (ids j) dv.due := by
      intro j hj hne
      unfold onTheWay
      rw [others j hj hne]
    -- Only the worker who takes is concerned: all others have what they had on their way.
    refine supply.flow.pass ?_ ?_ ?_
    · intro j hj
      rcases eq_or_ne j i with rfl | hne
      · rw [Function.update_self]
        exact same
      · rw [Function.update_of_ne hne, other j hj hne]
    · intro j hj
      rcases eq_or_ne j i with rfl | hne
      · rw [Function.update_self]
        exact shrunk
      · rewrite [Function.update_of_ne hne, other j hj hne]
        exact List.Sublist.refl _
    · intro j hj
      rcases eq_or_ne j i with rfl | hne
      · rw [Function.update_self]
        exact met
      · rw [Function.update_of_ne hne]
        exact Or.inl
  waiting := supply.waiting
  due := supply.due
  yielded := supply.yielded

/-- What is first in the mailbox of a worker is first in its stream, and is gone from it when it is
taken. -/
theorem onTheWay_tail (supply : Supply n ids views dv r) (hi : i < n) {s : DealerSocket}
    (own : (views i).dealer = some s) {frames : Frames} {rest : Mailbox}
    (mail : r.mailboxes[s.mailbox]? = some (frames :: rest)) :
    onTheWay r (views i).dealer (ids i) dv.due
      = gist (Message.arrived frames) :: onTheWay
          { r with mailboxes := r.mailboxes.modify s.mailbox List.tail } (views i).dealer (ids i)
          dv.due := by
  have first : mailOf r (views i).dealer = frames :: rest := by
    rw [own]
    simp only [mailOf, mail, Option.getD_some]
  unfold onTheWay
  rw [supply.mail.mailOf_modify hi own List.tail hi, if_pos rfl, first]
  rfl

theorem mail_tail (supply : Supply n ids views dv r) (mailbox : Nat) :
    Mail Message.Letter n ids (fun i => (views i).dealer) (dv.socket.map RouterSocket.number)
      { r with mailboxes := r.mailboxes.modify mailbox List.tail } :=
  supply.mail.modify mailbox fun box hbox frames hframes =>
    supply.mail.letters box hbox frames (List.mem_of_mem_tail hframes)

theorem others_tail (supply : Supply n ids views dv r) (hi : i < n) {s : DealerSocket}
    (own : (views i).dealer = some s) : ∀ j < n, j ≠ i →
      mailOf { r with mailboxes := r.mailboxes.modify s.mailbox List.tail } (views j).dealer
        = mailOf r (views j).dealer := by
  intro j hj hne
  rw [supply.mail.mailOf_modify hi own List.tail hj, if_neg hne]

variable {P : Processor π} {p p' : Pipe} {pn : Option Nat}

/-- A new mailbox is empty, so the mail of everybody is what it was. -/
theorem connect (supply : Supply n ids views dv r) (hi : i < n) {s : DealerSocket}
    (free : (views i).dealer = none)
    (number : dv.socket.map RouterSocket.number = some s.number)
    (mailbox : s.mailbox = r.mailboxes.length) :
    Supply n ids (Function.update views i { views i with dealer := some s }) dv
      { r with
        mailboxes := r.mailboxes ++ [[]]
        peers := (ids i, s.mailbox) :: r.peers.filter fun peer => peer.1 ≠ ids i } := by
  have quiet := fun (j : Nat) (hj : j < n) => supply.mail.mailOf_connect free mailbox
    ((ids i, s.mailbox) :: r.peers.filter fun peer => peer.1 ≠ ids i) hj
  have way : onTheWay
        { r with
          mailboxes := r.mailboxes ++ [[]]
          peers := (ids i, s.mailbox) :: r.peers.filter fun peer => peer.1 ≠ ids i }
        (some s) (ids i) dv.due
      = onTheWay r (views i).dealer (ids i) dv.due := by
    have := quiet i hi
    rw [Function.update_self] at this
    unfold onTheWay
    rw [this]
  refine supply.pass (supply.mail.connect hi free number mailbox) ?_ ?_ ?_ Or.inl
  · intro j hj hne
    have := quiet j hj
    rwa [Function.update_of_ne hne] at this
  · rw [way]
    rfl
  · rewrite [way]
    exact List.Sublist.refl _

/-- Records go from the mailbox of a worker to what it was given. -/
theorem receive (supply : Supply n ids views dv r) (hi : i < n) {s : DealerSocket}
    {frames : Frames} {rest : Mailbox} {m : Message} {records : List Bytes}
    (own : (views i).dealer = some s) (box : r.mailboxes[s.mailbox]? = some (frames :: rest))
    (framed : Message.ofFrames frames = .ok m) (kind : m.kind = .process)
    (content : m.records = .ok records) :
    Supply n ids (Function.update views i { views i with records := (views i).records ++ records })
      dv { r with mailboxes := r.mailboxes.modify s.mailbox List.tail } := by
  have way := supply.onTheWay_tail hi own box
  rw [Message.arrived_of_framed framed] at way
  refine supply.pass ?_ (supply.others_tail hi own) ?_ ?_ Or.inl
  · rw [Function.update_eq_self]
    exact supply.mail_tail s.mailbox
  · rw [way]
    simp [WorkerView.kept, contents, gist, Message.content_of_records kind content]
  · rw [way]
    exact List.sublist_cons_self _ _

/-- Behind the end that a worker takes there were only ends. -/
theorem meetEnd (supply : Supply n ids views dv r) (hi : i < n) {s : DealerSocket}
    {frames : Frames} {rest : Mailbox} {m : Message} (own : (views i).dealer = some s)
    (box : r.mailboxes[s.mailbox]? = some (frames :: rest))
    (framed : Message.ofFrames frames = .ok m) (kind : m.kind = .endOfStream) :
    Supply n ids (Function.update views i { views i with ended := true }) dv
      { r with mailboxes := r.mailboxes.modify s.mailbox List.tail } := by
  have isEnd : (gist m).1 = true := by simp [gist, Message.isEnd, kind]
  have way := supply.onTheWay_tail hi own box
  rw [Message.arrived_of_framed framed] at way
  have ordered := supply.flow.ordered i hi
  simp only [way] at ordered
  refine supply.pass ?_ (supply.others_tail hi own) ?_ ?_ ?_
  · rw [Function.update_eq_self]
    exact supply.mail_tail s.mailbox
  · rw [way]
    simp [WorkerView.kept, contents, gist_blank isEnd]
  · rw [way]
    exact List.sublist_cons_self _ _
  · intro _
    refine Or.inr ⟨⟨gist m, by rw [way]; exact List.mem_cons_self, isEnd⟩, fun x hx => ?_⟩
    exact (List.pairwise_cons.1 ordered).1 x hx isEnd

/-- There is nothing left but ends on the way to a worker that leaves. -/
theorem leave (supply : Supply n ids views dv r) (hi : i < n) {frames : Frames}
    (last : (views i).ended = true)
    (framed : Message.ofFrames frames = .ok (.unregistration (ids i))) :
    Supply n ids (Function.update views i { views i with dealer := none }) dv
      { r with
        inbound := r.inbound ++ [(ids i, frames)]
        peers := r.peers.filter fun peer => peer.1 ≠ ids i } := by
  have word : Word (Known n ids) (.unregistration (ids i)) := .unregistration ⟨i, hi, rfl⟩
  have said : ∀ x ∈ r.inbound ++ [(ids i, frames)], ∃ m, Message.ofFrames x.2 = .ok m ∧
      Word (Known n ids) m := (supply.mail.say framed word).words
  have all := supply.flow.finished i hi last
  have blank := supply.flow.blank i hi
  refine supply.pass (supply.mail.leave i rfl said) (fun _ _ _ => rfl) ?_ ?_ Or.inl
  · have empty : contents ((mailOf r (views i).dealer).map fun frames =>
        gist (Message.arrived frames)) = [] := by
      refine List.flatMap_eq_nil_iff.2 fun x hx => ?_
      have hx := List.mem_append_left (dueTo (ids i) dv.due) hx
      exact blank x hx (all x hx)
    unfold onTheWay
    rw [contents_append, contents_append, empty]
    rfl
  · exact List.sublist_append_right _ _

/-- **Every move of a worker keeps the supply in order.** Those between the worker and the collector
do not matter here. -/
theorem worker (supply : Supply n ids views dv r) (hi : i < n)
    (move : WorkerMove P (ids i) (dv.socket.map RouterSocket.number) pn (views i) r p v' r' p') :
    Supply n ids (Function.update views i v') dv r' := by
  generalize hv : views i = v at move
  cases move with
  | connect free number mailbox =>
    subst hv
    exact supply.connect hi free number mailbox
  | @say m frames word framed =>
    subst hv
    have word' : Word (Known n ids) m := by
      rcases word with rfl | rfl
      · exact .registration ⟨i, hi, rfl⟩
      · exact .dataRequest ⟨i, hi, rfl⟩
    rw [Function.update_eq_self]
    exact ⟨supply.mail.say framed word', supply.flow, supply.waiting, supply.due, supply.yielded⟩
  | receive own box framed kind content =>
    subst hv
    exact supply.receive hi own box framed kind content
  | meetEnd own box framed kind =>
    subst hv
    exact supply.meetEnd hi own box framed kind
  | take first free =>
    subst hv
    refine supply.congr rfl rfl ?_
    unfold WorkerView.kept
    simp [first, free]
  | handle hand free works =>
    subst hv
    refine supply.congr rfl rfl ?_
    unfold WorkerView.kept
    simp [hand]
  | leave own last framed =>
    subst hv
    exact supply.leave hi last framed
  | _ =>
    subst hv
    exact supply.congr rfl rfl rfl

/-- What is handed out is behind all that is on its way already. -/
theorem onTheWay_due (r : Router) (dealer : Option DealerSocket) (id : ClientId)
    (due : List Delivery) :
    onTheWay r dealer id due = onTheWay r dealer id [] ++ dueTo id due := by
  unfold onTheWay
  rw [List.append_assoc]
  rfl

/-- Every client that waits after a call was known before it or is known now. -/
theorem known_accept (supply : Supply n ids views dv r) {c : Call}
    (hc : ∀ id, c = .request id → Known n ids id) :
    ∀ id ∈ (dv.queue.accept c).waiting, Known n ids id := by
  intro id hid
  cases c with
  | send m => exact supply.waiting id hid
  | register other => exact supply.waiting id hid
  | unregister other => exact supply.waiting id (List.mem_filter.1 hid).1
  | request other =>
    rcases List.mem_append.1 hid with hid | hid
    · exact supply.waiting id hid
    · rw [List.mem_singleton.1 hid]
      exact hc other rfl

/-- A call of the queue keeps up the supply, with its deliveries due. -/
theorem call (supply : Supply n ids views dv r)
    (distinct : ∀ i < n, ∀ j < n, ids i = ids j → i = j) {c : Call} {due : List Delivery}
    {after : Queue} {hand heard : List Message} (free : dv.due = [])
    (hsent : ∀ m, c = .send m → m.isEnd = true ∨ m.kind = .process)
    (hc : ∀ id, c = .request id → Known n ids id)
    (content : (dv.queue.accept c).messages.flatMap Message.content ++ hand.flatMap Message.content
      = dv.queue.messages.flatMap Message.content ++ dv.hand.flatMap Message.content)
    (h : dv.queue.call c = (.ok due, after)) :
    Supply n ids views { dv with queue := after, due, hand, heard } r := by
  have served := served_of_call supply.flow.calm hsent h
  have known := supply.known_accept hc
  have hrundown : (dv.queue.accept c).rundown = dv.queue.rundown := by cases c <;> rfl
  have flow := supply.flow.call distinct served (fun x hx => known x.1 (served.asked x hx)) content
    hrundown
  constructor
  case mail => exact supply.mail
  case flow =>
    rw [free] at flow
    simp only [onTheWay_due r _ _ due]
    exact flow
  case waiting => exact fun id hid => known id (served.waiting id hid)
  case due => exact fun x hx => ⟨known x.1 (served.asked x hx), served.kinds x hx⟩
  case yielded => exact supply.yielded

/-- A delivery goes from what is due into a mailbox, and stays on its way. -/
theorem onTheWay_deliver (supply : Supply n ids views dv r)
    (distinct : ∀ i < n, ∀ j < n, ids i = ids j → i = j) (hi : i < n) {s : DealerSocket}
    (own : (views i).dealer = some s) {m : Message} {due : List Delivery} {frames : Frames}
    (same : gist (Message.arrived frames) = gist m) {j : Nat} (hj : j < n) :
    onTheWay { r with mailboxes := r.mailboxes.modify s.mailbox (· ++ [frames]) } (views j).dealer
        (ids j) due
      = onTheWay r (views j).dealer (ids j) ((ids i, m) :: due) := by
  unfold onTheWay
  rw [supply.mail.mailOf_modify hi own _ hj]
  by_cases h : j = i
  · subst h
    simp [dueTo, same]
  · have other : ids i ≠ ids j := fun heq => h (distinct i hi j hj heq).symm
    rw [if_neg h]
    simp [dueTo, other]

/-- What is due to others is on its way to nobody else. -/
theorem sublist_onTheWay_cons (r : Router) (dealer : Option DealerSocket) (id : ClientId)
    (x : Delivery) (due : List Delivery) :
    (onTheWay r dealer id due).Sublist (onTheWay r dealer id (x :: due)) := by
  unfold onTheWay dueTo
  refine (List.Sublist.refl _).append (List.Sublist.map _ ?_)
  exact (List.sublist_cons_self _ _).filter _

/-- What a distributor gets has records that can be read, or none. -/
theorem readable_of_carries {m : Message} (kind : m.isEnd = true ∨ m.Carries)
    (process : m.kind = .process) : ∃ records, m.records = .ok records := by
  rcases kind with isEnd | ⟨-, carries⟩
  · rw [show m.kind = .endOfStream from eq_of_beq isEnd] at process
    cases process
  · exact carries

/-- What is queued of a message is an end or records, and the same as was in it. -/
theorem queued_of_passed {m next : Message} (kind : m.isEnd = true ∨ m.Carries)
    (passes : passed m = [next]) :
    (next.isEnd = true ∨ next.kind = .process) ∧ next.content = m.content := by
  constructor
  · unfold passed at passes
    split at passes
    · split at passes
      · cases passes
      · cases passes
        exact Or.inr rfl
    · next other =>
      cases passes
      exact kind.imp id fun carries => absurd carries.1 other
  · have content := content_passed (readable_of_carries kind)
    rwa [passes, List.flatMap_singleton] at content

/-- Nobody can have connected before the router was bound, so there is no mail to lose. -/
theorem bind (supply : Supply n ids views dv r) (free : dv.socket = none) (d : String)
    (s : RouterSocket) : Supply n ids views { dv with socket := some s } { uri := d } := by
  have mail := supply.mail
  rw [free] at mail
  refine ⟨mail.bind _ d, ?_, supply.waiting, supply.due, supply.yielded⟩
  refine supply.flow.pass (fun j hj => ?_) (fun j hj => ?_) (fun _ _ => Or.inl)
  · unfold onTheWay
    rw [mail.mailOf_bind d hj]
  · unfold onTheWay
    rewrite [mail.mailOf_bind d hj]
    exact List.Sublist.refl _

/-- The mailbox belongs to the worker with this identity, so the stream of each worker is what it
was: the message is only moved from what is due into the mailbox. -/
theorem deliver (supply : Supply n ids views dv r)
    (distinct : ∀ i < n, ∀ j < n, ids i = ids j → i = j) {id : ClientId} {m : Message}
    {due : List Delivery} {mailbox : Nat} {frames : Frames} (first : dv.due = (id, m) :: due)
    (framed : m.toFramesBatched = .ok frames) (peer : r.peers.lookup id = some mailbox) :
    Supply n ids views { dv with due }
      { r with mailboxes := r.mailboxes.modify mailbox (· ++ [frames]) } := by
  have hdue := supply.due (id, m) (by rw [first]; exact List.mem_cons_self)
  obtain ⟨letter, same⟩ := gist_arrived hdue.2 framed
  obtain ⟨before, behind, hpeers, -⟩ := List.lookup_eq_some_iff.1 peer
  have hmem : (id, mailbox) ∈ r.peers := by
    rw [hpeers]
    exact List.mem_append_right _ List.mem_cons_self
  obtain ⟨i, hi, rfl, s, own, rfl⟩ := supply.mail.peers _ hmem
  have way : ∀ j < n,
      onTheWay { r with mailboxes := r.mailboxes.modify s.mailbox (· ++ [frames]) }
        (views j).dealer (ids j) due = onTheWay r (views j).dealer (ids j) ((ids i, m) :: due) :=
    fun j hj => supply.onTheWay_deliver distinct hi own same hj
  constructor
  case mail =>
    refine supply.mail.modify s.mailbox fun box hbox read hread => ?_
    rcases List.mem_append.1 hread with hread | hread
    · exact supply.mail.letters box hbox read hread
    · rw [List.mem_singleton.1 hread]
      exact letter
  case flow =>
    have flow := supply.flow
    rw [first] at flow
    refine flow.pass (fun j hj => ?_) (fun j hj => ?_) (fun _ _ => Or.inl)
    · rw [way j hj]
    · rewrite [way j hj]
      exact List.Sublist.refl _
  case waiting => exact supply.waiting
  case due => exact fun x hx => supply.due x (by rw [first]; exact List.mem_cons_of_mem _ hx)
  case yielded => exact supply.yielded

/-- An end may be lost, and with it no records. -/
theorem skip (supply : Supply n ids views dv r) {id : ClientId} {m : Message} {due : List Delivery}
    (first : dv.due = (id, m) :: due) (isEnd : m.isEnd = true) :
    Supply n ids views { dv with due } r := by
  have flow := supply.flow
  rw [first] at flow
  refine ⟨supply.mail, ?_, supply.waiting, ?_, supply.yielded⟩
  · refine flow.pass (fun j _ => ?_) (fun j _ => ?_) (fun _ _ => Or.inl)
    · unfold onTheWay dueTo
      by_cases h : id = ids j
      · simp [h, contents, gist, Message.content_of_isEnd isEnd]
      · simp [h]
    · exact sublist_onTheWay_cons ..
  · exact fun x hx => supply.due x (by rw [first]; exact List.mem_cons_of_mem _ hx)

/-- **Every move of the distributor keeps the supply in order.** -/
theorem distributor (distinct : ∀ i < n, ∀ j < n, ids i = ids j → i = j) {d : String}
    (move : DistMove d (Known n ids) Message.Carries dv r dv' r')
    (supply : Supply n ids views dv r) : Supply n ids views dv' r' := by
  induction move with
  | still v r => exact supply
  | both _ _ first second => exact second (first supply)
  | bind r s free => exact supply.bind free d s
  | hear _ first _ =>
    exact ⟨supply.mail.hear first, supply.flow, supply.waiting, supply.due, supply.yielded⟩
  | @serve v r m call c due after free heard asks h =>
    refine supply.call distinct free (fun m hm => ?_) (fun id hid => ?_) ?_ h
    · cases asks <;> cases hm
    · cases asks with
      | register _ => cases hid
      | request known =>
        cases hid
        exact known
      | unregister _ => cases hid
    · cases asks <;> rfl
  | @send v r m next due after free hand kind passes h =>
    obtain ⟨hkind, content⟩ := queued_of_passed kind passes
    refine supply.call distinct free (fun m' hm => ?_) (fun id hid => ?_) ?_ h
    · cases hm
      exact hkind
    · cases hid
    · rw [hand]
      -- What is sent contains what was in the hand, so nothing is lost between them.
      simp [Queue.accept, content]
  | @drop v r m hand kind passes =>
    have flow := supply.flow
    rw [hand] at flow
    have content := content_passed (readable_of_carries kind)
    rw [passes] at content
    exact ⟨supply.mail, flow.drop content.symm, supply.waiting, supply.due, supply.yielded⟩
  | deliver first framed peer => exact supply.deliver distinct first framed peer
  | skip _ first isEnd => exact supply.skip first isEnd
  | @yield v r m free running kind =>
    have flow := supply.flow
    rw [free] at flow
    exact ⟨supply.mail, flow.yield m, supply.waiting, supply.due,
      supply.yielded.yield running kind⟩
  | close r _ =>
    exact ⟨supply.mail.close, supply.flow, supply.waiting, supply.due, supply.yielded⟩

/-- **In the end everything that was yielded was given to the workers.** -/
theorem settled (supply : Supply n ids views dv r) (rundown : dv.queue.rundown = true)
    (hand : dv.hand = [])
    (done : ∀ i < n, (views i).ended = true ∧ (views i).hand = [] ∧ (views i).records = []) :
    Dealt n (fun i => (views i).proc.2) (dv.log.flatMap Message.content) := by
  obtain ⟨assigned, dealt, hlog⟩ := supply.flow.dealt
  rw [supply.flow.calm.done rundown, hand] at hlog
  simp only [List.flatMap_nil, List.append_nil] at hlog
  rw [← hlog]
  refine dealt.congr fun i hi => ?_
  obtain ⟨ended, noHand, noRecords⟩ := done i hi
  -- It got the end, so what is still on its way to it are ends.
  have empty : contents (onTheWay r (views i).dealer (ids i) dv.due) = [] := by
    refine List.flatMap_eq_nil_iff.2 fun x hx => ?_
    exact supply.flow.blank i hi x hx (supply.flow.finished i hi ended x hx)
  rw [empty]
  simp [WorkerView.kept, noHand, noRecords]

end Supply

end Farm

end RecordFarm
