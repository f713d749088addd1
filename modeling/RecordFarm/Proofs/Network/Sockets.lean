import RecordFarm.Proofs.Farm.Lines

/-!
# Sockets of every kind

A socket is opened in one of six ways: three kinds can be bound to an address, and three can be
connected to what is bound there. Here is what each way and each use of a socket does to the
network: which channel it concerns, what is found at an address before and after it (`Way.refusal?`,
`Opens`), and what waits in the lanes of the channels (`Lays`). Everything a socket does it does to
its own channel.
-/

namespace RecordFarm

def Attempt.map {α β : Type} (f : α → β) : Attempt α → Attempt β
  | blocked => blocked
  | failed cause => failed cause
  | done result after => done (f result) after

theorem Attempt.of_map {α β : Type} {f : α → β} {attempt : Attempt α} {b : β} {net : Network}
    (h : attempt.map f = .done b net) : ∃ a, attempt = .done a net ∧ f a = b := by
  cases attempt with
  | done a after =>
    cases h
    exact ⟨a, rfl, rfl⟩
  | _ => cases h

/-! ## Channels -/

/-- What sockets share: a router or a pipe. -/
inductive Channel where
  | router (number : Nat)
  | pipe (number : Nat)
  deriving DecidableEq, Repr

def Endpoint.channel : Endpoint → Channel
  | router number => .router number
  | pull number => .pipe number
  | push number => .pipe number

/-- Where something waits in a channel. -/
inductive Lane where
  /-- What dealers ask. -/
  | requests
  /-- What a router answers, in one mailbox. -/
  | answers (mailbox : Nat)
  /-- What goes through a pipe. -/
  | through
  deriving DecidableEq, Repr

def Router.lane (router : Router) : Lane → Mailbox
  | .requests => router.inbound.map Prod.snd
  | .answers mailbox => router.mailboxes[mailbox]?.getD []
  | .through => []

def Pipe.lane (pipe : Pipe) : Lane → Mailbox
  | .through => pipe.queue
  | _ => []

namespace Network

/-- What waits in a lane of a channel. -/
def mail (net : Network) (c : Channel) (lane : Lane) : Mailbox :=
  match c with
  | .router number => (net.routers[number]?.map fun router => router.lane lane).getD []
  | .pipe number => (net.pipes[number]?.map fun pipe => pipe.lane lane).getD []

def Has (net : Network) : Channel → Prop
  | .router number => number < net.routers.length
  | .pipe number => number < net.pipes.length

/-- What waits in one lane has become something else, and nothing else has changed that anybody
could find or receive. -/
structure Lays (net net' : Network) (c : Channel) (lane : Lane) (after : Mailbox) : Prop where
  bound : net'.bound = net.bound
  has : ∀ c, net'.Has c ↔ net.Has c
  mail : ∀ c' lane', net'.mail c' lane'
    = if c' = c ∧ lane' = lane then after else net.mail c' lane'

variable {net : Network} {n : Nat} {router : Router} {pipe : Pipe}

theorem mail_eq_nil {c : Channel} (h : ¬ net.Has c) (lane : Lane) : net.mail c lane = [] := by
  cases c with
  | router number =>
    unfold mail
    simp only [List.getElem?_eq_none (Nat.not_lt.1 h)]
    rfl
  | pipe number =>
    unfold mail
    simp only [List.getElem?_eq_none (Nat.not_lt.1 h)]
    rfl

theorem mail_router (h : net.routers[n]? = some router) (lane : Lane) :
    net.mail (.router n) lane = router.lane lane := by
  unfold mail
  simp only [h]
  rfl

theorem mail_pipe (h : net.pipes[n]? = some pipe) (lane : Lane) :
    net.mail (.pipe n) lane = pipe.lane lane := by
  unfold mail
  simp only [h]
  rfl

theorem has_modifyRouter (change : Router → Router) (c : Channel) :
    (net.modifyRouter n change).Has c ↔ net.Has c := by
  cases c with
  | router number =>
    show number < (net.routers.modify n change).length ↔ _
    rw [List.length_modify]
    rfl
  | pipe number => exact Iff.rfl

theorem has_modifyPipe (change : Pipe → Pipe) (c : Channel) :
    (net.modifyPipe n change).Has c ↔ net.Has c := by
  cases c with
  | router number => exact Iff.rfl
  | pipe number =>
    show number < (net.pipes.modify n change).length ↔ _
    rw [List.length_modify]
    rfl

/-- A router that changes changes its own mail and no other. -/
theorem mail_modifyRouter (net : Network) (n : Nat) (change : Router → Router) (c : Channel)
    (lane : Lane) :
    (net.modifyRouter n change).mail c lane
      = if c = .router n then (net.routers[n]?.map fun router => (change router).lane lane).getD []
        else net.mail c lane := by
  cases c with
  | router number =>
    show ((net.routers.modify n change)[number]?.map _).getD [] = _
    by_cases own : number = n
    · subst own
      rw [if_pos rfl, List.getElem?_modify_eq, Option.map_eq_map, Option.map_map]
      rfl
    · rw [if_neg fun h => own (Channel.router.inj h), List.getElem?_modify_ne _ _ (Ne.symm own)]
      rfl
  | pipe number => exact (if_neg nofun).symm

theorem mail_modifyPipe (net : Network) (n : Nat) (change : Pipe → Pipe) (c : Channel)
    (lane : Lane) :
    (net.modifyPipe n change).mail c lane
      = if c = .pipe n then (net.pipes[n]?.map fun pipe => (change pipe).lane lane).getD []
        else net.mail c lane := by
  cases c with
  | router number => exact (if_neg nofun).symm
  | pipe number =>
    show ((net.pipes.modify n change)[number]?.map _).getD [] = _
    by_cases own : number = n
    · subst own
      rw [if_pos rfl, List.getElem?_modify_eq, Option.map_eq_map, Option.map_map]
      rfl
    · rw [if_neg fun h => own (Channel.pipe.inj h), List.getElem?_modify_ne _ _ (Ne.symm own)]
      rfl

/-- A router that changes in one lane lays that lane only. -/
theorem lays_modifyRouter (h : net.routers[n]? = some router) (change : Router → Router)
    (lane : Lane) {after : Mailbox} (here : (change router).lane lane = after)
    (others : ∀ lane', lane' ≠ lane → (change router).lane lane' = router.lane lane') :
    net.Lays (net.modifyRouter n change) (.router n) lane after where
  bound := rfl
  has := has_modifyRouter change
  mail := by
    intro c lane'
    rw [mail_modifyRouter]
    by_cases own : c = .router n
    · subst own
      rw [if_pos rfl, h, Option.map_some, Option.getD_some]
      by_cases same : lane' = lane
      · rw [if_pos ⟨rfl, same⟩, same, here]
      · rw [if_neg fun h => same h.2, others lane' same, mail_router h]
    · rw [if_neg own, if_neg fun h => own h.1]

/-- A pipe that changes lays its only lane. -/
theorem lays_modifyPipe (h : net.pipes[n]? = some pipe) (change : Pipe → Pipe) {after : Mailbox}
    (here : (change pipe).queue = after) :
    net.Lays (net.modifyPipe n change) (.pipe n) .through after where
  bound := rfl
  has := has_modifyPipe change
  mail := by
    intro c lane'
    rw [mail_modifyPipe]
    by_cases own : c = .pipe n
    · subst own
      rw [if_pos rfl, h, mail_pipe h, Option.map_some, Option.getD_some]
      cases lane' with
      | through => exact here.trans (if_pos ⟨rfl, rfl⟩).symm
      | _ => exact (if_neg fun h => nomatch h.2).symm
    · rw [if_neg own, if_neg fun h => own h.1]

end Network

/-! ## Sockets -/

def RouterSocket.mailboxOf (socket : RouterSocket) (id : ClientId) (net : Network) : Nat :=
  ((net.routers[socket.number]?).bind fun router => router.peers.lookup id).getD 0

inductive Socket where
  | router (socket : RouterSocket)
  | dealer (socket : DealerSocket)
  | pull (socket : PullSocket)
  | push (socket : PushSocket)
  deriving DecidableEq, Repr

namespace Socket

def uri : Socket → String
  | router socket => socket.uri
  | dealer socket => socket.uri
  | pull socket => socket.uri
  | push socket => socket.uri

def isBinder : Socket → Bool
  | router _ => true
  | dealer _ => false
  | pull socket => socket.isBinder
  | push socket => socket.isBinder

def endpoint : Socket → Endpoint
  | router socket => .router socket.number
  | dealer socket => .router socket.number
  | pull socket => if socket.isBinder then .pull socket.number else .push socket.number
  | push socket => if socket.isBinder then .push socket.number else .pull socket.number

def channel (socket : Socket) : Channel := socket.endpoint.channel

theorem channel_pull (socket : PullSocket) :
    (pull socket).channel = .pipe socket.number := by
  simp only [channel, endpoint]
  split <;> rfl

theorem channel_push (socket : PushSocket) :
    (push socket).channel = .pipe socket.number := by
  simp only [channel, endpoint]
  split <;> rfl

/-- Sends frames: to an identity, or to whoever is at the other end. The result is the lane that
they are laid into. A socket that cannot send so never does. -/
def say (to? : Option ClientId) (frames : Frames) (net : Network) : Socket → Attempt Lane
  | router socket =>
    match to? with
    | some id => (socket.sendTo id frames net).map fun _ => .answers (socket.mailboxOf id net)
    | none => .blocked
  | dealer socket =>
    match to? with
    | none => (socket.send frames net).map fun _ => .requests
    | some _ => .blocked
  | pull _ => .blocked
  | push socket =>
    match to? with
    | none => (socket.send frames net).map fun _ => .through
    | some _ => .blocked

/-- Receives frames. The result says from which lane. A socket that cannot receive never does. -/
def hear (net : Network) : Socket → Attempt (Lane × Frames)
  | router socket => (socket.recv net).map fun request => (.requests, request.2)
  | dealer socket => (socket.recv net).map fun frames => (.answers socket.mailbox, frames)
  | pull socket => (socket.recv net).map fun frames => (.through, frames)
  | push _ => .blocked

def close (net : Network) : Socket → Network
  | router socket => socket.close net
  | dealer socket => socket.close net
  | pull socket => socket.close net
  | push socket => socket.close net

end Socket

/-! ### Sending -/

section Sending

variable {net net' : Network} {frames : Frames}

/-- What is sent to an identity is laid into its own lane. -/
theorem RouterSocket.lays_sendTo {socket : RouterSocket} {id : ClientId}
    (h : socket.sendTo id frames net = .done () net') :
    net.Lays net' (.router socket.number) (.answers (socket.mailboxOf id net))
      (net.mail (.router socket.number) (.answers (socket.mailboxOf id net)) ++ [frames]) := by
  unfold sendTo at h
  unfold mailboxOf
  cases hrouter : net.routers[socket.number]? with
  | none => rw [hrouter] at h; cases h
  | some r =>
    rw [Network.mail_router hrouter]
    simp only [hrouter, Option.bind_some] at h ⊢
    cases known : r.peers.lookup id with
    | none => rw [known] at h; cases h
    | some mailbox =>
      cases hbox : r.mailboxes[mailbox]? with
      | none => simp only [known, hbox] at h; cases h
      | some box =>
        simp only [known, hbox, Option.getD_some] at h ⊢
        split at h
        · cases h
          -- The mailbox of the identity grows, and the others stay as they are.
          refine Network.lays_modifyRouter hrouter _ _ ?_ fun lane other => ?_
          · show (r.mailboxes.modify mailbox _)[mailbox]?.getD []
              = r.mailboxes[mailbox]?.getD [] ++ _
            rw [List.getElem?_modify_eq, hbox]
            rfl
          · cases lane with
            | answers box' =>
              show (r.mailboxes.modify mailbox _)[box']?.getD [] = r.mailboxes[box']?.getD []
              rw [List.getElem?_modify_ne _ _ fun same => other (congrArg _ same.symm)]
            | _ => rfl
        · cases h

/-- What a dealer sends is laid with the requests. -/
theorem DealerSocket.lays_send {socket : DealerSocket}
    (h : socket.send frames net = .done () net') :
    net.Lays net' (.router socket.number) .requests
      (net.mail (.router socket.number) .requests ++ [frames]) := by
  unfold send at h
  cases hrouter : net.routers[socket.number]? with
  | none => rw [hrouter] at h; cases h
  | some r =>
    simp only [hrouter] at h
    split at h
    · cases h
    · split at h
      · cases h
        rw [Network.mail_router hrouter]
        refine Network.lays_modifyRouter hrouter _ _ List.map_append fun lane other => ?_
        cases lane with
        | requests => exact absurd rfl other
        | _ => rfl
      · cases h

/-- What is pushed is laid into the pipe. -/
theorem PushSocket.lays_send {socket : PushSocket} (h : socket.send frames net = .done () net') :
    net.Lays net' (.pipe socket.number) .through
      (net.mail (.pipe socket.number) .through ++ [frames]) := by
  unfold send at h
  cases hpipe : net.pipes[socket.number]? with
  | none => rw [hpipe] at h; cases h
  | some pipe =>
    simp only [hpipe, Pipe.send] at h
    split at h
    · cases h
    · split at h
      · cases h
        rw [Network.mail_pipe hpipe]
        exact Network.lays_modifyPipe hpipe _ rfl
      · cases h

/-- **What a socket sends is laid into its own channel.** -/
theorem Socket.lays_say {socket : Socket} {to? : Option ClientId} {lane : Lane}
    (h : socket.say to? frames net = .done lane net') :
    net.Lays net' socket.channel lane (net.mail socket.channel lane ++ [frames]) := by
  cases socket with
  | router socket =>
    cases to? with
    | none => cases h
    | some id =>
      obtain ⟨_, sent, rfl⟩ := Attempt.of_map h
      exact RouterSocket.lays_sendTo sent
  | dealer socket =>
    cases to? with
    | some id => cases h
    | none =>
      obtain ⟨_, sent, rfl⟩ := Attempt.of_map h
      exact DealerSocket.lays_send sent
  | pull socket => cases h
  | push socket =>
    cases to? with
    | some id => cases h
    | none =>
      obtain ⟨_, sent, rfl⟩ := Attempt.of_map h
      rw [channel_push]
      exact PushSocket.lays_send sent

end Sending

/-! ### Receiving -/

section Receiving

variable {net net' : Network} {frames : Frames}

/-- A router takes the request that is first. -/
theorem RouterSocket.lays_recv {socket : RouterSocket} {request : ClientId × Frames}
    (h : socket.recv net = .done request net') :
    ∃ rest, net.mail (.router socket.number) .requests = request.2 :: rest ∧
      net.Lays net' (.router socket.number) .requests rest := by
  unfold recv at h
  cases hrouter : net.routers[socket.number]? with
  | none => rw [hrouter] at h; cases h
  | some r =>
    simp only [hrouter] at h
    split at h
    · cases h
    · next first inbound hinbound =>
      cases h
      rw [Network.mail_router hrouter]
      refine ⟨inbound.map Prod.snd, ?_, Network.lays_modifyRouter hrouter _ _ rfl
        fun lane other => ?_⟩
      · show r.inbound.map Prod.snd = _
        rw [hinbound]
        rfl
      · cases lane with
        | requests => exact absurd rfl other
        | _ => rfl

/-- A dealer takes the answer that is first. -/
theorem DealerSocket.lays_recv {socket : DealerSocket} (h : socket.recv net = .done frames net') :
    ∃ rest, net.mail (.router socket.number) (.answers socket.mailbox) = frames :: rest ∧
      net.Lays net' (.router socket.number) (.answers socket.mailbox) rest := by
  unfold recv at h
  cases hrouter : net.routers[socket.number]? with
  | none => rw [hrouter] at h; cases h
  | some r =>
    simp only [hrouter] at h
    split at h
    · next first rest hbox =>
      cases h
      rw [Network.mail_router hrouter]
      refine ⟨rest, ?_, Network.lays_modifyRouter hrouter _ _ ?_ fun lane other => ?_⟩
      · show r.mailboxes[socket.mailbox]?.getD [] = _
        rw [hbox]
        rfl
      · show (r.mailboxes.modify socket.mailbox _)[socket.mailbox]?.getD [] = _
        rw [List.getElem?_modify_eq, hbox]
        rfl
      · cases lane with
        | answers box =>
          show (r.mailboxes.modify socket.mailbox _)[box]?.getD [] = r.mailboxes[box]?.getD []
          rw [List.getElem?_modify_ne _ _ fun same => other (congrArg _ same.symm)]
        | _ => rfl
    · split at h <;> cases h

/-- A puller takes the row that is first. -/
theorem PullSocket.lays_recv {socket : PullSocket} (h : socket.recv net = .done frames net') :
    ∃ rest, net.mail (.pipe socket.number) .through = frames :: rest ∧
      net.Lays net' (.pipe socket.number) .through rest := by
  unfold recv at h
  cases hpipe : net.pipes[socket.number]? with
  | none => rw [hpipe] at h; cases h
  | some pipe =>
    simp only [hpipe, Pipe.recv] at h
    split at h
    · next first rest hqueue =>
      cases h
      rw [Network.mail_pipe hpipe]
      exact ⟨rest, hqueue, Network.lays_modifyPipe hpipe _ rfl⟩
    · split at h <;> cases h

/-- **What a socket receives has waited in its own channel.** -/
theorem Socket.lays_hear {socket : Socket} {lane : Lane}
    (h : socket.hear net = .done (lane, frames) net') :
    ∃ rest, net.mail socket.channel lane = frames :: rest ∧
      net.Lays net' socket.channel lane rest := by
  cases socket with
  | router socket =>
    obtain ⟨request, received, hresult⟩ := Attempt.of_map h
    cases hresult
    exact RouterSocket.lays_recv received
  | dealer socket =>
    obtain ⟨first, received, hresult⟩ := Attempt.of_map h
    cases hresult
    exact DealerSocket.lays_recv received
  | pull socket =>
    obtain ⟨first, received, hresult⟩ := Attempt.of_map h
    cases hresult
    rw [channel_pull]
    exact PullSocket.lays_recv received
  | push socket => cases h

end Receiving

/-! ### Dropping -/

section Dropping

variable {net : Network}

/-- Unbinding an address frees it and no other. -/
theorem Network.lookup_unbind (net : Network) (own uri : String) :
    (net.unbind own).lookup uri = if uri = own then none else net.lookup uri := by
  by_cases here : uri = own
  · rw [if_pos here, here, lookup_unbind_self]
  · rw [if_neg here, lookup_unbind_of_ne _ here]

theorem Network.has_unbind (net : Network) (uri : String) (c : Channel) :
    (net.unbind uri).Has c ↔ net.Has c := by
  cases c <;> exact Iff.rfl

theorem Network.mail_unbind (net : Network) (uri : String) (c : Channel) (lane : Lane) :
    (net.unbind uri).mail c lane = net.mail c lane := by
  cases c <;> rfl

/-- A puller that closes frees the address if it has bound it. -/
theorem PullSocket.lookup_close (socket : PullSocket) (net : Network) (uri : String) :
    (socket.close net).lookup uri
      = if socket.isBinder = true ∧ uri = socket.uri then none else net.lookup uri := by
  unfold close
  cases socket.isBinder with
  | true =>
    refine (Network.lookup_unbind _ socket.uri uri).trans ?_
    simp only [true_and]
    rfl
  | false => simp

theorem PullSocket.has_close (socket : PullSocket) (net : Network) (c : Channel) :
    (socket.close net).Has c ↔ net.Has c := by
  unfold close
  split
  · rw [Network.has_unbind, Network.has_modifyPipe]
  · exact Iff.rfl

theorem PullSocket.mail_close (socket : PullSocket) (net : Network) (c : Channel) (lane : Lane) :
    (socket.close net).mail c lane = net.mail c lane := by
  unfold close
  split
  · rw [Network.mail_unbind, Network.mail_modifyPipe]
    split
    · next own =>
      rw [own]
      rfl
    · rfl
  · rfl

namespace Socket

/-- **Only a bound socket frees an address, and only its own.** -/
theorem lookup_close (socket : Socket) (net : Network) (uri : String) :
    (socket.close net).lookup uri
      = if socket.isBinder = true ∧ uri = socket.uri then none else net.lookup uri := by
  cases socket with
  | router socket =>
    refine (Network.lookup_unbind _ socket.uri uri).trans ?_
    simp only [isBinder, Socket.uri, true_and]
    rfl
  | dealer socket => exact (if_neg fun h => Bool.false_ne_true h.1).symm
  | pull socket => exact socket.lookup_close net uri
  | push socket =>
    exact PullSocket.lookup_close ⟨socket.number, socket.uri, socket.isBinder⟩ net uri

/-- A channel outlives its sockets. -/
theorem has_close (socket : Socket) (net : Network) (c : Channel) :
    (socket.close net).Has c ↔ net.Has c := by
  cases socket with
  | router socket => exact (Network.has_unbind _ _ c).trans (Network.has_modifyRouter _ c)
  | dealer socket => exact Network.has_modifyRouter _ c
  | pull socket => exact socket.has_close net c
  | push socket =>
    exact PullSocket.has_close ⟨socket.number, socket.uri, socket.isBinder⟩ net c

/-- **A socket that is dropped takes nothing away** but what waits in its own channel, and this only
if it was bound. -/
theorem mail_close (socket : Socket) (net : Network) (c : Channel) (lane : Lane) :
    (socket.close net).mail c lane = net.mail c lane ∨
      (socket.isBinder = true ∧ c = socket.channel) ∧ (socket.close net).mail c lane = [] := by
  cases socket with
  | router socket =>
    have hmail : (socket.close net).mail c lane = _ :=
      (Network.mail_unbind _ _ c lane).trans (Network.mail_modifyRouter net socket.number _ c lane)
    show (socket.close net).mail c lane = _ ∨ _ ∧ (socket.close net).mail c lane = []
    rw [hmail]
    by_cases own : c = .router socket.number
    · subst own
      rw [if_pos rfl]
      cases hrouter : net.routers[socket.number]? with
      | none => exact Or.inr ⟨⟨rfl, rfl⟩, rfl⟩
      | some r =>
        -- Requests are forgotten with the router. Answers can still be fetched.
        rw [Network.mail_router hrouter]
        cases lane with
        | requests => exact Or.inr ⟨⟨rfl, rfl⟩, rfl⟩
        | _ => exact Or.inl rfl
    · exact Or.inl (if_neg own)
  | dealer socket =>
    refine Or.inl ((Network.mail_modifyRouter net socket.number _ c lane).trans ?_)
    split
    · next own =>
      rw [own]
      rfl
    · rfl
  | pull socket => exact Or.inl (socket.mail_close net c lane)
  | push socket =>
    exact Or.inl
      (PullSocket.mail_close ⟨socket.number, socket.uri, socket.isBinder⟩ net c lane)

end Socket

end Dropping

/-! ### Opening -/

inductive Way where
  | bindRouter
  | bindPull
  | bindPush
  | connectDealer (id : ClientId)
  | connectPull
  | connectPush
  deriving DecidableEq, Repr

namespace Way

/-- The role of what a socket is to be connected to. A socket that is to be bound asks for none. -/
def wanted? : Way → Option String
  | connectDealer _ => some "router"
  | connectPull => some "push"
  | connectPush => some "pull"
  | _ => none

/-- Opens a socket. Nobody waits for the address here: to wait changes nothing, so whoever waits is
taken to open his socket later. -/
def attempt (net : Network) (uri : String) : Way → Attempt Socket
  | bindRouter => (RouterSocket.bind net uri).map .router
  | bindPull => (PullSocket.bind net uri).map .pull
  | bindPush => (PushSocket.bind net uri).map .push
  | connectDealer id => ((DealerSocket.connect net uri id).orNotBound uri true).map .dealer
  | connectPull => ((PullSocket.connect net uri).orNotBound uri true).map .pull
  | connectPush => ((PushSocket.connect net uri).orNotBound uri true).map .push

/-- Why no socket can be opened at an address at which this is found. -/
def refusal? (way : Way) (uri : String) (found? : Option Endpoint) : Option TransportError :=
  match way.wanted?, found? with
  | none, none => none
  | none, some _ => some (.addressInUse uri)
  | some _, none => some (.notBound uri)
  | some role, some found =>
    if found.role = role then none else some (.roleMismatch uri role found.role)

end Way

/-- What becomes of a network in which a socket is opened. -/
structure Opens (net net' : Network) (way : Way) (uri : String) (socket : Socket) : Prop where
  named : socket.uri = uri
  binder : socket.isBinder = way.wanted?.isNone
  /-- A socket is connected to what it found. -/
  found : socket.isBinder = false → net.lookup uri = some socket.endpoint
  /-- A socket is bound where nothing was. -/
  free : socket.isBinder = true → net.lookup uri = none
  /-- A bound socket has a channel of its own. -/
  fresh : socket.isBinder = true → ¬ net.Has socket.channel
  lookup : ∀ other,
    net'.lookup other = if other = uri then some socket.endpoint else net.lookup other
  has : ∀ c, net'.Has c ↔ net.Has c ∨ c = socket.channel
  mail : ∀ c lane, net'.mail c lane = net.mail c lane

namespace Network

variable {net : Network}

theorem has_addRouter (router : Router) (bound : List (String × Endpoint)) (c : Channel) :
    Has { net with bound, routers := net.routers ++ [router] } c ↔
      net.Has c ∨ c = .router net.routers.length := by
  cases c with
  | router number =>
    show number < (net.routers ++ [router]).length ↔ _
    rw [List.length_append, List.length_singleton, Nat.lt_succ_iff_lt_or_eq, Channel.router.injEq]
    rfl
  | pipe number => exact (or_iff_left nofun).symm

theorem has_addPipe (pipe : Pipe) (bound : List (String × Endpoint)) (c : Channel) :
    Has { net with bound, pipes := net.pipes ++ [pipe] } c ↔
      net.Has c ∨ c = .pipe net.pipes.length := by
  cases c with
  | router number => exact (or_iff_left nofun).symm
  | pipe number =>
    show number < (net.pipes ++ [pipe]).length ↔ _
    rw [List.length_append, List.length_singleton, Nat.lt_succ_iff_lt_or_eq, Channel.pipe.injEq]
    rfl

/-- What nothing comes of may be added. -/
theorem getD_map_concat {α : Type} (l : List α) {a : α} {f : α → Mailbox} (h : f a = []) (n : Nat) :
    ((l ++ [a])[n]?.map f).getD [] = (l[n]?.map f).getD [] := by
  rcases Nat.lt_trichotomy n l.length with before | rfl | behind
  · rw [List.getElem?_append_left before]
  · rw [List.getElem?_concat_length, List.getElem?_eq_none (Nat.le_refl _), Option.map_some,
      Option.getD_some, h]
    rfl
  · rw [List.getElem?_eq_none (by rw [List.length_append]; exact behind),
      List.getElem?_eq_none (Nat.le_of_lt behind)]

theorem mail_addRouter (uri : String) (bound : List (String × Endpoint)) (c : Channel)
    (lane : Lane) :
    mail { net with bound, routers := net.routers ++ [{ uri }] } c lane = net.mail c lane := by
  cases c with
  | pipe number => rfl
  | router number => exact getD_map_concat net.routers (by cases lane <;> rfl) number

theorem mail_addPipe (uri : String) (bound : List (String × Endpoint)) (c : Channel)
    (lane : Lane) :
    mail { net with bound, pipes := net.pipes ++ [{ uri }] } c lane = net.mail c lane := by
  cases c with
  | router number => rfl
  | pipe number => exact getD_map_concat net.pipes (by cases lane <;> rfl) number

theorem lookup_cons (entries : List (String × Endpoint)) (uri other : String) (e : Endpoint) :
    ((uri, e) :: entries).lookup other = if other = uri then some e else entries.lookup other := by
  rw [List.lookup_cons]
  by_cases here : other = uri
  · rw [if_pos here, here, beq_self_eq_true]
  · rw [if_neg here, beq_false_of_ne here]

end Network

section Opening

variable {net net' : Network} {uri : String} {way : Way} {socket : Socket}

/-- A socket that is bound puts itself into the registry. -/
theorem Opens.bind (binds : way.wanted? = none) (free : net.lookup uri = none)
    (named : socket.uri = uri) (bound : socket.isBinder = true) (fresh : ¬ net.Has socket.channel)
    (entered : net'.bound = (uri, socket.endpoint) :: net.bound)
    (has : ∀ c, net'.Has c ↔ net.Has c ∨ c = socket.channel)
    (mail : ∀ c lane, net'.mail c lane = net.mail c lane) : Opens net net' way uri socket where
  named := named
  binder := by rw [bound, binds]; rfl
  found := fun connected => by cases bound.symm.trans connected
  free := fun _ => free
  fresh := fun _ => fresh
  lookup := by
    intro other
    unfold Network.lookup
    rw [entered]
    exact Network.lookup_cons net.bound uri other _
  has := has
  mail := mail

/-- A socket that is connected leaves the registry as it is. -/
theorem Opens.connect {role : String} (connects : way.wanted? = some role)
    (hfound : net.lookup uri = some socket.endpoint) (named : socket.uri = uri)
    (connected : socket.isBinder = false) (placed : net.Has socket.channel)
    (kept : net'.bound = net.bound) (has : ∀ c, net'.Has c ↔ net.Has c)
    (mail : ∀ c lane, net'.mail c lane = net.mail c lane) : Opens net net' way uri socket where
  named := named
  binder := by rw [connected, connects]; rfl
  found := fun _ => hfound
  free := fun bound => by cases bound.symm.trans connected
  fresh := fun bound => by cases bound.symm.trans connected
  lookup := by
    intro other
    have same : net'.lookup other = net.lookup other := by
      unfold Network.lookup
      rw [kept]
    rw [same]
    split
    · next here => rw [here, hfound]
    · rfl
  has := by
    intro c
    rw [has, iff_self_or]
    rintro rfl
    exact placed
  mail := mail

/-- **Every refusal is one of three**, and changes nothing. -/
theorem Way.attempt_of_refusal {cause : TransportError}
    (h : way.refusal? uri (net.lookup uri) = some cause) : way.attempt net uri = .failed cause := by
  unfold refusal? at h
  cases hfound : net.lookup uri with
  | none =>
    rw [hfound] at h
    cases way <;> cases h <;>
      simp [attempt, DealerSocket.connect, PullSocket.connect, PushSocket.connect, hfound,
        Attempt.orNotBound, Attempt.map]
  | some found =>
    rw [hfound] at h
    cases way with
    | bindRouter =>
      cases h
      simp [attempt, RouterSocket.bind, Network.isBound, hfound, Attempt.map]
    | bindPull =>
      cases h
      simp [attempt, PullSocket.bind, Network.isBound, hfound, Attempt.map]
    | bindPush =>
      cases h
      simp [attempt, PushSocket.bind, Network.isBound, hfound, Attempt.map]
    | connectDealer id =>
      cases found <;> cases h <;>
        simp [attempt, DealerSocket.connect, hfound, Attempt.orNotBound, Attempt.map]
    | connectPull =>
      cases found <;> cases h <;>
        simp [attempt, PullSocket.connect, hfound, Attempt.orNotBound, Attempt.map]
    | connectPush =>
      cases found <;> cases h <;>
        simp [attempt, PushSocket.connect, hfound, Attempt.orNotBound, Attempt.map]

/-- A socket is bound to a free address. -/
theorem Way.opens_of_free (binds : way.wanted? = none) (free : net.lookup uri = none) :
    ∃ socket net', way.attempt net uri = .done socket net' ∧ Opens net net' way uri socket := by
  have notBound : net.isBound uri = false := by
    unfold Network.isBound
    rw [free]
    rfl
  -- The number of a new channel is the number of those that there are.
  cases way with
  | bindRouter =>
    refine ⟨_, _, by simp only [attempt, RouterSocket.bind, notBound]; rfl, ?_⟩
    exact .bind binds free rfl rfl (Nat.lt_irrefl _) rfl (Network.has_addRouter _ _)
      (Network.mail_addRouter uri _)
  | bindPull =>
    refine ⟨_, _, by simp only [attempt, PullSocket.bind, notBound]; rfl, ?_⟩
    exact .bind binds free rfl rfl (Nat.lt_irrefl _) rfl (Network.has_addPipe _ _)
      (Network.mail_addPipe uri _)
  | bindPush =>
    refine ⟨_, _, by simp only [attempt, PushSocket.bind, notBound]; rfl, ?_⟩
    exact .bind binds free rfl rfl (Nat.lt_irrefl _) rfl (Network.has_addPipe _ _)
      (Network.mail_addPipe uri _)
  | _ => cases binds

/-- A socket is connected to what it asks for. -/
theorem Way.opens_of_found {found : Endpoint} (connects : way.wanted? = some found.role)
    (hfound : net.lookup uri = some found) (placed : net.Has found.channel) :
    ∃ socket net', way.attempt net uri = .done socket net' ∧ Opens net net' way uri socket := by
  cases way with
  | connectDealer id =>
    cases found with
    | router n =>
      obtain ⟨r, hrouter⟩ : ∃ r, net.routers[n]? = some r :=
        ⟨_, List.getElem?_eq_getElem placed⟩
      refine ⟨.dealer ⟨n, r.mailboxes.length, id, uri⟩, _, by
        simp only [attempt, DealerSocket.connect, hfound, hrouter]; rfl, ?_⟩
      refine .connect connects hfound rfl rfl placed rfl (Network.has_modifyRouter _)
        fun c lane => ?_
      rw [Network.mail_modifyRouter]
      split
      · next own =>
        rw [own, hrouter, Network.mail_router hrouter]
        cases lane with
        | answers mailbox =>
          -- Its mailbox is a new one, behind the others.
          have added := Network.getD_map_concat r.mailboxes (f := fun box => box) rfl mailbox
          rwa [Option.map_id', Option.map_id'] at added
        | _ => rfl
      · rfl
    | _ => simp [wanted?, Endpoint.role] at connects
  | connectPull =>
    cases found with
    | push n =>
      refine ⟨.pull ⟨n, uri, false⟩, net, by
        simp only [attempt, PullSocket.connect, hfound]; rfl, ?_⟩
      exact .connect connects hfound rfl rfl placed rfl (fun _ => Iff.rfl) fun _ _ => rfl
    | _ => simp [wanted?, Endpoint.role] at connects
  | connectPush =>
    cases found with
    | pull n =>
      refine ⟨.push ⟨n, uri, false⟩, net, by
        simp only [attempt, PushSocket.connect, hfound]; rfl, ?_⟩
      exact .connect connects hfound rfl rfl placed rfl (fun _ => Iff.rfl) fun _ _ => rfl
    | _ => simp [wanted?, Endpoint.role] at connects
  | _ => cases connects

/-- **What is not refused is done**, where every address leads to a channel. -/
theorem Way.opens_of_refusal (placed : ∀ e, net.lookup uri = some e → net.Has e.channel)
    (h : way.refusal? uri (net.lookup uri) = none) :
    ∃ socket net', way.attempt net uri = .done socket net' ∧ Opens net net' way uri socket := by
  unfold refusal? at h
  cases hwanted : way.wanted? with
  | none =>
    cases hfound : net.lookup uri with
    | none => exact opens_of_free hwanted hfound
    | some found =>
      rw [hwanted, hfound] at h
      cases h
  | some role =>
    cases hfound : net.lookup uri with
    | none =>
      rw [hwanted, hfound] at h
      cases h
    | some found =>
      rw [hwanted, hfound] at h
      simp only [ite_eq_left_iff, reduceCtorEq, imp_false, not_not] at h
      exact opens_of_found (hwanted.trans (congrArg some h.symm)) hfound (placed found hfound)

end Opening

end RecordFarm
