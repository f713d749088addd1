import RecordFarm.Network
import RecordFarm.Proofs.Service.Membership

/-!
# What a peer says in a session

A peer may be called by anybody, in any order, and between its steps the rest of the network may do
what it likes, as long as the endpoint that hears the peer is there (`Talk`). Of the peer it has to
be known what it does with each step: nothing that is heard, or it says the next word
(`Peer`). Then all that it has ever said is in order (`Peer.known_of_talk`), and paired when the
peer has been given up (`Peer.paired`).

Under which identity it speaks is decided by the call that connects it first. Before that call it
has said nothing, so it does not matter who called it.
-/

namespace RecordFarm

/-- An endpoint that hears a peer. -/
structure Ear (β : Type) where
  /-- The endpoint is there. -/
  IsOpen : Network → Prop
  /-- What is queued at the endpoint. -/
  queue : Network → List β
  /-- The frames of what is queued. -/
  read : β → Frames

variable {κ σ τ α β : Type}

/-- The calls that were made, the one that is being served last. -/
def Session.calls (s : Session κ σ τ α) : List κ :=
  s.answered.map Prod.fst ++ (s.current.map Prod.fst).toList

/-- The identity that a server has after these calls, if one of them was to connect: the one that
it was given, or that of who connected it first. -/
def adopted (connects : κ → Bool) (given : Option ClientId) (calls : List (By κ)) :
    Option ClientId :=
  (calls.find? fun asked => connects asked.call).map fun asked => given.getD asked.caller

/-- Everything that may happen to a peer which starts as `first`, and what it has said meanwhile.
Nothing is asked of it once it has been given up. -/
inductive Talk (A : Service Network (By κ) σ τ α) (ear : Ear β) (allowed : κ → Prop)
    (ends : κ → Bool) (first : σ) : Session (By κ) σ τ α → Network → List β → Prop where
  | start {net : Network} (opened : ear.IsOpen net) :
      Talk A ear allowed ends first { server := first } net []
  /-- Somebody makes a call. -/
  | ask {s : Session (By κ) σ τ α} {net : Network} {log : List β} (asked : By κ)
      (before : Talk A ear allowed ends first s net log) (idle : s.current = none)
      (may : allowed asked.call) (kept : ∀ a ∈ s.answered, ends a.1.call = false) :
      Talk A ear allowed ends first (s.ask A asked) net log
  /-- The peer makes a step. What it says is what has come to the queue. -/
  | step {s : Session (By κ) σ τ α} {net : Network} {log : List β}
      (before : Talk A ear allowed ends first s net log) :
      Talk A ear allowed ends first (s.step A net).1 (s.step A net).2
        (log ++ (ear.queue (s.step A net).2).drop (ear.queue net).length)
  /-- Others do something. -/
  | others {s : Session (By κ) σ τ α} {net net' : Network} {log : List β}
      (before : Talk A ear allowed ends first s net log) (opened : ear.IsOpen net') :
      Talk A ear allowed ends first s net' log

/-! ## What a step comes to -/

/-- What a peer says in one step: nothing or a word. Only in a call that connects it can it say
something before it is a member. -/
inductive Says (read : β → Frames) (Own : ClientId → β → Prop) (id : ClientId) (connects : Bool) :
    Bool → List β → Bool → Prop where
  | nothing (present : Bool) : Says read Own id connects present [] present
  | word {present after : Bool} {w : β} (word : Utterance read id present w after) (own : Own id w)
      (greets : present = false → connects = true) :
      Says read Own id connects present [w] after

/-- What a step of a peer comes to: it says something that is queued, and stands somewhere. When it
has been given up it is no member. -/
inductive Fares (ear : Ear β) (Own : ClientId → β → Prop) (connects ends : κ → Bool)
    (Stands : ClientId → Option (κ × τ) → σ → Bool → Prop) (id : ClientId) (call : κ) (task : τ)
    (present : Bool) (net : Network) (after : Progress τ α × σ × Network) : Prop where
  | intro {said : List β} {present' : Bool} (opened : ear.IsOpen after.2.2)
      (queued : ear.queue after.2.2 = ear.queue net ++ said)
      (speech : Says ear.read Own id (connects call) present said present')
      (stands : Stands id ((after.1.pending task).map fun rest => (call, rest)) after.2.1 present')
      (ended : ends call = true → after.1.pending task = none → present' = false) :
      Fares ear Own connects ends Stands id call task present net after

section Fares

variable {ear : Ear β} {Own : ClientId → β → Prop} {connects ends : κ → Bool}
  {Stands : ClientId → Option (κ × τ) → σ → Bool → Prop} {id : ClientId} {call : κ} {task : τ}
  {present : Bool} {net net' : Network} {progress : Progress τ α} {s : σ}

/-- A call that does not give the peer up leaves it what it was. -/
theorem Fares.keeps (kept : ends call = false) :
    ends call = true → progress.pending task = none → present = false := by
  intro gives
  rw [kept] at gives
  cases gives

/-- A call that goes on has not given the peer up yet. -/
theorem Fares.goesOn {rest : τ} (pending : progress.pending task = some rest) :
    ends call = true → progress.pending task = none → present = false := by
  intro _ answered
  rw [pending] at answered
  cases answered

/-- A step in which nothing is heard. -/
theorem Fares.quiet (opened : ear.IsOpen net') (queued : ear.queue net' = ear.queue net)
    (stands : Stands id ((progress.pending task).map fun rest => (call, rest)) s present)
    (ended : ends call = true → progress.pending task = none → present = false) :
    Fares ear Own connects ends Stands id call task present net (progress, s, net') :=
  .intro opened (queued.trans (List.append_nil _).symm) (.nothing present) stands ended

/-- A step that leaves the network alone. -/
theorem Fares.nothing (opened : ear.IsOpen net)
    (stands : Stands id ((progress.pending task).map fun rest => (call, rest)) s present)
    (ended : ends call = true → progress.pending task = none → present = false) :
    Fares ear Own connects ends Stands id call task present net (progress, s, net) :=
  .quiet opened rfl stands ended

end Fares

/-- A server that says words in each of its steps. -/
structure Peer (A : Service Network κ σ τ α) (ear : Ear β) (connects ends : κ → Bool)
    (named : ClientId → σ → σ) (allowed : κ → Prop) (Own : ClientId → β → Prop) where
  /-- Where the server stands when it has this identity and serves this call, and whether it is a
  member. -/
  Stands : ClientId → Option (κ × τ) → σ → Bool → Prop
  /-- A peer that is no member, and has not begun to connect, has no use for an identity. -/
  anew : ∀ {id id' : ClientId} {current : Option (κ × τ)} {s : σ}, Stands id current s false →
    (∀ call task, current = some (call, task) → connects call = true → task = A.start call) →
    Stands id' current s false
  ask : ∀ {id : ClientId} {s : σ} {present : Bool} {call : κ}, allowed call →
    Stands id none s present → Stands id (some (call, A.start call)) s present
  step : ∀ {id : ClientId} {call : κ} {task : τ} {s : σ} {present : Bool} {net : Network},
    ear.IsOpen net → Stands id (some (call, task)) s present →
    Fares ear Own connects ends Stands id call task present net (A.step task (named id s) net)

/-! ## Sessions of a server that takes its identity from a caller -/

theorem Session.calls_ask (A : Service Network κ σ τ α) {s : Session κ σ τ α}
    (idle : s.current = none) (call : κ) : (s.ask A call).calls = s.calls ++ [call] := by
  simp [calls, ask, idle]

theorem Session.calls_step (A : Service Network κ σ τ α) (s : Session κ σ τ α) (net : Network) :
    (s.step A net).1.calls = s.calls := by
  unfold step
  split
  · rfl
  · next call task hcurrent =>
    split <;> simp [calls, hcurrent]

/-- The first identity that is adopted stays. -/
theorem adopted_snoc_of_some {connects : κ → Bool} {given : Option ClientId} {calls : List (By κ)}
    {id : ClientId} (h : adopted connects given calls = some id) (asked : By κ) :
    adopted connects given (calls ++ [asked]) = some id := by
  unfold adopted at h ⊢
  obtain ⟨first, hfirst, rfl⟩ := Option.map_eq_some_iff.1 h
  rw [List.find?_append, hfirst]
  rfl

/-- The first call that connects decides. -/
theorem adopted_snoc_of_none {connects : κ → Bool} {given : Option ClientId} {calls : List (By κ)}
    (h : ∀ asked ∈ calls, connects asked.call = false) (asked : By κ) :
    adopted connects given (calls ++ [asked]) =
      if connects asked.call then some (given.getD asked.caller) else none := by
  have hnone : calls.find? (fun asked => connects asked.call) = none := by
    rw [List.find?_eq_none]
    intro asked hasked
    rw [h asked hasked]
    exact Bool.false_ne_true
  unfold adopted
  rw [List.find?_append, hnone, List.find?_singleton]
  cases connects asked.call <;> rfl

/-- One step of a session, told by the step of the server underneath. -/
theorem Session.step_adopting (A : Service Network κ σ τ α) (connects : κ → Bool)
    (named : ClientId → σ → σ) {server : Adopting σ} {asked : By κ} {task : τ}
    (answered : List (By κ × Except Error α)) {net : Network} {r : Progress τ α × σ × Network}
    (hr : A.step task (named (server.identity asked.caller) server.server) net = r) :
    ∃ more : List (By κ × Except Error α),
      Session.step (A.adopting connects named) ⟨server, some (asked, asked, task), answered⟩ net =
        (⟨⟨if connects asked.call then some (server.identity asked.caller) else server.fixed,
            r.2.1⟩, (r.1.pending task).map fun rest => (asked, asked, rest),
          answered ++ more⟩, r.2.2) ∧
      (∀ a ∈ more, a.1 = asked) ∧ (more ≠ [] → r.1.pending task = none) := by
  obtain ⟨progress, after, net'⟩ := r
  simp only [Session.step, Service.adopting, hr]
  cases progress with
  | finished result => exact ⟨[(asked, result)], rfl, by simp, fun _ => rfl⟩
  | _ => exact ⟨[], by simp [Progress.mapTask, Progress.pending], by simp, by simp⟩

namespace Peer

variable {A : Service Network κ σ τ α} {ear : Ear β} {connects ends : κ → Bool}
  {named : ClientId → σ → σ} {allowed : κ → Prop} {Own : ClientId → β → Prop}

/-- What is known of a peer that has, or will have, this identity. -/
structure Known (P : Peer A ear connects ends named allowed Own) (given : Option ClientId)
    (id : ClientId) (s : Session (By κ) (Adopting σ) (By κ × τ) α) (net : Network)
    (log : List β) (present : Bool) : Prop where
  opened : ear.IsOpen net
  current : ∀ asked task, s.current = some (asked, task) → task.1 = asked
  stands : P.Stands id (s.current.map fun c => (c.1.call, c.2.2)) s.server.server present
  orderly : Orderly ear.read id log present
  own : ∀ w ∈ log, Own id w
  /-- It was connected under this identity, or it has not begun to connect and is silent. -/
  adopts : s.server.fixed = some id ∧ adopted connects given s.calls = some id ∨
    s.server.fixed = given ∧ present = false ∧ log = [] ∧
      (∀ a ∈ s.answered, connects a.1.call = false) ∧
      ∀ asked task, s.current = some (asked, task) → connects asked.call = true →
        task.2 = A.start asked.call
  gone : (∃ a ∈ s.answered, ends a.1.call = true) → s.current = none ∧ present = false

variable {P : Peer A ear connects ends named allowed Own} {given : Option ClientId}
  {id : ClientId} {s : Session (By κ) (Adopting σ) (By κ × τ) α} {net : Network} {log : List β}
  {present : Bool}

theorem Known.start {first : σ} (stands : P.Stands id none first false) (opened : ear.IsOpen net) :
    P.Known given id { server := { fixed := given, server := first } } net [] false where
  opened := opened
  current := nofun
  stands := stands
  orderly := .silent
  own := fun _ h => absurd h List.not_mem_nil
  adopts := Or.inr ⟨rfl, rfl, rfl, fun _ h => absurd h List.not_mem_nil, nofun⟩
  gone := by rintro ⟨a, ha, -⟩; cases ha

/-- A member that is known may ask for anything that is allowed. -/
theorem Known.ask (known : P.Known given id s net log present) (idle : s.current = none)
    {asked : By κ} (may : allowed asked.call) (kept : ∀ a ∈ s.answered, ends a.1.call = false) :
    P.Known given id (s.ask (A.adopting connects named) asked) net log present where
  opened := known.opened
  current := by
    intro asked' task h
    cases h
    rfl
  stands := by
    have stands := known.stands
    rw [idle] at stands
    exact P.ask may stands
  orderly := known.orderly
  own := known.own
  adopts := by
    rcases known.adopts with ⟨fixed, hadopted⟩ | ⟨fixed, absent, silent, apart, -⟩
    · refine Or.inl ⟨fixed, ?_⟩
      rw [Session.calls_ask _ idle]
      exact adopted_snoc_of_some hadopted asked
    · refine Or.inr ⟨fixed, absent, silent, apart, ?_⟩
      intro asked' task h _
      cases h
      rfl
  gone := by
    rintro ⟨a, ha, hends⟩
    rw [kept a ha] at hends
    cases hends

/-- The identity under which a peer makes its next step. A peer that is not connected goes by that
of its caller, unless it is just being connected. -/
theorem Known.identity (known : P.Known given id s net log present) {asked : By κ} {task : By κ × τ}
    (hcurrent : s.current = some (asked, task))
    (hid : ∀ id', adopted connects given s.calls = some id' → id' = id) :
    (s.server.identity asked.caller = id ∧ adopted connects given s.calls = some id ∧
        (connects asked.call = false → s.server.fixed = some id)) ∨
      connects asked.call = false ∧ s.server.fixed = given ∧ present = false ∧ log = [] ∧
        ∀ a ∈ s.answered, connects a.1.call = false := by
  unfold Adopting.identity
  rcases known.adopts with ⟨fixed, hadopted⟩ | ⟨fixed, absent, silent, apart, -⟩
  · rw [fixed]
    exact Or.inl ⟨rfl, hadopted, fun _ => rfl⟩
  · cases hconnects : connects asked.call with
    | false => exact Or.inr ⟨rfl, fixed, absent, silent, apart⟩
    | true =>
      have earlier : ∀ asked ∈ s.answered.map Prod.fst, connects asked.call = false := by
        intro asked' h
        obtain ⟨a, ha, rfl⟩ := List.mem_map.1 h
        exact apart a ha
      have decided : adopted connects given s.calls = some (given.getD asked.caller) := by
        have hcalls : s.calls = s.answered.map Prod.fst ++ [asked] := by
          unfold Session.calls
          rw [hcurrent]
          rfl
        rw [hcalls, adopted_snoc_of_none earlier, if_pos hconnects]
      have same := hid _ decided
      rw [same] at decided
      rw [fixed]
      exact Or.inl ⟨same, decided, nofun⟩

/-- What a peer says keeps its words in order. -/
theorem says_orderly {said : List β} {present' : Bool} {connects : Bool}
    (speech : Says ear.read Own id connects present said present')
    (orderly : Orderly ear.read id log present) (own : ∀ w ∈ log, Own id w) :
    Orderly ear.read id (log ++ said) present' ∧ ∀ w ∈ log ++ said, Own id w := by
  cases speech with
  | nothing =>
    rw [List.append_nil]
    exact ⟨orderly, own⟩
  | word word hown greets =>
    refine ⟨orderly.say word, fun w hw => ?_⟩
    rcases List.mem_append.1 hw with hw | hw
    · exact own w hw
    · rw [List.mem_singleton.1 hw]
      exact hown

section Steps

variable {server : Adopting σ} {asked : By κ} {task : τ}
  {answered more : List (By κ × Except Error α)} {r : Progress τ α × σ × Network}
  {said : List β} {present' : Bool} {fixed : Option ClientId}

/-- What is known after a step of the server underneath. -/
theorem Known.stepped
    (known : P.Known given id ⟨server, some (asked, asked, task), answered⟩ net log present)
    (opened : ear.IsOpen r.2.2)
    (stands : P.Stands id ((r.1.pending task).map fun rest => (asked.call, rest)) r.2.1 present')
    (ended : ends asked.call = true → r.1.pending task = none → present' = false)
    (hmore : ∀ a ∈ more, a.1 = asked) (hleft : more ≠ [] → r.1.pending task = none)
    (orderly : Orderly ear.read id (log ++ said) present') (own : ∀ w ∈ log ++ said, Own id w)
    (adopts : fixed = some id ∧
        adopted connects given (Session.calls ⟨server, some (asked, asked, task), answered⟩)
          = some id ∨
      connects asked.call = false ∧ fixed = given ∧ present' = false ∧ log ++ said = [] ∧
        ∀ a ∈ answered, connects a.1.call = false)
    (hcalls : Session.calls (⟨⟨fixed, r.2.1⟩,
        (r.1.pending task).map fun rest => (asked, asked, rest), answered ++ more⟩ :
          Session (By κ) (Adopting σ) (By κ × τ) α)
      = Session.calls ⟨server, some (asked, asked, task), answered⟩) :
    P.Known given id ⟨⟨fixed, r.2.1⟩, (r.1.pending task).map fun rest => (asked, asked, rest),
      answered ++ more⟩ r.2.2 (log ++ said) present' where
  opened := opened
  current := by
    intro asked' rest h
    obtain ⟨rest', -, heq⟩ := Option.map_eq_some_iff.1 h
    cases heq
    rfl
  stands := by
    rw [Option.map_map]
    exact stands
  orderly := orderly
  own := own
  adopts := by
    rw [hcalls]
    rcases adopts with ⟨hfixed, decided⟩ | ⟨apart, hfixed, absent, silent, earlier⟩
    · exact Or.inl ⟨hfixed, decided⟩
    · refine Or.inr ⟨hfixed, absent, silent, ?_, ?_⟩
      · intro a ha
        rcases List.mem_append.1 ha with ha | ha
        · exact earlier a ha
        · rw [hmore a ha]
          exact apart
      · intro asked' rest h hconnects
        obtain ⟨rest', -, heq⟩ := Option.map_eq_some_iff.1 h
        cases heq
        rw [apart] at hconnects
        cases hconnects
  gone := by
    rintro ⟨a, ha, hends⟩
    rcases List.mem_append.1 ha with ha | ha
    · cases (known.gone ⟨a, ha, hends⟩).1
    · have finished := hleft (List.ne_nil_of_mem ha)
      rw [hmore a ha] at hends
      exact ⟨by rw [finished]; rfl, ended hends finished⟩

end Steps

/-- A step keeps what is known, if the identity is the one that the first connecting call
decided. -/
theorem Known.step (known : P.Known given id s net log present)
    (hid : ∀ id', adopted connects given s.calls = some id' → id' = id) :
    ∃ present', P.Known given id (s.step (A.adopting connects named) net).1
      (s.step (A.adopting connects named) net).2
      (log ++ (ear.queue (s.step (A.adopting connects named) net).2).drop (ear.queue net).length)
      present' := by
  obtain ⟨server, current, answered⟩ := s
  cases current with
  | none =>
    refine ⟨present, ?_⟩
    show P.Known given id _ net (log ++ (ear.queue net).drop (ear.queue net).length) present
    rw [List.drop_length, List.append_nil]
    exact known
  | some c =>
  obtain ⟨asked', asked, task⟩ := c
  obtain rfl : asked = asked' := known.current asked' (asked, task) rfl
  have hcalls := Session.calls_step (A.adopting connects named)
    ⟨server, some (asked, asked, task), answered⟩ net
  obtain ⟨r, hr⟩ : ∃ r, A.step task (named (server.identity asked.caller) server.server) net = r :=
    ⟨_, rfl⟩
  obtain ⟨more, hstep, hmore, hleft⟩ := Session.step_adopting A connects named answered hr
  rw [hstep] at hcalls ⊢
  rcases known.identity rfl hid with
    ⟨same, decided, fixed⟩ | ⟨apart, fixed, absent, silent, earlier⟩
  · -- The peer speaks under the identity that has been decided.
    have same : server.identity asked.caller = id := same
    have fares := P.step known.opened known.stands
    rw [← same, hr, same] at fares
    obtain ⟨opened, queued, speech, stands, ended⟩ := fares
    obtain ⟨orderly, own⟩ := says_orderly speech known.orderly known.own
    simp only [queued, List.drop_left]
    refine ⟨_, known.stepped opened stands ended hmore hleft orderly own (Or.inl ⟨?_, decided⟩)
      hcalls⟩
    split
    · rw [same]
    · next hconnects => exact fixed (Bool.eq_false_iff.2 hconnects)
  · -- It is not connected, and says nothing under its caller's identity.
    have stands := known.stands
    rw [absent] at stands
    have anyone : P.Stands (server.identity asked.caller) (some (asked.call, task)) server.server
        false := by
      refine P.anew stands fun call rest h hconnects => ?_
      cases h
      rw [apart] at hconnects
      cases hconnects
    have fares := P.step known.opened anyone
    rw [hr] at fares
    obtain ⟨opened, queued, speech, stands', ended⟩ := fares
    cases speech with
    | word _ _ greets =>
      rw [apart] at greets
      cases greets rfl
    | nothing =>
    have unconnected : ∀ call rest, Option.map (fun rest => (asked.call, rest)) (r.1.pending task)
        = some (call, rest) → connects call = true → rest = A.start call := by
      intro call rest h hconnects
      obtain ⟨rest', -, heq⟩ := Option.map_eq_some_iff.1 h
      cases heq
      rw [apart] at hconnects
      cases hconnects
    subst silent
    have orderly : Orderly ear.read id ([] ++ []) false := .silent
    simp only [queued, List.drop_left]
    refine ⟨false, known.stepped opened (P.anew stands' unconnected) ended hmore hleft orderly
      (fun _ h => absurd h List.not_mem_nil) (Or.inr ⟨apart, ?_, rfl, rfl, earlier⟩) hcalls⟩
    rw [apart]
    exact fixed

/-- What is known of a peer at every moment. Induction on what happened. -/
theorem known_of_talk (P : Peer A ear connects ends named allowed Own) {first : σ}
    (fresh : ∀ id, P.Stands id none first false)
    (talk : Talk (A.adopting connects named) ear allowed ends { fixed := given, server := first }
      s net log) (id : ClientId)
    (hid : ∀ id', adopted connects given s.calls = some id' → id' = id) :
    ∃ present, P.Known given id s net log present := by
  induction talk with
  | start opened => exact ⟨false, .start (fresh id) opened⟩
  | ask asked before idle may kept ih =>
    obtain ⟨present, known⟩ := ih fun id' h => hid id' <| by
      rw [Session.calls_ask _ idle]
      exact adopted_snoc_of_some h asked
    exact ⟨present, known.ask idle may kept⟩
  | step before ih =>
    rw [Session.calls_step] at hid
    obtain ⟨present, known⟩ := ih hid
    exact known.step hid
  | others before opened ih =>
    obtain ⟨present, known⟩ := ih hid
    exact ⟨present, { known with opened }⟩

/-- **A peer that has been given up has left nothing behind.** What it has said is paired, under the
identity that was decided when it was first connected; if it never was, it has said nothing. -/
theorem paired (P : Peer A ear connects ends named allowed Own) {first : σ}
    (fresh : ∀ id, P.Stands id none first false)
    (talk : Talk (A.adopting connects named) ear allowed ends { fixed := given, server := first }
      s net log) (left : ∃ a ∈ s.answered, ends a.1.call = true) :
    (adopted connects given s.calls = none → log = []) ∧
      ∀ id, adopted connects given s.calls = some id →
        Paired id (log.map ear.read) ∧ ∀ w ∈ log, Own id w := by
  constructor
  · intro never
    obtain ⟨present, known⟩ := P.known_of_talk fresh talk default fun id' h => by
      rw [never] at h
      cases h
    rcases known.adopts with ⟨-, decided⟩ | ⟨-, -, silent, -⟩
    · rw [never] at decided
      cases decided
    · exact silent
  · intro id decided
    obtain ⟨present, known⟩ := P.known_of_talk fresh talk id fun id' h =>
      Option.some.inj (h.symm.trans decided)
    obtain ⟨-, rfl⟩ := known.gone left
    exact ⟨known.orderly.paired, known.own⟩

end Peer

end RecordFarm
