import RecordFarm.Proofs.Fanin.Producing
import RecordFarm.Proofs.Service.Talk

/-!
# A producer as a peer

A producer may be connected more than once, asked to send when it is not connected, and asked to
leave when it has left. It is a member as long as it owns a socket, and also while it is saying that
it goes, when the socket is no longer its own (`Keeps`).
-/

namespace RecordFarm

namespace Fanin

namespace Producer

/-- The pipe with this number hears a producer, if the address leads to no other. -/
def ear (uri : String) (n : Nat) : Ear Frames where
  IsOpen net := (∀ k, net.lookup uri = some (.pull k) → k = n) ∧
    ∃ pipe, net.pipes[n]? = some pipe ∧ pipe.isOpen = true
  queue net := ((net.pipes[n]?).map Pipe.queue).getD []
  read frames := frames

/-- A producer is not made to send what only it may say. -/
def MayBe (call : SinkCall) : Prop :=
  ∀ m, call = .send m →
    m.kind.code ≠ Kind.registration.code ∧ m.kind.code ≠ Kind.unregistration.code

def ends (call : SinkCall) : Bool := call == .release

/-- What is sent of a message is no word of coming or going if its code is none. -/
theorem isData_of_framed {m : Message} {frames : Frames} (may : MayBe (.send m))
    (h : m.toFramesBatched = .ok frames) : IsData frames := by
  obtain ⟨comes, goes⟩ := may m rfl
  have plain : ∀ m' : Message, m'.kind.code = m.kind.code → m'.kind ≠ .registration ∧
      m'.kind ≠ .unregistration := by
    intro m' hcode
    exact ⟨fun h => comes (by rw [← hcode, h]), fun h => goes (by rw [← hcode, h])⟩
  intro m' hm'
  refine plain m' ?_
  by_cases hkind : m.kind = .process
  · obtain ⟨records, arrived, -, framed, hkind', -⟩ := Message.hop_process hkind h
    rw [framed] at hm'
    cases hm'
    rw [hkind', hkind]
  · unfold Message.toFramesBatched at h
    rw [if_neg hkind] at h
    unfold Message.toFrames at h
    split at h
    · cases h
      rw [Message.ofFrames_code_cons] at hm'
      cases hm'
      exact Kind.code_ofCode _
    · cases h

variable {uri : String} {n : Nat} {net : Network} {socket : PushSocket}

/-- Through a socket to this pipe everything can be said, as soon as there is room. -/
theorem send_of_tied (tied : Tied (some n) socket) (opened : (ear uri n).IsOpen net)
    (frames : Frames) :
    socket.send frames net = .blocked ∨ ∃ net', socket.send frames net = .done () net' ∧
      (ear uri n).IsOpen net' ∧ (ear uri n).queue net' = (ear uri n).queue net ++ [frames] := by
  obtain ⟨alone, pipe, here, isOpen⟩ := opened
  obtain rfl : n = socket.number := Option.some.inj tied.number
  unfold PushSocket.send
  rw [here]
  simp only [Pipe.send, isOpen, Bool.not_true, Bool.false_eq_true, if_false]
  split
  · have said := Network.pipe_modifyPipe here fun pipe =>
      { pipe with queue := pipe.queue ++ [frames] }
    refine Or.inr ⟨_, rfl, ⟨alone, _, said, isOpen⟩, ?_⟩
    show (Option.map Pipe.queue _).getD [] = (Option.map Pipe.queue _).getD [] ++ [frames]
    rw [said, here]
    rfl
  · exact Or.inl rfl

/-- The socket that a producer gets is one to this pipe. -/
theorem tied_of_connect (opened : (ear uri n).IsOpen net) {net' : Network}
    (h : PushSocket.connect net uri = .done socket net') : Tied (some n) socket ∧ net' = net := by
  unfold PushSocket.connect at h
  split at h
  · cases h
  · next k hk =>
    cases h
    exact ⟨⟨by rw [opened.1 k hk], rfl⟩, rfl⟩
  · cases h

/-- Where a producer stands: the call that it is serving, its socket, and whether it is a member. -/
inductive Keeps (n : Nat) : Option (SinkCall × Task) → Option PushSocket → Bool → Prop where
  | idle {push : Option PushSocket} (tied : ∀ socket ∈ push, Tied (some n) socket) :
      Keeps n none push push.isSome
  | begun {push : Option PushSocket} (tied : ∀ socket ∈ push, Tied (some n) socket)
      {call : SinkCall} (may : MayBe call) : Keeps n (some (call, .begin call)) push push.isSome
  | connecting {push : Option PushSocket} (tied : ∀ socket ∈ push, Tied (some n) socket)
      (deadline : Nat) : Keeps n (some (.connect, .connecting deadline)) push push.isSome
  | greeting {push : Option PushSocket} (tied : ∀ socket ∈ push, Tied (some n) socket)
      {socket : PushSocket} (new : Tied (some n) socket) :
      Keeps n (some (.connect, .registering socket)) push push.isSome
  | pushing {push : Option PushSocket} (tied : ∀ socket ∈ push, Tied (some n) socket) {m : Message}
      {frames : Frames} (plain : IsData frames) :
      Keeps n (some (.send m, .pushing frames)) push push.isSome
  | leaving {socket : PushSocket} (old : Tied (some n) socket) {call : SinkCall}
      (leaves : Leaving call) : Keeps n (some (call, .leaving socket)) none true

def Stands (uri : String) (n : Nat) (_ : ClientId) (current : Option (SinkCall × Task))
    (s : Producer) (present : Bool) : Prop := s.uri = uri ∧ Keeps n current s.push present

/-- **A producer speaks in its own name, and knows whether it is a member.** One case for each thing
that it can be in the middle of. -/
theorem step_fares {id : ClientId} {call : SinkCall} {task : Task} {s : Producer} {present : Bool}
    (opened : (ear uri n).IsOpen net) (stands : Stands uri n id (some (call, task)) s present) :
    Fares (ear uri n) (fun _ _ => True) (· == .connect) ends (Stands uri n) id call task present net
      (step task { s with identity := id } net) := by
  obtain ⟨uri', identity, push, sent⟩ := s
  obtain ⟨rfl, keeps⟩ := stands
  simp only at keeps
  cases keeps with
  | begun tied may =>
    cases call with
    | connect => exact .nothing opened ⟨rfl, .connecting tied _⟩ (Fares.keeps rfl)
    | send m =>
      simp only [step]
      cases hframes : m.toFramesBatched with
      | error cause => exact .nothing opened ⟨rfl, .idle tied⟩ (Fares.keeps rfl)
      | ok frames =>
        exact .nothing opened ⟨rfl, .pushing tied (isData_of_framed may hframes)⟩
          (Fares.keeps rfl)
    | disconnect =>
      simp only [step, leave]
      cases push with
      | none => exact .nothing opened ⟨rfl, .idle tied⟩ fun _ _ => rfl
      | some socket =>
        exact .nothing opened ⟨rfl, .leaving (tied socket rfl) .disconnect⟩ (Fares.goesOn rfl)
    | release =>
      simp only [step, leave]
      cases push with
      | none => exact .nothing opened ⟨rfl, .idle tied⟩ fun _ _ => rfl
      | some socket =>
        exact .nothing opened ⟨rfl, .leaving (tied socket rfl) .release⟩ (Fares.goesOn rfl)
    | _ => exact .nothing opened ⟨rfl, .idle tied⟩ (Fares.keeps rfl)
  -- Connecting says nothing to anybody: the queue stays as it is.
  | connecting tied deadline =>
    simp only [step]
    cases hconnect : (PushSocket.connect net uri').orNotBound uri' (deadline ≤ net.now) with
    | blocked => exact .nothing opened ⟨rfl, .connecting tied deadline⟩ (Fares.keeps rfl)
    | failed cause => exact .nothing opened ⟨rfl, .idle tied⟩ (Fares.keeps rfl)
    | done socket net' =>
      obtain ⟨new, rfl⟩ := tied_of_connect opened (Attempt.of_orNotBound hconnect)
      exact .nothing opened ⟨rfl, .greeting tied new⟩ (Fares.keeps rfl)
  | greeting tied new =>
    obtain ⟨frames, hframes, framed⟩ := Message.exists_frames (m := .registration id) rfl rfl
    simp only [step, speak, hframes]
    rcases send_of_tied new opened frames with hsend | ⟨net', hsend, opened', queued⟩
    · rw [hsend]
      exact .nothing opened ⟨rfl, .greeting tied new⟩ (Fares.keeps rfl)
    · rw [hsend]
      refine .intro opened' queued (.word (.comes framed) trivial fun _ => rfl) ⟨rfl, .idle ?_⟩
        (Fares.keeps rfl)
      rintro socket ⟨⟩
      exact new
  | pushing tied plain =>
    simp only [step]
    cases push with
    | none => exact .nothing opened ⟨rfl, .idle tied⟩ (Fares.keeps rfl)
    | some socket =>
      simp only
      rcases send_of_tied (tied socket rfl) opened _ with hsend | ⟨net', hsend, opened', queued⟩
      · rw [hsend]
        exact .nothing opened ⟨rfl, .pushing tied plain⟩ (Fares.keeps rfl)
      · rw [hsend]
        -- Data is no word, so nothing becomes of the membership.
        exact .intro opened' queued (.word (.data plain) trivial fun h => by cases h)
          ⟨rfl, .idle tied⟩ (Fares.keeps rfl)
  | leaving old leaves =>
    obtain ⟨frames, hframes, framed⟩ := Message.exists_frames (m := .unregistration id) rfl rfl
    simp only [step, speak, hframes]
    rcases send_of_tied old opened frames with hsend | ⟨net', hsend, opened', queued⟩
    · rw [hsend]
      exact .nothing opened ⟨rfl, .leaving old leaves⟩ (Fares.goesOn rfl)
    · rw [hsend]
      -- The socket goes with its last word. It is a guest, so the pipe stays open.
      simp only [Bool.false_eq_true, if_false, old.close]
      exact .intro opened' queued (.word (.goes framed) trivial fun h => by cases h)
        ⟨rfl, .idle fun _ h => by cases h⟩ fun _ _ => rfl

def peer (uri : String) (n : Nat) :
    Peer sink.toService (ear uri n) (· == .connect) ends
      (fun identity s => { s with identity }) MayBe fun _ _ => True where
  Stands := Stands uri n
  anew := fun stands _ => stands
  ask := by
    rintro id s present call may ⟨huri, keeps⟩
    refine ⟨huri, ?_⟩
    cases keeps with
    | idle tied => exact .begun tied may
  step := step_fares

end Producer

end Fanin

end RecordFarm
