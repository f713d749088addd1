import Mathlib.Data.List.Induction
import RecordFarm.Proofs.Service.Session
import RecordFarm.Proofs.Wire.Framing
import RecordFarm.Service.Adopting

/-!
# Who comes also goes

A peer says that it is there, then says what it has to say, and says that it goes. Whoever hears all
of it keeps a list of members (`members`). What a peer has said is *paired* if the list is empty in
the end and the peer was on it whenever it said something else (`Paired`).

The words of a peer that has one identity can be told by what each says to a listener who knows
whether the peer is a member (`Utterance`). A row of such words is paired if it ends with the peer
being none (`Orderly.paired`). It remains to be shown of a peer that its steps say such words: that
is a `Peer`, and `Peer.paired` is what follows of all it ever says, whoever makes the calls.
-/

namespace RecordFarm

/-! ## Members -/

/-- The frames are no word of coming or going. -/
def IsData (frames : Frames) : Prop :=
  ∀ m, Message.ofFrames frames = .ok m → m.kind ≠ .registration ∧ m.kind ≠ .unregistration

def enter (present : List ClientId) (frames : Frames) : List ClientId :=
  match Message.ofFrames frames with
  | .error _ => present
  | .ok m =>
    match m.kind, m.identity with
    | .registration, .ok id => present.insert id
    | .unregistration, .ok id => present.filter fun other => decide (other ≠ id)
    | _, _ => present

/-- Who is a member when these frames have come in. -/
def members (log : List Frames) : List ClientId := log.foldl enter []

theorem members_snoc (log : List Frames) (frames : Frames) :
    members (log ++ [frames]) = enter (members log) frames := List.foldl_concat ..

theorem enter_registration {frames : Frames} {id : ClientId}
    (h : Message.ofFrames frames = .ok (.registration id)) (present : List ClientId) :
    enter present frames = present.insert id := by
  unfold enter
  rw [h]
  simp only [Message.identity_registration]
  rfl

theorem enter_unregistration {frames : Frames} {id : ClientId}
    (h : Message.ofFrames frames = .ok (.unregistration id)) (present : List ClientId) :
    enter present frames = present.filter fun other => decide (other ≠ id) := by
  unfold enter
  rw [h]
  simp only [Message.identity_unregistration]
  rfl

/-- Data does not tell who is a member. -/
theorem enter_data {frames : Frames} (h : IsData frames) (present : List ClientId) :
    enter present frames = present := by
  unfold enter
  cases hm : Message.ofFrames frames with
  | error cause => rfl
  | ok m =>
    obtain ⟨stays, notLeaving⟩ := h m hm
    obtain ⟨kind, parts⟩ := m
    cases kind with
    | registration => exact absurd rfl stays
    | unregistration => exact absurd rfl notLeaving
    | _ => rfl

/-- Whoever has come has gone, and has spoken in between only, always under this identity. -/
structure Paired (id : ClientId) (log : List Frames) : Prop where
  /-- In the end nobody is left. -/
  left : members log = []
  /-- What is no word of coming or going is said by a member, who goes later. -/
  data : ∀ before frames after, log = before ++ frames :: after → IsData frames →
    id ∈ members before ∧ ∃ last ∈ after, Message.ofFrames last = .ok (.unregistration id)
  /-- Only a member goes. -/
  goes : ∀ before frames after, log = before ++ frames :: after →
    Message.ofFrames frames = .ok (.unregistration id) → id ∈ members before
  /-- Nobody else comes or goes. -/
  named : ∀ frames ∈ log, ∀ m, Message.ofFrames frames = .ok m →
    (m.kind = .registration → m = .registration id) ∧
      (m.kind = .unregistration → m = .unregistration id)

/-! ## Words -/

section Words

variable {β : Type}

/-- What a peer with this identity says, when it was a member before or not, and is one afterwards
or not. What it says is read as frames. -/
inductive Utterance (read : β → Frames) (id : ClientId) : Bool → β → Bool → Prop where
  | comes {present : Bool} {w : β} (here : Message.ofFrames (read w) = .ok (.registration id)) :
      Utterance read id present w true
  | data {w : β} (plain : IsData (read w)) : Utterance read id true w true
  | goes {w : β} (leaves : Message.ofFrames (read w) = .ok (.unregistration id)) :
      Utterance read id true w false

/-- Words one after the other. At first the peer is no member. -/
inductive Orderly (read : β → Frames) (id : ClientId) : List β → Bool → Prop where
  | silent : Orderly read id [] false
  | say {log : List β} {w : β} {present after : Bool} (before : Orderly read id log present)
      (word : Utterance read id present w after) : Orderly read id (log ++ [w]) after

variable {read : β → Frames} {id : ClientId} {log : List β} {present : Bool}

/-- The word that was said last. -/
theorem Orderly.last {w : β} (h : Orderly read id (log ++ [w]) present) :
    ∃ before, Orderly read id log before ∧ Utterance read id before w present := by
  generalize hall : log ++ [w] = all at h
  cases h with
  | silent => exact absurd hall (List.append_ne_nil_of_right_ne_nil _ (List.cons_ne_nil _ _))
  | say before word =>
    obtain ⟨rfl, hlast⟩ := List.append_inj' hall rfl
    obtain rfl := List.singleton_inj.1 hlast
    exact ⟨_, before, word⟩

/-- The words up to some moment. Induction on those that came later. -/
theorem Orderly.take {later : List β} (h : Orderly read id (log ++ later) present) :
    ∃ before, Orderly read id log before := by
  induction later using List.reverseRecOn generalizing present with
  | nil => exact ⟨present, by rwa [List.append_nil] at h⟩
  | append_singleton later w ih =>
    rw [← List.append_assoc] at h
    obtain ⟨before, earlier, -⟩ := h.last
    exact ih earlier

/-- The peer is on the list if it is a member, and nobody else is. -/
theorem Orderly.members_eq (h : Orderly read id log present) :
    members (log.map read) = if present then [id] else [] := by
  induction h with
  | silent => rfl
  | @say log w present after before word ih =>
    rw [List.map_append, List.map_singleton, members_snoc, ih]
    cases word with
    | comes here =>
      rw [enter_registration here]
      cases present with
      | true => exact List.insert_of_mem (List.mem_singleton_self id)
      | false => rfl
    | data plain => rw [enter_data plain]
    | goes leaves =>
      rw [enter_unregistration leaves]
      simp

/-- A log that is orderly, and ends with its client present, has it as a member. -/
theorem Orderly.mem_members (h : Orderly read id log true) : id ∈ members (log.map read) := by
  rw [h.members_eq]
  exact List.mem_singleton_self id

/-- The word between the others. -/
theorem Orderly.word {before after : List β} {w : β}
    (h : Orderly read id (before ++ w :: after) present) :
    ∃ b b', Orderly read id before b ∧ Utterance read id b w b' := by
  rw [List.append_cons] at h
  obtain ⟨b', h'⟩ := h.take
  obtain ⟨b, earlier, word⟩ := h'.last
  exact ⟨b, b', earlier, word⟩

/-- A peer that was a member and is none in the end has said that it goes, as its last word. -/
theorem Orderly.leaves {before after : List β} {w : β}
    (h : Orderly read id (before ++ w :: after) false) (plain : IsData (read w)) :
    ∃ last ∈ after, Message.ofFrames (read last) = .ok (.unregistration id) := by
  rcases List.eq_nil_or_concat after with rfl | ⟨middle, last, rfl⟩
  · -- The other word would be the last one.
    obtain ⟨b, -, word⟩ := h.last
    cases word with
    | goes leaves => exact absurd rfl (plain _ leaves).2
  · rw [List.concat_eq_append] at h ⊢
    rw [← List.cons_append, ← List.append_assoc] at h
    obtain ⟨b, -, word⟩ := h.last
    cases word with
    | goes leaves => exact ⟨last, List.mem_append_right _ (List.mem_singleton_self _), leaves⟩

/-- Splitting what is read of a row of words splits the row. -/
theorem exists_of_map_eq {before after : List Frames} {frames : Frames}
    (h : log.map read = before ++ frames :: after) :
    ∃ earlier w later, log = earlier ++ w :: later ∧ earlier.map read = before ∧
      read w = frames ∧ later.map read = after := by
  obtain ⟨earlier, rest, rfl, rfl, hrest⟩ := List.map_eq_append_iff.1 h
  obtain ⟨w, later, rfl, rfl, rfl⟩ := List.map_eq_cons_iff.1 hrest
  exact ⟨earlier, w, later, rfl, rfl, rfl, rfl⟩

/-- **A row of words that ends without a member is paired.** -/
theorem Orderly.paired (h : Orderly read id log false) : Paired id (log.map read) where
  left := h.members_eq
  data := by
    intro before frames after hlog plain
    obtain ⟨earlier, w, later, rfl, rfl, rfl, rfl⟩ := exists_of_map_eq hlog
    obtain ⟨last, hlast, leaves⟩ := h.leaves plain
    obtain ⟨b, b', here, word⟩ := h.word
    refine ⟨?_, read last, List.mem_map_of_mem hlast, leaves⟩
    cases word with
    | comes comes => exact absurd rfl (plain _ comes).1
    | data _ => exact here.mem_members
    | goes goes => exact absurd rfl (plain _ goes).2
  goes := by
    intro before frames after hlog leaves
    obtain ⟨earlier, w, later, rfl, rfl, rfl, rfl⟩ := exists_of_map_eq hlog
    obtain ⟨b, b', here, word⟩ := h.word
    cases word with
    | comes comes =>
      rw [comes] at leaves
      cases leaves
    | data plain => exact absurd rfl (plain _ leaves).2
    | goes _ => exact here.mem_members
  named := by
    intro frames hframes m hm
    obtain ⟨w, hw, rfl⟩ := List.mem_map.1 hframes
    obtain ⟨before, after, rfl⟩ := List.append_of_mem hw
    obtain ⟨b, b', -, word⟩ := h.word
    cases word with
    | comes comes =>
      rw [comes] at hm
      cases hm
      exact ⟨fun _ => rfl, nofun⟩
    | data plain => exact ⟨fun h => absurd h (plain m hm).1, fun h => absurd h (plain m hm).2⟩
    | goes goes =>
      rw [goes] at hm
      cases hm
      exact ⟨nofun, fun _ => rfl⟩

end Words

end RecordFarm
