import Mathlib.Logic.Function.Basic
import RecordFarm.Proofs.Farm.Distributor

/-!
# The mail of a farm

Every worker has a mailbox of its own at the router, and whatever is sent to its identity goes there
(`Mail`). Nothing but words of the workers arrives at the router, and nothing but letters in the
mailboxes. `mailOf` is what waits for a worker.
-/

namespace RecordFarm

namespace Farm

/-- What a function says of rows of views, one of which was replaced. -/
theorem comp_update {α β : Type} (f : α → β) (views : Nat → α) (i : Nat) (a : α) :
    (fun j => f (Function.update views i a j))
      = Function.update (fun j => f (views j)) i (f a) := by
  funext j
  rcases eq_or_ne j i with rfl | hne
  · rw [Function.update_self, Function.update_self]
  · rw [Function.update_of_ne hne, Function.update_of_ne hne]

def Known (n : Nat) (ids : Nat → ClientId) (id : ClientId) : Prop := ∃ i < n, id = ids i

/-- What waits for a worker that has this end of the router. -/
def mailOf (r : Router) : Option DealerSocket → Mailbox
  | none => []
  | some s => r.mailboxes[s.mailbox]?.getD []

/-- The `n` workers have these ends of the router numbered `rn`, whose mailboxes hold letters. -/
structure Mail (letter : Frames → Prop) (n : Nat) (ids : Nat → ClientId)
    (dealer : Nat → Option DealerSocket) (rn : Option Nat) (r : Router) : Prop where
  housed : ∀ i < n, ∀ s, dealer i = some s → rn = some s.number ∧ s.mailbox < r.mailboxes.length
  apart : ∀ i < n, ∀ j < n, ∀ s t, dealer i = some s → dealer j = some t →
    s.mailbox = t.mailbox → i = j
  peers : ∀ x ∈ r.peers, ∃ i < n, x.1 = ids i ∧ ∃ s, dealer i = some s ∧ s.mailbox = x.2
  words : ∀ x ∈ r.inbound, ∃ m, Message.ofFrames x.2 = .ok m ∧ Word (Known n ids) m
  letters : ∀ box ∈ r.mailboxes, ∀ frames ∈ box, letter frames

namespace Mail

variable {letter : Frames → Prop} {n : Nat} {ids : Nat → ClientId}
  {dealer : Nat → Option DealerSocket} {rn : Option Nat} {r : Router} {i : Nat}

theorem connect (mail : Mail letter n ids dealer rn r) (hi : i < n) {s : DealerSocket}
    (free : dealer i = none) (number : rn = some s.number)
    (mailbox : s.mailbox = r.mailboxes.length) :
    Mail letter n ids (Function.update dealer i (some s)) rn
      { r with
        mailboxes := r.mailboxes ++ [[]]
        peers := (ids i, s.mailbox) :: r.peers.filter fun peer => peer.1 ≠ ids i } where
  housed := by
    intro j hj t ht
    rw [List.length_append, List.length_singleton]
    rcases eq_or_ne j i with rfl | hne
    · rw [Function.update_self] at ht
      cases ht
      exact ⟨number, by omega⟩
    · rw [Function.update_of_ne hne] at ht
      obtain ⟨hnumber, hlt⟩ := mail.housed j hj t ht
      exact ⟨hnumber, by omega⟩
  apart := by
    intro j hj k hk t u ht hu heq
    -- The new mailbox is behind all others, so it belongs to nobody else.
    rcases eq_or_ne j i with rfl | hji
    · rcases eq_or_ne k j with rfl | hkj
      · rfl
      · rw [Function.update_self] at ht
        rw [Function.update_of_ne hkj] at hu
        cases ht
        have := (mail.housed k hk u hu).2
        omega
    · rw [Function.update_of_ne hji] at ht
      rcases eq_or_ne k i with rfl | hki
      · rw [Function.update_self] at hu
        cases hu
        have := (mail.housed j hj t ht).2
        omega
      · rw [Function.update_of_ne hki] at hu
        exact mail.apart j hj k hk t u ht hu heq
  peers := by
    intro x hx
    rcases List.mem_cons.1 hx with rfl | hx
    · exact ⟨i, hi, rfl, s, Function.update_self .., rfl⟩
    · obtain ⟨j, hj, hid, t, ht, hbox⟩ := mail.peers x (List.mem_filter.1 hx).1
      have hne : j ≠ i := by
        rintro rfl
        rw [free] at ht
        cases ht
      exact ⟨j, hj, hid, t, by rw [Function.update_of_ne hne]; exact ht, hbox⟩
  words := mail.words
  letters := by
    intro box hbox
    rcases List.mem_append.1 hbox with hbox | hbox
    · exact mail.letters box hbox
    · rw [List.mem_singleton.1 hbox]
      simp

/-- The mail is the same when a worker connects: there is nothing in a new mailbox. -/
theorem mailOf_connect (mail : Mail letter n ids dealer rn r) {s : DealerSocket}
    (free : dealer i = none)
    (mailbox : s.mailbox = r.mailboxes.length) (peers : List (ClientId × Nat)) {j : Nat}
    (hj : j < n) :
    mailOf { r with mailboxes := r.mailboxes ++ [[]], peers } (Function.update dealer i (some s) j)
      = mailOf r (dealer j) := by
  rcases eq_or_ne j i with rfl | hne
  · rw [Function.update_self, free]
    simp [mailOf, mailbox]
  · rw [Function.update_of_ne hne]
    cases hdealer : dealer j with
    | none => rfl
    | some t =>
      -- The mailboxes that there were stay in their places.
      have := (mail.housed j hj t hdealer).2
      simp only [mailOf]
      rw [List.getElem?_append_left this]

/-- A worker says a word of its own. -/
theorem say (mail : Mail letter n ids dealer rn r) {id : ClientId} {frames : Frames} {m : Message}
    (framed : Message.ofFrames frames = .ok m) (word : Word (Known n ids) m) :
    Mail letter n ids dealer rn { r with inbound := r.inbound ++ [(id, frames)] } where
  housed := mail.housed
  apart := mail.apart
  peers := mail.peers
  words := by
    intro x hx
    rcases List.mem_append.1 hx with hx | hx
    · exact mail.words x hx
    · rw [List.mem_singleton.1 hx]
      exact ⟨m, framed, word⟩
  letters := mail.letters

/-- The distributor takes a word that was said. -/
theorem hear (mail : Mail letter n ids dealer rn r) {request : ClientId × Frames}
    {rest : List (ClientId × Frames)} (first : r.inbound = request :: rest) :
    Mail letter n ids dealer rn { r with inbound := rest } where
  housed := mail.housed
  apart := mail.apart
  peers := mail.peers
  words := fun x hx => mail.words x (by rw [first]; exact List.mem_cons_of_mem _ hx)
  letters := mail.letters

/-- A mailbox changes, and nothing but letters comes into it. -/
theorem modify (mail : Mail letter n ids dealer rn r) (mailbox : Nat) {change : Mailbox → Mailbox}
    (fair : ∀ box ∈ r.mailboxes, ∀ frames ∈ change box, letter frames) :
    Mail letter n ids dealer rn { r with mailboxes := r.mailboxes.modify mailbox change } where
  housed := by
    intro j hj t ht
    obtain ⟨hnumber, hlt⟩ := mail.housed j hj t ht
    exact ⟨hnumber, by rw [List.length_modify]; exact hlt⟩
  apart := mail.apart
  peers := mail.peers
  words := mail.words
  letters := by
    intro box hbox
    obtain ⟨k, hk, hget⟩ := List.mem_iff_getElem.1 hbox
    rw [List.getElem_modify] at hget
    split at hget
    · rw [← hget]
      exact fair _ (List.getElem_mem _)
    · rw [← hget]
      exact mail.letters _ (List.getElem_mem _)

/-- A change of the mailbox of one worker is a change of its mail. -/
theorem mailOf_modify (mail : Mail letter n ids dealer rn r) (hi : i < n) {s : DealerSocket}
    (own : dealer i = some s) (change : Mailbox → Mailbox) {j : Nat} (hj : j < n) :
    mailOf { r with mailboxes := r.mailboxes.modify s.mailbox change } (dealer j)
      = if j = i then change (mailOf r (dealer j)) else mailOf r (dealer j) := by
  by_cases h : j = i
  · subst h
    have hlt := (mail.housed j hj s own).2
    rw [if_pos rfl, own]
    simp only [mailOf]
    rw [List.getElem?_modify_eq, List.getElem?_eq_getElem hlt]
    rfl
  · rw [if_neg h]
    cases hdealer : dealer j with
    | none => rfl
    | some t =>
      -- Nobody else has this mailbox.
      have hne : s.mailbox ≠ t.mailbox := by
        intro heq
        exact h (mail.apart j hj i hi t s hdealer own heq.symm)
      simp only [mailOf]
      rw [List.getElem?_modify_ne _ _ hne]

theorem leave (mail : Mail letter n ids dealer rn r) (i : Nat) {id : ClientId} (hid : id = ids i)
    {inbound : List (ClientId × Frames)}
    (words : ∀ x ∈ inbound, ∃ m, Message.ofFrames x.2 = .ok m ∧ Word (Known n ids) m) :
    Mail letter n ids (Function.update dealer i none) rn
      { r with inbound, peers := r.peers.filter fun peer => peer.1 ≠ id } where
  housed := by
    intro j hj t ht
    rcases eq_or_ne j i with rfl | hne
    · rw [Function.update_self] at ht
      cases ht
    · rw [Function.update_of_ne hne] at ht
      exact mail.housed j hj t ht
  apart := by
    intro j hj k hk t u ht hu heq
    rcases eq_or_ne j i with rfl | hji
    · rw [Function.update_self] at ht
      cases ht
    · rcases eq_or_ne k i with rfl | hki
      · rw [Function.update_self] at hu
        cases hu
      · rw [Function.update_of_ne hji] at ht
        rw [Function.update_of_ne hki] at hu
        exact mail.apart j hj k hk t u ht hu heq
  peers := by
    intro x hx
    obtain ⟨hx, hother⟩ := List.mem_filter.1 hx
    obtain ⟨j, hj, hxid, t, ht, hbox⟩ := mail.peers x hx
    -- The peer that left was let go of, so this one is somebody else.
    have hne : j ≠ i := by
      rintro rfl
      rw [hxid, hid] at hother
      simp at hother
    exact ⟨j, hj, hxid, t, by rw [Function.update_of_ne hne]; exact ht, hbox⟩
  words := words
  letters := mail.letters

theorem bind (mail : Mail letter n ids dealer none r) (rn : Option Nat) (uri : String) :
    Mail letter n ids dealer rn { uri } where
  housed := by
    intro j hj t ht
    have := (mail.housed j hj t ht).1
    cases this
  apart := mail.apart
  peers := by simp
  words := by simp
  letters := by simp

/-- Before the router is bound nobody has mail. -/
theorem mailOf_bind (mail : Mail letter n ids dealer none r) (uri : String) {j : Nat} (hj : j < n) :
    mailOf { uri } (dealer j) = mailOf r (dealer j) := by
  cases hdealer : dealer j with
  | none => rfl
  | some t =>
    have := (mail.housed j hj t hdealer).1
    cases this

/-- The mail of a router that is closed. -/
theorem close (mail : Mail letter n ids dealer rn r) :
    Mail letter n ids dealer rn { r with inbound := [], peers := [], isOpen := false } where
  housed := mail.housed
  apart := mail.apart
  peers := by simp
  words := by simp
  letters := mail.letters

end Mail

end Farm

end RecordFarm
