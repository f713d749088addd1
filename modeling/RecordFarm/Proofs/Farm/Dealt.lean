import RecordFarm.Bytes

/-!
# Rows that are dealt out

A row is dealt out to some players when every entry goes to exactly one of them, and each of them
has its entries in the order of the row. Seen from the other side, the row is the players' own
rows shuffled together.
-/

namespace RecordFarm

variable {α : Type}

def dealtTo (i : Nat) (dealt : List (Nat × α)) : List α :=
  (dealt.filter fun x => x.1 == i).map Prod.snd

theorem dealtTo_append (i : Nat) (dealt dealt' : List (Nat × α)) :
    dealtTo i (dealt ++ dealt') = dealtTo i dealt ++ dealtTo i dealt' := by
  unfold dealtTo
  rw [List.filter_append, List.map_append]

theorem dealtTo_hand (i j : Nat) (hand : List α) :
    dealtTo i (hand.map fun a => (j, a)) = if i = j then hand else [] := by
  unfold dealtTo
  by_cases h : i = j
  · rw [if_pos h, List.filter_eq_self.2]
    · rw [List.map_map]
      exact List.map_id _
    · intro x hx
      obtain ⟨a, -, rfl⟩ := List.mem_map.1 hx
      simp [h]
  · rw [if_neg h, List.filter_eq_nil_iff.2]
    · rfl
    · intro x hx
      obtain ⟨a, -, rfl⟩ := List.mem_map.1 hx
      simpa using fun hj => h hj.symm

/-- The row `whole` is dealt out to `n` players, who have `parts` of it. -/
def Dealt (n : Nat) (parts : Nat → List α) (whole : List α) : Prop :=
  ∃ dealt : List (Nat × α),
    dealt.map Prod.snd = whole ∧ (∀ x ∈ dealt, x.1 < n) ∧ ∀ i < n, dealtTo i dealt = parts i

namespace Dealt

variable {n : Nat} {parts parts' : Nat → List α} {whole : List α}

theorem nothing (h : ∀ i < n, parts i = []) : Dealt n parts [] :=
  ⟨[], rfl, by simp, fun i hi => (h i hi).symm⟩

theorem congr (d : Dealt n parts whole) (h : ∀ i < n, parts' i = parts i) :
    Dealt n parts' whole := by
  obtain ⟨dealt, hwhole, hplayers, hparts⟩ := d
  exact ⟨dealt, hwhole, hplayers, fun i hi => (hparts i hi).trans (h i hi).symm⟩

/-- One player is dealt some more. -/
theorem deal (d : Dealt n parts whole) {i : Nat} (hi : i < n) (hand : List α)
    (hself : parts' i = parts i ++ hand) (hother : ∀ j < n, j ≠ i → parts' j = parts j) :
    Dealt n parts' (whole ++ hand) := by
  obtain ⟨dealt, hwhole, hplayers, hparts⟩ := d
  refine ⟨dealt ++ hand.map fun a => (i, a), ?_, ?_, ?_⟩
  · rw [List.map_append, hwhole, List.map_map]
    congr 1
    exact List.map_id _
  · intro x hx
    rcases List.mem_append.1 hx with hx | hx
    · exact hplayers x hx
    · obtain ⟨a, -, rfl⟩ := List.mem_map.1 hx
      exact hi
  · intro j hj
    rw [dealtTo_append, dealtTo_hand, hparts j hj]
    by_cases h : j = i
    · rw [if_pos h, h, hself]
    · rw [if_neg h, List.append_nil, hother j hj h]

/-- When every entry is taken apart, each player has the pieces of its own entries. -/
theorem flatMap {β : Type} (d : Dealt n parts whole) (pieces : α → List β) :
    Dealt n (fun i => (parts i).flatMap pieces) (whole.flatMap pieces) := by
  obtain ⟨dealt, hwhole, hplayers, hparts⟩ := d
  refine ⟨dealt.flatMap fun x => (pieces x.2).map fun b => (x.1, b), ?_, ?_, ?_⟩
  · rw [List.map_flatMap, ← hwhole, List.flatMap_map]
    congr 1
    funext x
    rw [List.map_map]
    exact List.map_id _
  · intro y hy
    obtain ⟨x, hx, hy⟩ := List.mem_flatMap.1 hy
    obtain ⟨b, -, rfl⟩ := List.mem_map.1 hy
    exact hplayers x hx
  · intro i hi
    show _ = (parts i).flatMap pieces
    rw [← hparts i hi]
    clear hwhole hplayers hparts
    -- The entries are looked at one by one: the pieces of each go where it goes.
    induction dealt with
    | nil => rfl
    | cons x dealt ih =>
      rw [List.flatMap_cons, dealtTo_append, ih, dealtTo_hand, ← List.singleton_append,
        dealtTo_append, List.flatMap_append]
      congr 1
      have own := dealtTo_hand i x.1 [x.2]
      rw [List.map_singleton] at own
      rw [own]
      by_cases h : i = x.1
      · rw [if_pos h, if_pos h, List.flatMap_singleton]
      · rw [if_neg h, if_neg h]
        rfl

/-- Hands that are meant for one player each are dealt one after the other. -/
theorem dealAll {β : Type} {n : Nat} {parts : Nat → List α} {whole : List α}
    (d : Dealt n parts whole) (hand : β → List α) (meant : Nat → β → Bool) (xs : List β)
    (h : ∀ x ∈ xs, ∃ i < n, ∀ j < n, meant j x = decide (j = i)) :
    Dealt n (fun i => parts i ++ (xs.filter (meant i)).flatMap hand)
      (whole ++ xs.flatMap hand) := by
  induction xs generalizing parts whole with
  | nil =>
    rw [List.flatMap_nil, List.append_nil]
    exact d.congr fun i _ => List.append_nil _
  | cons x xs ih =>
    obtain ⟨i, hi, hmeant⟩ := h x List.mem_cons_self
    -- The first hand goes to its player, and the others are dealt behind it.
    have first : Dealt n (fun j => if j = i then parts j ++ hand x else parts j)
        (whole ++ hand x) := by
      refine d.deal hi (hand x) (if_pos rfl) ?_
      intro j _ hne
      exact if_neg hne
    have rest := ih first fun y hy => h y (List.mem_cons_of_mem _ hy)
    rw [List.flatMap_cons, ← List.append_assoc]
    refine rest.congr fun j hj => ?_
    by_cases hji : j = i
    · rw [if_pos hji, List.filter_cons_of_pos (by rw [hmeant j hj]; exact decide_eq_true hji),
        List.flatMap_cons, List.append_assoc]
    · rw [if_neg hji, List.filter_cons_of_neg (by rw [hmeant j hj]; simpa using hji)]

end Dealt

end RecordFarm
