import Mathlib.Data.List.Nodup
import RecordFarm.Service

/-!
# Sessions

Whoever holds a source or a sink makes calls of it, one after the other. A session is such a use of
a server: the server, the call that it is serving, and the calls that were answered. Between two
steps of a session anybody else may move, so a system of several parties is a row of sessions over
one world, and its runs are steps of its sessions in any order.
-/

namespace RecordFarm

namespace Progress

variable {τ α : Type}

/-- What is left of a task for the session. A server that breaks down never answers. -/
def pending (task : τ) : Progress τ α → Option τ
  | waiting _ => some task
  | working rest => some rest
  | finished _ => none
  | panicked => some task

def answer? : Progress τ α → Option (Except Error α)
  | finished result => some result
  | _ => none

end Progress

/-- A server, and what has been asked of it. -/
structure Session (κ σ τ α : Type) where
  server : σ
  /-- The call that is being served, and what is left of it. -/
  current : Option (κ × τ) := none
  /-- The calls that were answered, oldest first. -/
  answered : List (κ × Except Error α) := []

namespace Session

variable {ω κ σ τ α : Type}

def ask (A : Service ω κ σ τ α) (call : κ) (s : Session κ σ τ α) : Session κ σ τ α :=
  { s with current := some (call, A.start call) }

/-- A step of the call that is being served. A server that breaks down never answers. -/
def step (A : Service ω κ σ τ α) (s : Session κ σ τ α) (w : ω) : Session κ σ τ α × ω :=
  match s.current with
  | none => (s, w)
  | some (call, task) =>
    match A.step task s.server w with
    | (.waiting _, server, w) => ({ s with server }, w)
    | (.working rest, server, w) => ({ s with server, current := some (call, rest) }, w)
    | (.finished result, server, w) =>
      ({ server, current := none, answered := s.answered ++ [(call, result)] }, w)
    | (.panicked, server, w) => ({ s with server }, w)

/-- A server that is not called does nothing. -/
theorem step_of_idle (A : Service ω κ σ τ α) {s : Session κ σ τ α} (h : s.current = none) (w : ω) :
    s.step A w = (s, w) := by
  unfold step
  rw [h]

/-- What a step does, in one line. -/
theorem step_of_current (A : Service ω κ σ τ α) {s : Session κ σ τ α} {call : κ} {task : τ}
    (h : s.current = some (call, task)) (w : ω) :
    s.step A w =
      ({ server := (A.step task s.server w).2.1
         current := ((A.step task s.server w).1.pending task).map fun rest => (call, rest)
         answered := s.answered ++
          ((A.step task s.server w).1.answer?.map fun result => (call, result)).toList },
        (A.step task s.server w).2.2) := by
  obtain ⟨server, current, answered⟩ := s
  cases h
  unfold step
  simp only
  rcases A.step task server w with ⟨progress, server', w'⟩
  cases progress <;> simp [Progress.pending, Progress.answer?]

theorem step_eq (A : Service ω κ σ τ α) {s : Session κ σ τ α} {call : κ} {task : τ} {w w' : ω}
    {progress : Progress τ α} {server : σ} (h : s.current = some (call, task))
    (r : A.step task s.server w = (progress, server, w')) :
    s.step A w =
      ({ server
         current := (progress.pending task).map fun rest => (call, rest)
         answered := s.answered ++ (progress.answer?.map fun result => (call, result)).toList },
        w') := by
  rw [step_of_current A h, r]

/-- What may happen to a server that is used: it is called, or it makes a step in the world as it is
at that time. -/
inductive Move (ω κ : Type) where
  | ask (call : κ)
  | step (w : ω)

/-- A server serves one call at a time. -/
def move (A : Service ω κ σ τ α) (s : Session κ σ τ α) : Move ω κ → Session κ σ τ α
  | .ask call => if s.current.isNone then s.ask A call else s
  | .step w => (s.step A w).1

def after (A : Service ω κ σ τ α) (s : Session κ σ τ α) (moves : List (Move ω κ)) :
    Session κ σ τ α :=
  moves.foldl (move A) s

/-- What holds of a server and is kept by calls and by steps holds after any use. -/
theorem after_induction (A : Service ω κ σ τ α) {P : Session κ σ τ α → Prop} {s : Session κ σ τ α}
    (start : P s) (asked : ∀ s call, P s → s.current = none → P (s.ask A call))
    (stepped : ∀ s call task w, P s → s.current = some (call, task) → P (s.step A w).1)
    (moves : List (Move ω κ)) : P (s.after A moves) := by
  induction moves generalizing s with
  | nil => exact start
  | cons m moves ih =>
    refine ih ?_
    cases m with
    | ask call =>
      unfold move
      simp only
      split
      · next free => exact asked s call start (Option.isNone_iff_eq_none.1 free)
      · exact start
    | step w =>
      cases hcurrent : s.current with
      | some asked => exact stepped s asked.1 asked.2 w start hcurrent
      | none =>
        show P (s.step A w).1
        rw [step_of_idle A hcurrent]
        exact start

end Session

def handedOut (answered : List (SourceCall × Except Error Reply)) : List Message :=
  answered.filterMap fun
    | (.next, .ok reply) => reply
    | _ => none

/-- An answer to `next` hands out its message, if it has one. -/
theorem handedOut_next (answered : List (SourceCall × Except Error Reply)) (reply : Reply) :
    handedOut (answered ++ [(.next, .ok reply)]) = handedOut answered ++ reply.toList := by
  unfold handedOut
  rw [List.filterMap_append]
  cases reply <;> rfl

theorem handedOut_error (answered : List (SourceCall × Except Error Reply)) (call : SourceCall)
    (cause : Error) : handedOut (answered ++ [(call, .error cause)]) = handedOut answered := by
  unfold handedOut
  rw [List.filterMap_append]
  cases call <;> exact List.append_nil _

/-- No other call hands anything out. -/
theorem handedOut_of_ne (answered : List (SourceCall × Except Error Reply)) {call : SourceCall}
    (other : call ≠ .next) (result : Except Error Reply) :
    handedOut (answered ++ [(call, result)]) = handedOut answered := by
  unfold handedOut
  rw [List.filterMap_append]
  cases call with
  | next => exact absurd rfl other
  | _ => exact List.append_nil _

/-- One party of a row has changed. -/
theorem getElem?_set_cases {α : Type} {row : List α} {i k : Nat} {a b : α}
    (h : (row.set i a)[k]? = some b) : (k = i ∧ b = a) ∨ row[k]? = some b := by
  rw [List.getElem?_set] at h
  split at h
  · next heq =>
    split at h
    · exact Or.inl ⟨heq.symm, (Option.some.inj h).symm⟩
    · cases h
  · exact Or.inr h

def identity (ids : List ClientId) (i : Nat) : ClientId := ids.getD i default

/-- When there is one party for each identity, the party `i` is the one for the identity of `i`. -/
theorem eq_of_getElem?_map {α : Type} {party : ClientId → α} {ids : List ClientId} {i : Nat} {a : α}
    (h : (ids.map party)[i]? = some a) : a = party (identity ids i) := by
  rw [List.getElem?_map] at h
  obtain ⟨id, hid, rfl⟩ := Option.map_eq_some_iff.1 h
  unfold identity
  rw [List.getD_eq_getElem?_getD, hid]
  rfl

theorem identity_distinct {ids : List ClientId} (distinct : ids.Nodup) :
    ∀ i < ids.length, ∀ k < ids.length, identity ids i = identity ids k → i = k := by
  intro i hi k hk h
  unfold identity at h
  rw [List.getD_eq_getElem?_getD, List.getD_eq_getElem?_getD, List.getElem?_eq_getElem hi,
    List.getElem?_eq_getElem hk] at h
  exact (List.Nodup.getElem_inj_iff distinct).1 h

end RecordFarm
