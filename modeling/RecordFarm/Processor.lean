import RecordFarm.Wire
/-!
# Processors

A processor turns a record into any number of records. It may keep state from one record to the
next, and it may fail. `apply` runs it over all records of a message.
-/

namespace RecordFarm

/-- How a processor gives up on a record. -/
inductive Fault where
  /-- It reports an error, which its element passes on. -/
  | error (cause : Error)
  /-- It breaks down, and its element with it. -/
  | panic
  deriving DecidableEq, Repr

/-- A record processor with states of type `σ`. -/
structure Processor (σ : Type) where
  process : Bytes → σ → Except Fault (List Bytes) × σ

namespace Processor

variable {σ : Type}

/-- The processor that keeps every record. -/
def passThrough : Processor Unit := ⟨fun record s => (.ok [record], s)⟩

/-- Everything that the processor makes of some records, in order, up to the first fault. -/
def run (p : Processor σ) : List Bytes → σ → Except Fault (List Bytes) × σ
  | [], s => (.ok [], s)
  | record :: rest, s =>
    match p.process record s with
    | (.error fault, s) => (.error fault, s)
    | (.ok outputs, s) =>
      match run p rest s with
      | (.ok more, s) => (.ok (outputs ++ more), s)
      | (.error fault, s) => (.error fault, s)

/-- The message made of the records of another: `ignore` if the processor made nothing. -/
def apply (p : Processor σ) (m : Message) (s : σ) : Except Fault Message × σ :=
  match m.records with
  | .error cause => (.error (.error cause), s)
  | .ok records =>
    match p.run records s with
    | (.ok [], s) => (.ok .ignore, s)
    | (.ok outputs, s) => (.ok (.process outputs), s)
    | (.error fault, s) => (.error fault, s)

theorem run_singleton (p : Processor σ) (record : Bytes) (s : σ) :
    p.run [record] s = p.process record s := by
  rw [run]
  split
  · next h => rw [h]
  · next outputs s' h =>
    rw [h]
    simp [run]

/-- What a processor makes of two rows of records is what it makes of the first and then of the
second. Induction on the first. -/
theorem run_append (p : Processor σ) (records more : List Bytes) (s : σ) :
    p.run (records ++ more) s =
      match p.run records s with
      | (.error fault, s) => (.error fault, s)
      | (.ok outputs, s) =>
        match p.run more s with
        | (.ok rest, s) => (.ok (outputs ++ rest), s)
        | (.error fault, s) => (.error fault, s) := by
  induction records generalizing s with
  | nil =>
    simp only [List.nil_append, run]
    rcases p.run more s with ⟨result, last⟩
    cases result <;> rfl
  | cons record records ih =>
    rw [List.cons_append, run, run]
    rcases p.process record s with ⟨result, behind⟩
    cases result with
    | error fault => rfl
    | ok outputs =>
      simp only [ih behind]
      rcases p.run records behind with ⟨result, mid⟩
      cases result with
      | error fault => rfl
      | ok later =>
        simp only
        rcases p.run more mid with ⟨result, last⟩
        cases result with
        | error fault => rfl
        | ok rest => simp only [List.append_assoc]

end Processor

end RecordFarm
