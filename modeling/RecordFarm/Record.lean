import RecordFarm.Error
/-!
# Records and blocks

A record is a byte string that starts with its own length: four bytes, lowest first, which count
themselves. A block is a row of records and nothing else. `split` cuts a block into an announced
number of records, `count` finds out how many there are; both take one record at a time with
`next`.
-/

namespace RecordFarm

namespace Record

def headerSize : Nat := 4

/-- The length that the record starting here announces, if there is room for one. -/
def size? : Bytes → Option Nat
  | a :: b :: c :: d :: _ => some (Bytes.ofWord [a, b, c, d])
  | _ => none

def isWhole (bytes : Bytes) : Bool := size? bytes == some bytes.length

def ofBody (body : Bytes) : Bytes := Bytes.word 4 (body.length + 4) ++ body

def next (block : Bytes) : Except SizeFault (Bytes × Bytes) :=
  match size? block with
  | none => .error (.short block.length)
  | some size =>
    if size < headerSize then .error (.tooSmall size)
    else
      let record := block.take size
      if record.length < size then .error (.tooLarge size block.length)
      else .ok (record, block.drop size)

/-- The records of a block from the `index`-th of `total` on, behind those already found. -/
def splitFrom (total : Nat) : Nat → Nat → List Bytes → Bytes → Except Violation (List Bytes)
  | _, 0, found, [] => .ok found.reverse
  | _, 0, _, rest => .error (.trailingBytes rest.length total)
  | index, left + 1, found, rest =>
    match next rest with
    | .error fault => .error (.badRecord index total fault)
    | .ok (record, rest) => splitFrom total (index + 1) left (record :: found) rest

/-- The records of a block that must hold `total` of them and nothing else. -/
def split (block : Bytes) (total : UInt32) : Except Violation (List Bytes) :=
  splitFrom total.toNat 0 total.toNat [] block

/-- A record that was cut off is where its block begins, with room for its own size. -/
theorem next_ok {block record rest : Bytes} (h : next block = .ok (record, rest)) :
    block = record ++ rest ∧ size? block = some record.length ∧ 4 ≤ record.length := by
  unfold next at h
  split at h
  · simp at h
  · next size hsize =>
    split at h
    · simp at h
    · next hsmall =>
      simp only at h
      split at h
      · simp at h
      · next hlong =>
        simp only [Except.ok.injEq, Prod.mk.injEq] at h
        obtain ⟨rfl, rfl⟩ := h
        have hlen : (block.take size).length = size := by
          have := List.length_take_le size block
          omega
        simp only [headerSize] at hsmall
        refine ⟨(List.take_append_drop size block).symm, ?_, by omega⟩
        rw [hlen, hsize]

/-- Cutting a record off leaves less. -/
theorem length_of_next {block record rest : Bytes} (h : next block = .ok (record, rest)) :
    rest.length < block.length := by
  obtain ⟨hcat, _, hfour⟩ := next_ok h
  rw [hcat, List.length_append]
  omega

/-- How many records a block holds from the `index`-th on, counting those before. -/
def countFrom (index : Nat) (block : Bytes) : Except Violation Nat :=
  if block.isEmpty then .ok index
  else
    match h : next block with
    | .error fault => .error (.badBlock index fault)
    | .ok (_, rest) => countFrom (index + 1) rest
termination_by block.length
decreasing_by exact length_of_next h

def count (block : Bytes) : Except Violation Nat := countFrom 0 block

end Record

end RecordFarm
