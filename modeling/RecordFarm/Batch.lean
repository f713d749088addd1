import RecordFarm.Record
/-!
# Batches

A batch is a block together with the number of its records and of its bytes, both 32-bit words.
`ofBlock` checks a block against its count, `pack` lays records end to end.
-/

namespace RecordFarm

/-- A block and what its header says about it. -/
structure Batch where
  itemCount : UInt32
  byteCount : UInt32
  data : Bytes
  deriving DecidableEq, Inhabited, Repr

namespace Batch

/-- The batch of a block whose record count is known; the length must fit its word. -/
def sized (itemCount : UInt32) (data : Bytes) : Except Violation Batch :=
  let size := data.length
  if size < UInt32.size then .ok ⟨itemCount, UInt32.ofNat size, data⟩
  else .error (.blockTooLarge size)

/-- The batch of a block that holds exactly `itemCount` records. -/
def ofBlock (itemCount : UInt32) (data : Bytes) : Except Violation Batch := do
  let _ ← Record.split data itemCount
  sized itemCount data

def pack (records : List Bytes) : Except Violation Batch :=
  sized (UInt32.ofNat records.length) records.flatten

def records (batch : Batch) : Except Violation (List Bytes) :=
  Record.split batch.data batch.itemCount

/-- The wire form of the record count. -/
def countBytes (batch : Batch) : Bytes := Bytes.ofUInt32 batch.itemCount

end Batch

end RecordFarm
