import RecordFarm.Wire
/-!
# Items

An item is what a data source yields at a time: the bytes of one record or of a block of them.
The empty item says that the source has ended. A converter turns items into messages.
-/

namespace RecordFarm

/-- What a data source yields. -/
structure Item where
  bytes : Bytes
  deriving DecidableEq, Inhabited, Repr

namespace Item

def endOfData : Item := ⟨[]⟩

def isEnd (item : Item) : Bool := item.bytes.isEmpty

end Item

/-- What the items of a source hold. -/
inductive Converter where
  /-- One record in each item. -/
  | record
  /-- A block of records in each item. -/
  | block
  deriving DecidableEq, Inhabited, Repr

def Converter.convert (converter : Converter) (item : Item) : Except Violation Message :=
  if item.isEnd then .ok .endOfStream
  else
    match converter with
    | .record => .ok (.process [item.bytes])
    | .block => do
      let count ← Record.count item.bytes
      let batch ← Batch.ofBlock (UInt32.ofNat count) item.bytes
      .ok (.ofBatch batch)

end RecordFarm
