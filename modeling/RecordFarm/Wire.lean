import RecordFarm.Batch
import RecordFarm.Message
/-!
# Messages on the wire

A message travels as a list of frames: the code of its kind, then its parts. Before a hop the
records of a `process` message are gathered into one batch, so that it travels as three frames
however many records it carries.

A `process` message holds its records in one of two shapes: one record in each part, or a batch,
that is a record count and a block. `records` reads both.
-/

namespace RecordFarm

/-- What a socket transports at once. -/
abbrev Frames := List Bytes

namespace Message

def toFrames (m : Message) : Except Violation Frames :=
  if m.kind.isWireVisible then .ok (Bytes.ofUInt32 m.kind.code :: m.parts)
  else .error (.notOnWire m.kind)

def ofFrames : Frames → Except Violation Message
  | [] => .error .noFrames
  | code :: parts =>
    match Bytes.toUInt32? code with
    | some code => .ok ⟨.ofCode code, parts⟩
    | none => .error (.typeFrameLength code.length)

def ofBatch (batch : Batch) : Message := process [batch.countBytes, batch.data]

/-- The message that carries the given records as one batch. -/
def ofRecords (records : List Bytes) : Except Violation Message :=
  (Batch.pack records).map ofBatch

def toBatch (m : Message) : Except Violation Batch :=
  if m.kind = .process then
    match m.parts with
    | [count, block] =>
      match Bytes.toUInt32? count with
      | some count => Batch.ofBlock count block
      | none => .error (.countFrameLength count.length)
    | parts => .error (.batchParts parts.length)
  else .error (.notProcess m.kind)

/-- The records that a message carries, in either shape. -/
def records (m : Message) : Except Violation (List Bytes) :=
  if m.parts.all Record.isWhole then .ok m.parts
  else m.toBatch >>= Batch.records

/-- The frames of a message with its records gathered into one batch. -/
def toFramesBatched (m : Message) : Except Violation Frames :=
  if m.kind = .process then do
    let batched ← m.records >>= ofRecords
    batched.toFrames
  else m.toFrames

end Message

end RecordFarm
