import RecordFarm.ByteStream
import RecordFarm.Item
/-!
# Reading record files

A record file is a row of records. A reader takes them from a byte stream one at a time, or a
block of them at a time, and counts what it has read. The end of the file between two records is
the end of the source; anywhere else it is an error.
-/

namespace RecordFarm

inductive ReadMode where
  | single
  | block
  deriving DecidableEq, Inhabited, Repr

structure RecordReader where
  stream : InStream
  mode : ReadMode
  /-- The records of one block. -/
  blockRecords : Nat
  recordsRead : Nat := 0
  bytesRead : Nat := 0
  /-- Whether the end was found. -/
  finished : Bool := false
  deriving Repr

namespace RecordReader

/-- A reader at the start of a stream. A block has at least one record. -/
def new (stream : InStream) (mode : ReadMode) (blockRecords : Nat) : RecordReader where
  stream
  mode
  blockRecords := max blockRecords 1

/-- The next record, or nothing at the end of the file. -/
def readRecord (r : RecordReader) : Except Error (Option Bytes) × RecordReader :=
  match r.stream.fill Record.headerSize with
  | (.error text, stream) => (.error (.stream text), { r with stream })
  | (.ok [], stream) => (.ok none, { r with stream })
  | (.ok header, stream) =>
    let r := { r with stream }
    match Record.size? header with
    | none => (.error (Violation.truncatedHeader r.recordsRead header.length), r)
    | some size =>
      if size < Record.headerSize then
        (.error (Violation.sizeBelowHeader r.recordsRead size), r)
      else
        let wanted := size - Record.headerSize
        match r.stream.fill wanted with
        | (.error text, stream) => (.error (.stream text), { r with stream })
        | (.ok body, stream) =>
          let got := body.length
          if got < wanted then
            (.error (Violation.truncatedBody r.recordsRead got wanted), { r with stream })
          else
            (.ok (some (header ++ body)),
              { r with
                stream
                recordsRead := r.recordsRead + 1
                bytesRead := r.bytesRead + size })

def readRecords : Nat → RecordReader → Except Error (List Bytes) × RecordReader
  | 0, r => (.ok [], r)
  | left + 1, r =>
    match r.readRecord with
    | (.error cause, r) => (.error cause, r)
    | (.ok none, r) => (.ok [], r)
    | (.ok (some record), r) =>
      match readRecords left r with
      | (.ok more, r) => (.ok (record :: more), r)
      | (.error cause, r) => (.error cause, r)

/-- The next block of records, or nothing at the end of the file. -/
def readBlock (r : RecordReader) : Except Error (Option Bytes) × RecordReader :=
  match readRecords r.blockRecords r with
  | (.error cause, r) => (.error cause, r)
  | (.ok [], r) => (.ok none, r)
  | (.ok records, r) =>
    match Batch.pack records with
    | .ok batch => (.ok (some batch.data), r)
    | .error cause => (.error cause, r)

/-- The next item. Once the end was found, it is the end for ever. -/
def read (r : RecordReader) : Except Error Item × RecordReader :=
  if r.finished then (.ok .endOfData, r)
  else
    let taken := match r.mode with
      | .single => r.readRecord
      | .block => r.readBlock
    match taken with
    | (.error cause, r) => (.error cause, r)
    | (.ok (some bytes), r) => (.ok ⟨bytes⟩, r)
    | (.ok none, r) => (.ok .endOfData, { r with finished := true })

end RecordReader

end RecordFarm
