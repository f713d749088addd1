import RecordFarm.ByteStream
import RecordFarm.Wire
/-!
# Writing record files

A writer puts the records of every `process` message on a byte stream and counts them. The end of
the stream, and leaving the writer, flush it; other messages are skipped.
-/

namespace RecordFarm

structure RecordWriter where
  out : OutStream
  recordsWritten : Nat := 0
  bytesWritten : Nat := 0
  deriving Repr

namespace RecordWriter

/-- Writes records one after the other, up to the first failure. -/
def writeRecords : List Bytes → RecordWriter → Except Error Unit × RecordWriter
  | [], w => (.ok (), w)
  | record :: rest, w =>
    match w.out.writeAll record with
    | (.error text, out) => (.error (.stream text), { w with out })
    | (.ok (), out) =>
      writeRecords rest
        { w with
          out
          recordsWritten := w.recordsWritten + 1
          bytesWritten := w.bytesWritten + record.length }

def flush (w : RecordWriter) : Except Error Unit := w.out.flush.mapError .stream

def send (w : RecordWriter) (m : Message) : Except Error Unit × RecordWriter :=
  match m.kind with
  | .process =>
    match m.records with
    | .error cause => (.error cause, w)
    | .ok records => writeRecords records w
  | .endOfStream => (w.flush, w)
  | _ => (.ok (), w)

end RecordWriter

end RecordFarm
