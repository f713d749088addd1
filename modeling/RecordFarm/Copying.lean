import RecordFarm.Sink.File
import RecordFarm.Source.File
/-!
# Copying record files

A source can be copied to a writer without any element in between: every message is written, up to
and including the end of the stream.
-/

namespace RecordFarm

structure Copying where
  source : FileSource
  writer : RecordWriter
  /-- The messages written so far. -/
  messages : Nat := 0

namespace Copying

/-- Writes the next message; whether it was the last. -/
def step (c : Copying) : Except Error Bool × Copying :=
  match c.source.next with
  | (.error cause, source) => (.error cause, { c with source })
  | (.ok m, source) =>
    match c.writer.send m with
    | (.error cause, writer) => (.error cause, { c with source, writer })
    | (.ok (), writer) =>
      if m.isEnd then (.ok true, { c with source, writer })
      else (.ok false, { source, writer, messages := c.messages + 1 })

def run : Nat → Copying → Except Error Unit × Copying
  | 0, c => (.ok (), c)
  | left + 1, c =>
    match c.step with
    | (.error cause, c) => (.error cause, c)
    | (.ok true, c) => (.ok (), c)
    | (.ok false, c) => run left c

end Copying

end RecordFarm
