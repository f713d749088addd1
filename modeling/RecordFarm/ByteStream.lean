import RecordFarm.Bytes
/-!
# Byte streams

What a program meets when it reads from a stream, or writes to one, is told ahead as a list of
events. A read may return fewer bytes than were asked for, may be interrupted, may find the end
(and more bytes later), and may fail; a write may be accepted in part, may be refused, and may
fail. `fill` reads until it has enough, `writeAll` writes until nothing is left; both carry on
after an interruption.
-/

namespace RecordFarm

/-- What the reads of a stream meet, in order. When nothing is left, every read finds the end. -/
inductive Arrival where
  /-- Bytes arrive. No bytes: one read finds the end. -/
  | bytes (chunk : Bytes)
  /-- One read is interrupted. -/
  | interrupted
  /-- From here on every read fails. -/
  | failure (text : String)
  deriving DecidableEq, Repr

abbrev InStream := List Arrival

namespace InStream

/-- Reads until `wanted` bytes are there or a read finds the end. Gives what was read and the
rest of the stream, which no longer holds what was read when the stream fails. -/
def fill : Nat → InStream → Except String Bytes × InStream
  | 0, stream => (.ok [], stream)
  | _, [] => (.ok [], [])
  | wanted, .interrupted :: stream => fill wanted stream
  | _, .failure text :: stream => (.error text, .failure text :: stream)
  | _, .bytes [] :: stream => (.ok [], stream)
  | wanted, .bytes chunk :: stream =>
    let got := chunk.take wanted
    match chunk.drop wanted with
    | [] =>
      match fill (wanted - got.length) stream with
      | (.ok more, stream) => (.ok (got ++ more), stream)
      | (.error text, stream) => (.error text, stream)
    | rest => (.ok got, .bytes rest :: stream)

def ofBytes (bytes : Bytes) : InStream := if bytes.isEmpty then [] else [.bytes bytes]

end InStream

/-- What the writes to a stream meet, in order. When nothing is left, every write is accepted. -/
inductive Acceptance where
  /-- So many bytes are accepted, in one write or in several. -/
  | room (size : Nat)
  /-- One write is interrupted. -/
  | interrupted
  /-- From here on every write accepts nothing. -/
  | full
  /-- From here on every write fails. -/
  | failure (text : String)
  deriving DecidableEq, Repr

structure OutStream where
  /-- What was accepted, newest write first. -/
  chunks : List Bytes := []
  /-- What the next writes meet. -/
  ahead : List Acceptance := []
  /-- Why flushing fails, if it does. -/
  flushFailure : Option String := none
  deriving DecidableEq, Repr

namespace OutStream

def written (out : OutStream) : Bytes := out.chunks.reverse.flatten

def push (out : OutStream) (bytes : Bytes) : OutStream :=
  if bytes.isEmpty then out else { out with chunks := bytes :: out.chunks }

/-- Writes all the bytes; gives how much was accepted and the error that cut the writing short. -/
def accept : List Acceptance → Bytes → Except String Unit × Bytes × List Acceptance
  | ahead, [] => (.ok (), [], ahead)
  | [], bytes => (.ok (), bytes, [])
  | .interrupted :: ahead, bytes => accept ahead bytes
  | .full :: ahead, _ => (.error "failed to write whole buffer", [], .full :: ahead)
  | .failure text :: ahead, _ => (.error text, [], .failure text :: ahead)
  | .room size :: ahead, bytes =>
    let head := bytes.take size
    if head.length < size then (.ok (), bytes, .room (size - head.length) :: ahead)
    else
      match accept ahead (bytes.drop size) with
      | (result, tail, ahead) => (result, head ++ tail, ahead)

/-- Writes all the bytes, as far as they are accepted. -/
def writeAll (out : OutStream) (bytes : Bytes) : Except String Unit × OutStream :=
  match accept out.ahead bytes with
  | (result, accepted, ahead) => (result, { out.push accepted with ahead })

def flush (out : OutStream) : Except String Unit :=
  match out.flushFailure with
  | some text => .error text
  | none => .ok ()

@[simp] theorem written_push (out : OutStream) (bytes : Bytes) :
    (out.push bytes).written = out.written ++ bytes := by
  unfold push written
  cases bytes <;> simp

end OutStream

end RecordFarm
