import RecordFarm.ByteStream
/-!
# Streams that deliver in pieces

The same bytes can reach a reader in many ways: a few at a time, with interruptions, with reads in
between that find the end.
-/

namespace RecordFarm

namespace InStream

/-- Delivers so many bytes at a time, or all at once if that is none. -/
def inPieces (size : Nat) (data : Bytes) : InStream :=
  if _hsize : size = 0 then ofBytes data
  else
    match _hrest : data.drop size with
    | [] => ofBytes data
    | first :: rest => .bytes (data.take size) :: inPieces size (first :: rest)
termination_by data.length
decreasing_by
  have := congrArg List.length _hrest
  simp only [List.length_drop, List.length_cons] at this ⊢
  omega

/-- Every read is interrupted once before it delivers anything. -/
def interrupting (stream : InStream) : InStream :=
  stream.flatMap fun event => [.interrupted, event]

/-- Delivers the bytes from a position on; the reads at these positions, in ascending order, find
the end. A position that is past already counts as the one that is reached. -/
def pausing (position : Nat) (data : Bytes) : List Nat → InStream
  | [] => ofBytes data
  | stop :: stops =>
    let ahead := stop - position
    if data.length < ahead then ofBytes data
    else
      ofBytes (data.take ahead) ++
        .bytes [] :: pausing (max position stop) (data.drop ahead) stops

end InStream

end RecordFarm
