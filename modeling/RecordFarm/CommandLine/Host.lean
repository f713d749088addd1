import RecordFarm.ByteStream
/-!
# Where files live

A run needs little of the machine it runs on: to see whether files can be opened and created, to
read them and to write them. A host provides that.
-/

namespace RecordFarm

/-- A machine on which runs happen. A reason is given where something cannot be done. -/
class Host (m : Type → Type) where
  /-- Why a file cannot be opened, if so. -/
  refusal? : String → m (Option String)
  /-- Makes a file empty; why that cannot be done, if so. -/
  create : String → m (Option String)
  /-- What reading a file that can be opened meets. -/
  read : String → m InStream
  /-- Fills a file that was created. -/
  write : String → Bytes → m Unit

namespace Host

/-- The whole of a file, or why it cannot be read. -/
def contents {m : Type → Type} [Monad m] [Host m] (path : String) : m (Except String Bytes) := do
  match ← refusal? path with
  | some reason => return .error reason
  | none =>
    return (← read path).foldlM (fun bytes event =>
      match event with
      | .bytes chunk => .ok (bytes ++ chunk)
      | .interrupted => .ok bytes
      | .failure reason => .error reason) []

end Host

end RecordFarm
