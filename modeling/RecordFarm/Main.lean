import RecordFarm.CommandLine.Run
/-!
# The command

The files of a run are those of the machine.
-/

namespace RecordFarm

/-- The machine's word for what went wrong with a file. -/
def reasonOf : IO.Error → String
  | .noFileOrDirectory _ code details => s!"{details} (os error {code})"
  | .inappropriateType _ code details => s!"{details} (os error {code})"
  | .permissionDenied _ code details => s!"{details} (os error {code})"
  | .invalidArgument _ code details => s!"{details} (os error {code})"
  | .alreadyExists _ code details => s!"{details} (os error {code})"
  | .resourceExhausted _ code details => s!"{details} (os error {code})"
  | .noSuchThing _ code details => s!"{details} (os error {code})"
  | .resourceBusy code details => s!"{details} (os error {code})"
  | .otherError code details => s!"{details} (os error {code})"
  | other => other.toString

def failureOf (act : IO Unit) : IO (Option String) := do
  try
    act
    return none
  catch cause => return some (reasonOf cause)

instance : Host IO where
  refusal? path := failureOf (discard (IO.FS.Handle.mk path .read))
  create path := failureOf (discard (IO.FS.Handle.mk path .write))
  read path := do
    try
      return .ofBytes (← IO.FS.readBinFile path).toList
    catch cause => return [.failure (reasonOf cause)]
  write path contents := IO.FS.writeBinFile path ⟨contents.toArray⟩

end RecordFarm

def main (arguments : List String) : IO UInt32 := do
  let finish ← RecordFarm.CommandLine.run arguments
  IO.print finish.output
  IO.eprint finish.errors
  return finish.status.toUInt32
