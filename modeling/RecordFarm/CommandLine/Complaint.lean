/-!
# Complaints

A run that failed says what was being done and, below that, why it failed. Where one reason has
another behind it they are numbered.
-/

namespace RecordFarm

namespace CommandLine

structure Complaint where
  /-- What was being done, or what is wrong. -/
  note : String
  /-- The reasons, outermost first. -/
  causes : List String := []
  deriving DecidableEq, Repr

namespace Complaint

/-- A text behind a label, its further lines as far to the right as the first. -/
def indented (label margin text : String) : String :=
  label ++ ("\n" ++ margin).intercalate (text.splitOn "\n")

/-- The number of a reason, as wide as its margin. -/
def label (number : Nat) : String :=
  let digits := toString number
  String.ofList (List.replicate (5 - digits.length) ' ') ++ digits ++ ": "

/-- The reasons, each on a line of its own. -/
def reasons : List String → List String
  | [] => []
  | [cause] => [indented "    " "    " cause]
  | causes =>
    causes.zipIdx.map fun (cause, number) => indented (label number) "       " cause

def text (c : Complaint) : String :=
  let below := match reasons c.causes with
    | [] => ""
    | lines => "\n\nCaused by:\n" ++ "\n".intercalate lines
  "Error: " ++ c.note ++ below ++ "\n"

end Complaint

end CommandLine

end RecordFarm
