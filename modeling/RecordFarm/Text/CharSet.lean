/-!
# Sets of characters

A set of characters is written down as ranges of code points, lowest first. The search stops as
soon as it is past the character.
-/

namespace RecordFarm

namespace Text

/-- Ranges of code points, both ends included. -/
structure CharSet where
  ranges : List (Nat × Nat)
  deriving DecidableEq, Repr

namespace CharSet

/-- Whether a code point is in one of some ascending ranges. -/
def search (n : Nat) : List (Nat × Nat) → Bool
  | [] => false
  | (low, high) :: rest => decide (low ≤ n) && (decide (n ≤ high) || search n rest)

def contains (s : CharSet) (c : Char) : Bool := search c.toNat s.ranges

end CharSet

end Text

end RecordFarm
