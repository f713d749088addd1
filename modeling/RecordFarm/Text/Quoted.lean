import RecordFarm.Text.Blank
import RecordFarm.Text.Extending
/-!
# Quoted text

How a path is shown in a message: between double quotes, with what would break the line or the
quotes, and what cannot be seen, written as an escape.
-/

namespace RecordFarm

namespace Text

/-- The letters that only fill a place. -/
def fillers : List Char := ['\u115f', '\u1160', '\u3164', '\uffa0']

/-- Whether a character is seen when it is written as it is. -/
def isVisible (c : Char) : Bool :=
  !(blank.contains c || extending.contains c || fillers.contains c)

def hex (n : Nat) : String := String.ofList (Nat.toDigits 16 n)

def escape (c : Char) : String :=
  if c = '\\' then "\\\\"
  else if c = '"' then "\\\""
  else if c = '\n' then "\\n"
  else if c = '\r' then "\\r"
  else if c = '\t' then "\\t"
  else if c.val = 0 then "\\0"
  else if isVisible c then c.toString
  else "\\u\x7b" ++ hex c.val.toNat ++ "\x7d"

def quoted (s : String) : String := "\"" ++ String.join (s.toList.map escape) ++ "\""

end Text

end RecordFarm
