/-!
# Readers

A reader takes a part off the front of a text and gives what it stands for, or fails. Readers are
tried one after the other; one that failed has taken nothing.
-/

namespace RecordFarm

namespace Toml

/-- Takes a part off the front of a text. -/
abbrev Reader := StateT (List Char) Option

namespace Reader

variable {α β : Type}

def char (isIn : Char → Bool) : Reader Char := fun
  | c :: rest => if isIn c then some (c, rest) else none
  | [] => none

def just (c : Char) : Reader Unit := discard (char (· == c))

/-- Takes all characters of a class up to the first that is not in it. -/
def span (isIn : Char → Bool) : Reader (List Char) := fun text =>
  some (text.takeWhile isIn, text.dropWhile isIn)

def span1 (isIn : Char → Bool) : Reader (List Char) := do
  let first ← char isIn
  return first :: (← span isIn)

def word (w : List Char) : Reader Unit := w.forM just

def times (count : Nat) (isIn : Char → Bool) : Reader (List Char) :=
  (List.replicate count ()).mapM fun _ => char isIn

def atEnd : Reader Unit := fun text => if text.isEmpty then some ((), text) else none

def upTo (part : Reader α) : Nat → Reader (List α)
  | 0 => pure []
  | count + 1 =>
    (do
      let first ← part
      return first :: (← upTo part count)) <|> pure []

/-- Reads parts as long as there are any. Every part takes something, so there are no more parts
than characters. -/
def many (part : Reader α) : Reader (List α) := fun text => upTo part text.length text

def separated (mark : Reader β) (part : Reader α) : Reader (List α) :=
  (do
    let first ← part
    return first :: (← many (do discard mark; part))) <|> pure []

def maybe (part : Reader α) : Reader Unit := discard part <|> pure ()

end Reader

end Toml

end RecordFarm
